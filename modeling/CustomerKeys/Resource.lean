import CustomerKeys.Encryption
import Std.Data.ExtTreeMap

/-!
# Resources

Instances hold clusters, tables and backups. A cluster is asked for by a specification and keeps
every field of it; a table reports encryption metadata per cluster. Times are seconds since the
epoch.
-/

namespace CustomerKeys

/-- Values by name, listed in the order of the names. The plane keeps its instances, clusters,
tables and backups in this way, and two such maps are equal when all look-ups agree. -/
abbrev ByName (α : Type) : Type := Std.ExtTreeMap String α

/-- The storage medium of a cluster. It is chosen in the settings, handed to every cluster that a
scenario asks for, and kept in the record of the cluster. -/
inductive StorageType where
  | ssd
  | hdd
  deriving DecidableEq, Repr

/-- The name by which documents refer to a storage medium, in the settings as well as in the records
of clusters. -/
def StorageType.name : StorageType → String
  | .ssd => "SSD"
  | .hdd => "HDD"

/-- Every storage medium, in the order in which a message enumerates them when a document names one
that does not exist. -/
def StorageType.all : List StorageType := [.ssd, .hdd]

/-- What is asked of a new cluster: its id, its zone, its size and storage, and the key that
protects it. The key, if there is one, cannot be changed later. -/
structure ClusterSpec where
  id : String
  zone : String
  serveNodes : UInt32
  storage : StorageType
  key : Option String
  deriving DecidableEq, Repr

/-- A specification with a key. All clusters of the scenarios are asked for in this way; those
without a key only occur in requests of others. -/
def ClusterSpec.protectedBy (key id zone : String) (serveNodes : UInt32) (storage : StorageType) :
    ClusterSpec :=
  ⟨id, zone, serveNodes, storage, some key⟩

/-- A cluster of an instance, as it is stored when it is created and returned by every look-up: what
its specification asked for and the instance it belongs to. -/
structure Cluster where
  id : String
  instanceId : String
  zone : String
  serveNodes : UInt32
  storage : StorageType
  key : Option String
  deriving DecidableEq, Repr

/-- The cluster that a specification asks of an instance. Every field of the specification is taken
over, so a record shows what was asked for. -/
def Cluster.ofSpec (instanceId : String) (spec : ClusterSpec) : Cluster :=
  ⟨spec.id, instanceId, spec.zone, spec.serveNodes, spec.storage, spec.key⟩

/-- An instance as reported when it is created, with the ids of its clusters in the order of the
specifications and the time of the creation. -/
structure Instance where
  id : String
  clusters : List String
  createdAt : UInt64
  deriving DecidableEq, Repr

/-- A table of an instance. Its column families and the time of its creation are kept as they were
asked for; no call reads them again. -/
structure Table where
  id : String
  instanceId : String
  columnFamilies : List String
  createdAt : UInt64
  deriving DecidableEq, Repr

/-- What is asked of a new backup: which table of the instance it is taken of, in which cluster it
is kept and under which id, and when it expires. -/
structure BackupSpec where
  clusterId : String
  backupId : String
  tableId : String
  expireTime : UInt64
  deriving DecidableEq, Repr

/-- A backup of a table, kept in one cluster. Its metadata is settled when it is created and names a
version of the key of that cluster. -/
structure Backup where
  id : String
  clusterId : String
  tableId : String
  expireTime : UInt64
  encryption : Encryption
  deriving DecidableEq, Repr

/-- A table's metadata per cluster. A cluster is expected to report one entry, but an answer may
hold any number, and what reads an answer has to say what it does then. -/
abbrev EncryptionReport : Type := ByName (List Encryption)

end CustomerKeys
