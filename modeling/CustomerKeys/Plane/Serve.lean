import CustomerKeys.Plane.Basic

/-!
# How the plane answers

The nine operations of the plane. Each is given the whole plane, looks up in it what it needs, and
gives back the whole plane beside its answer; a refused one gives it back as it was, except that a
refused read uses up one of the failures of its table. `Handle.perform` carries out a request by the
operation that it names, and `Handle.client` is the plane as a client sees it.

A refusal names its cause; `Refusal.toError` gives the code and the text. Placement of keys is
checked before anything is looked up, in the order in which the clusters are listed.
-/

namespace CustomerKeys

/-- Why the plane refuses a call, with the ids that its text mentions. An operation answers with the
first cause that applies, in the order in which it checks. -/
inductive Refusal where
  | noClusters
  | unusableKey (error : NameError)
  | misplacedKey (key project zone : String)
  | instanceExists (instanceId : String)
  | instanceMissing (instanceId : String)
  | clusterExists (instanceId clusterId : String)
  | clusterMissing (instanceId clusterId : String)
  | tableExists (instanceId tableId : String)
  | tableMissing (instanceId tableId : String)
  | readFailure (tableId : String)
  | alreadyExpired
  | backupExists (clusterId backupId : String)
  | backupMissing (clusterId backupId : String)
  deriving DecidableEq, Repr

/-- The error that a refused call answers with: the code by which callers branch, and the text that
names what is concerned. -/
def Refusal.toError : Refusal → AdminError
  | .noClusters => .invalidArgument "an instance needs at least one cluster"
  | .unusableKey error => .invalidArgument error.message
  | .misplacedKey key project zone => .failedPrecondition <|
    "Error in field 'cluster' : Error in field 'encryption_config.kms_key_name' : CMEK key " ++
      key ++ " cannot be used to protect a cluster in zone " ++ Zone.path project zone
  | .instanceExists instanceId => .alreadyExists ("instance " ++ instanceId ++ " already exists")
  | .instanceMissing instanceId => .notFound ("instance " ++ instanceId ++ " not found")
  | .clusterExists instanceId clusterId =>
    .alreadyExists ("cluster " ++ instanceId ++ "/" ++ clusterId ++ " already exists")
  | .clusterMissing instanceId clusterId =>
    .notFound ("cluster " ++ instanceId ++ "/" ++ clusterId ++ " not found")
  | .tableExists instanceId tableId =>
    .alreadyExists ("table " ++ instanceId ++ "/" ++ tableId ++ " already exists")
  | .tableMissing instanceId tableId =>
    .notFound ("table " ++ instanceId ++ "/" ++ tableId ++ " not found")
  | .readFailure tableId =>
    .unavailable ("encryption info for table " ++ tableId ++ " is temporarily unavailable")
  | .alreadyExpired => .invalidArgument "backup expire time must be in the future"
  | .backupExists clusterId backupId =>
    .alreadyExists ("backup " ++ clusterId ++ "/" ++ backupId ++ " already exists")
  | .backupMissing clusterId backupId =>
    .notFound ("backup " ++ clusterId ++ "/" ++ backupId ++ " not found")

/-- The version of a key that is primary. Tables report it once they have converged, and backups are
pinned to it. -/
def primaryVersion : UInt32 := 1

/-- The name of the primary version of a cluster's key, when the cluster has a readable key. No
other cluster can be created, but the record does not say so. -/
def Cluster.keyVersion (cluster : Cluster) : Option String :=
  match cluster.key with
  | none => none
  | some key =>
    match KeyName.parse key with
    | .ok name => some (name.version primaryVersion)
    | .error _ => none

/-- What a table reports for one cluster, before or after convergence. A cluster without a key
reports the same at both times. -/
def Cluster.tableEncryption (cluster : Cluster) (converged : Bool) : Encryption :=
  match cluster.keyVersion with
  | some version => if converged then .converged version else .pending
  | none => .unmanaged

/-- What a new backup in the cluster reports from then on. It is stored with the backup and not
looked up again. -/
def Cluster.backupEncryption (cluster : Cluster) : Encryption :=
  match cluster.keyVersion with
  | some version => .pinned version
  | none => .unmanaged

namespace Holdings

/-- The holdings of a new instance: its clusters, filed one after the other, and nothing else. Of
two specifications with one id the later one counts. -/
def ofSpecs (instanceId : String) (specs : List ClusterSpec) : Holdings where
  clusters := specs.foldl (fun clusters spec =>
    clusters.insert spec.id (Cluster.ofSpec instanceId spec)) ∅
  tables := ∅
  backups := ∅

/-- What the clusters of an instance report about a table: one item for each cluster, collected
under the id that the cluster's record carries. -/
def report (holdings : Holdings) (converged : Bool) : EncryptionReport :=
  .ofList <| holdings.clusters.toList.map fun (_, cluster) =>
    (cluster.id, [cluster.tableEncryption converged])

end Holdings

namespace Plane

variable (plane : Plane)

/-- Look a cluster up. The plane is only read, and the answer is the record that was stored when the
cluster was created. -/
def getCluster (instanceId clusterId : String) : Except Refusal Cluster × Plane :=
  match plane[instanceId]? with
  | none => (.error (.instanceMissing instanceId), plane)
  | some holdings =>
    match holdings.clusters[clusterId]? with
    | some cluster => (.ok cluster, plane)
    | none => (.error (.clusterMissing instanceId clusterId), plane)

/-- Delete an instance. Its clusters, tables and backups go with it, since they are kept in its
holdings alone. -/
def deleteInstance (instanceId : String) : Except Refusal Unit × Plane :=
  match plane[instanceId]? with
  | none => (.error (.instanceMissing instanceId), plane)
  | some _ => (.ok (), plane.erase instanceId)

/-- Back a table up in a cluster. The lifetime is checked against the clock before anything is
looked up, and the metadata of the backup is settled here: it names the version of the cluster's key
that is primary now. -/
def createBackup (now : UInt64) (instanceId : String) (spec : BackupSpec) :
    Except Refusal Backup × Plane :=
  if spec.expireTime ≤ now then (.error .alreadyExpired, plane)
  else match plane[instanceId]? with
    | none => (.error (.instanceMissing instanceId), plane)
    | some holdings =>
      match holdings.clusters[spec.clusterId]? with
      | none => (.error (.clusterMissing instanceId spec.clusterId), plane)
      | some cluster =>
        if !holdings.tables.contains spec.tableId then
          (.error (.tableMissing instanceId spec.tableId), plane)
        else if holdings.backups.contains (spec.clusterId, spec.backupId) then
          (.error (.backupExists spec.clusterId spec.backupId), plane)
        else
          let backup : Backup :=
            ⟨spec.backupId, spec.clusterId, spec.tableId, spec.expireTime,
              cluster.backupEncryption⟩
          let backups := holdings.backups.insert (spec.clusterId, spec.backupId) backup
          (.ok backup, plane.insert instanceId { holdings with backups := backups })

/-- Look a backup up. The plane is only read, and the answer is the record that was stored when the
backup was taken. -/
def getBackup (instanceId clusterId backupId : String) : Except Refusal Backup × Plane :=
  match plane[instanceId]? with
  | none => (.error (.instanceMissing instanceId), plane)
  | some holdings =>
    match holdings.backups[(clusterId, backupId)]? with
    | some backup => (.ok backup, plane)
    | none => (.error (.backupMissing clusterId backupId), plane)

/-- Delete a backup. Unlike other refusals, the one because there is none does not name the
instance, only the cluster and the backup. -/
def deleteBackup (instanceId clusterId backupId : String) : Except Refusal Unit × Plane :=
  match plane[instanceId]? with
  | none => (.error (.instanceMissing instanceId), plane)
  | some holdings =>
    if holdings.backups.contains (clusterId, backupId) then
      let backups := holdings.backups.erase (clusterId, backupId)
      (.ok (), plane.insert instanceId { holdings with backups := backups })
    else (.error (.backupMissing clusterId backupId), plane)

end Plane

namespace Handle

/-- Why a cluster of this kind cannot be created: its key cannot be read, or does not cover its
zone. A cluster without a key may stand in any zone. -/
def placementRefusal (handle : Handle) (spec : ClusterSpec) : Option Refusal :=
  match spec.key with
  | none => none
  | some key =>
    match KeyName.parse key with
    | .error error => some (.unusableKey error)
    | .ok name =>
      if name.covers spec.zone then none
      else some (.misplacedKey key handle.project spec.zone)

section Operations

variable (handle : Handle) (now : UInt64) (plane : Plane)

/-- Create an instance with its clusters. The list of clusters and the placement of their keys are
checked first, so that a bad specification is refused before it matters whether the id is taken. -/
def createInstance (instanceId : String) (specs : List ClusterSpec) :
    Except Refusal Instance × Plane :=
  if specs.isEmpty then (.error .noClusters, plane)
  else match specs.findSome? handle.placementRefusal with
    | some refusal => (.error refusal, plane)
    | none =>
      if plane.contains instanceId then (.error (.instanceExists instanceId), plane)
      else (.ok ⟨instanceId, specs.map ClusterSpec.id, now⟩,
        plane.insert instanceId (.ofSpecs instanceId specs))

/-- Add a cluster to an instance that exists, under an id that is free there. As for a new instance,
the placement of its key is checked before anything is looked up. -/
def createCluster (instanceId : String) (spec : ClusterSpec) : Except Refusal Cluster × Plane :=
  match handle.placementRefusal spec with
  | some refusal => (.error refusal, plane)
  | none =>
    match plane[instanceId]? with
    | none => (.error (.instanceMissing instanceId), plane)
    | some holdings =>
      if holdings.clusters.contains spec.id then
        (.error (.clusterExists instanceId spec.id), plane)
      else
        let cluster := Cluster.ofSpec instanceId spec
        let clusters := holdings.clusters.insert spec.id cluster
        (.ok cluster, plane.insert instanceId { holdings with clusters := clusters })

/-- Create a table. It has answered no read yet, and will refuse as many as the handle that creates
it asks for, through whichever handle they are made. -/
def createTable (instanceId tableId : String) (families : List String) :
    Except Refusal Table × Plane :=
  match plane[instanceId]? with
  | none => (.error (.instanceMissing instanceId), plane)
  | some holdings =>
    if holdings.tables.contains tableId then (.error (.tableExists instanceId tableId), plane)
    else
      let table : Table := ⟨tableId, instanceId, families, now⟩
      let tables := holdings.tables.insert tableId ⟨table, 0, handle.transientFailures⟩
      (.ok table, plane.insert instanceId { holdings with tables := tables })

/-- Read the metadata of a table. While the table has failures left, the read uses one up and is
refused. After that each read is counted, and keys show as converged once there were more of them
than the reading handle asks for. -/
def getEncryption (instanceId tableId : String) : Except Refusal EncryptionReport × Plane :=
  match plane[instanceId]? with
  | none => (.error (.instanceMissing instanceId), plane)
  | some holdings =>
    match holdings.tables[tableId]? with
    | none => (.error (.tableMissing instanceId tableId), plane)
    | some state =>
      if 0 < state.failuresLeft then
        let failed := { state with failuresLeft := state.failuresLeft - 1 }
        let tables := holdings.tables.insert tableId failed
        (.error (.readFailure state.table.id),
          plane.insert instanceId { holdings with tables := tables })
      else
        let answered := { state with reads := state.reads + 1 }
        let tables := holdings.tables.insert tableId answered
        (.ok (holdings.report (handle.convergenceReads < answered.reads)),
          plane.insert instanceId { holdings with tables := tables })

end Operations

/-- Carry out a request on a plane, at a reading of the clock: its answer or why it is refused, and
the plane afterwards. -/
def perform (handle : Handle) (now : UInt64) (plane : Plane) :
    (request : Request) → Except Refusal request.Answer × Plane
  | .createInstance instanceId specs => handle.createInstance now plane instanceId specs
  | .getCluster instanceId clusterId => plane.getCluster instanceId clusterId
  | .createCluster instanceId spec => handle.createCluster plane instanceId spec
  | .deleteInstance instanceId => plane.deleteInstance instanceId
  | .createTable instanceId tableId families =>
    handle.createTable now plane instanceId tableId families
  | .getEncryption instanceId tableId => handle.getEncryption plane instanceId tableId
  | .createBackup instanceId spec => plane.createBackup now instanceId spec
  | .getBackup instanceId clusterId backupId => plane.getBackup instanceId clusterId backupId
  | .deleteBackup instanceId clusterId backupId => plane.deleteBackup instanceId clusterId backupId

/-- The plane as a client of the admin interface. A caller sees the error that a refusal stands for,
not the refusal itself. -/
def client (handle : Handle) (now : UInt64) : Client Plane := fun request plane =>
  ((handle.perform now plane request).1.mapError Refusal.toError,
    (handle.perform now plane request).2)

end Handle

end CustomerKeys
