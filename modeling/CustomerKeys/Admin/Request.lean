import CustomerKeys.Admin.Error
import CustomerKeys.Resource

/-!
# Requests to the control plane

The nine calls of the admin interface, each with the type of its answer. Every call addresses one
instance. A client is anything that answers requests while it keeps a state of its own: the
sandbox plane is one, and so is a plane that fails on purpose.
-/

namespace CustomerKeys

/-- A call of the admin interface with its arguments. What is left to the client is the answer, and
the time at which the call is made. -/
inductive Request where
  | createInstance (instanceId : String) (specs : List ClusterSpec)
  | getCluster (instanceId clusterId : String)
  | createCluster (instanceId : String) (spec : ClusterSpec)
  | deleteInstance (instanceId : String)
  | createTable (instanceId tableId : String) (columnFamilies : List String)
  | getEncryption (instanceId tableId : String)
  | createBackup (instanceId : String) (spec : BackupSpec)
  | getBackup (instanceId clusterId backupId : String)
  | deleteBackup (instanceId clusterId backupId : String)
  deriving DecidableEq, Repr

namespace Request

/-- The instance that a call addresses. Every call names one, and no call has an effect on another
instance. -/
def instanceId : Request → String
  | .createInstance instanceId _ => instanceId
  | .getCluster instanceId _ => instanceId
  | .createCluster instanceId _ => instanceId
  | .deleteInstance instanceId => instanceId
  | .createTable instanceId _ _ => instanceId
  | .getEncryption instanceId _ => instanceId
  | .createBackup instanceId _ => instanceId
  | .getBackup instanceId _ _ => instanceId
  | .deleteBackup instanceId _ _ => instanceId

/-- What a successful call returns: the record that was created or looked up, a report of metadata,
or nothing for a deletion. -/
abbrev Answer : Request → Type
  | .createInstance .. => Instance
  | .getCluster .. => Cluster
  | .createCluster .. => Cluster
  | .deleteInstance .. => Unit
  | .createTable .. => Table
  | .getEncryption .. => EncryptionReport
  | .createBackup .. => Backup
  | .getBackup .. => Backup
  | .deleteBackup .. => Unit

/-- The outcome of a call: its answer or a refusal. Its type depends on the request, so no reply has
to be examined for being the right kind of record. -/
abbrev Reply (request : Request) : Type := Except AdminError request.Answer

end Request

/-- Anything that answers requests, with the state it keeps between them. The sandbox plane is one,
and so is any client that a statement about all clients ranges over. -/
abbrev Client (σ : Type) : Type := (request : Request) → σ → request.Reply × σ

end CustomerKeys
