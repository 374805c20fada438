import CustomerKeys.Admin.Error
import CustomerKeys.Scenario.Basic
import CustomerKeys.Settings.Validity

/-!
# How a scenario fails

A scenario ends with the first thing that goes wrong: a call is refused, a wait does not succeed, a
call that must be refused is accepted, the plane reports metadata nobody expects, or what it reports
contradicts the configured key.
-/

namespace CustomerKeys

/-- What a scenario expected and did not find, with both sides as far as the message shows them.
Each check of a scenario has a form of its own here. -/
inductive Mismatch where
  | clusterKey (clusterId : String) (reported : Option String) (key : String)
  | rejectionText (message expected : String)
  | entryCount (expected got : Nat)
  | noEntry (clusterId : String)
  | tableKind (kind : EncryptionKind)
  | notConverged (code : StatusCode)
  | keyStatus (fault : KeyStatusFault)
  | unpinnedBackup (key : String) (encryption : Encryption)
  deriving DecidableEq, Repr

/-- An optional text the way messages show it: a cluster may report no key at all, and the message
then says so. -/
def quotedOption : Option String → String
  | none => "None"
  | some text => "Some(" ++ Text.quoted text ++ ")"

/-- The text of a mismatch. It says what was reported and, where that is not fixed, what had been
expected in its place. -/
def Mismatch.message : Mismatch → String
  | .clusterKey clusterId reported key =>
    "cluster " ++ clusterId ++ " reports key " ++ quotedOption reported ++ ", expected " ++ key
  | .rejectionText message expected =>
    "rejection " ++ Text.quoted message ++ " does not contain " ++ Text.quoted expected
  | .entryCount expected got =>
    "expected " ++ toString expected ++ " encryption entries (one per cluster), got " ++
      toString got
  | .noEntry clusterId => "no encryption info for cluster " ++ clusterId
  | .tableKind kind => "table encryption type is " ++ kind.label
  | .notConverged code => "key status is " ++ code.name ++ " after waiting for convergence"
  | .keyStatus fault => fault.message
  | .unpinnedBackup key encryption =>
    "backup is not pinned under key " ++ key ++ ": type " ++ encryption.kind.label ++
      ", version " ++ Text.quoted encryption.keyVersion ++ ", status " ++
      encryption.status.code.name ++ " " ++ Text.quoted encryption.status.message

/-- Metadata for which a scenario has no expectation. It is kept apart from a mismatch, as it points
to a plane that behaves in a new way. -/
inductive Unhandled where
  | clusterEntries (clusterId : String) (count : Nat)
  | tableStatus (code : StatusCode) (message : String)
  deriving DecidableEq, Repr

/-- The text of unhandled metadata: the cluster and the number of its items, or the code and the
text of a status. -/
def Unhandled.message : Unhandled → String
  | .clusterEntries clusterId count =>
    "cluster " ++ clusterId ++ " reported " ++ toString count ++ " encryption infos"
  | .tableStatus code message => "table key status " ++ code.name ++ ": " ++ Text.quoted message

/-- Why a scenario fails. Each cause keeps what it came from, and only the last step turns it into a
text. -/
inductive Failure where
  | settings (fault : SettingsFault)
  | admin (error : AdminError)
  | convergence (error : ConvergenceError)
  | assertion (mismatch : Mismatch)
  | accepted (cluster : Cluster) (key : String)
  | unhandled (state : Unhandled)
  deriving DecidableEq, Repr

/-- The text of a failure, which begins with its kind and goes on with the text of its cause. This
is the reason in a failed verdict. -/
def Failure.message : Failure → String
  | .settings fault => settingsComplaint fault.message
  | .admin error => "admin error: " ++ error.message
  | .convergence error => "convergence error: " ++ error.message
  | .assertion mismatch => "assertion failed: " ++ mismatch.message
  | .accepted cluster key =>
    "unexpected success: cluster " ++ cluster.id ++ " in zone " ++ cluster.zone ++
      " was created with key " ++ key
  | .unhandled state => "unhandled encryption state: " ++ state.message

end CustomerKeys
