import CustomerKeys.Convergence.Schedule
import CustomerKeys.Resource

/-!
# Settings

The settings say which project and key the scenarios use, where clusters go, and how long to wait.
The first two zones are meant to lie in the region of the key and the third outside it: there the
control plane must refuse the key.
-/

namespace CustomerKeys

/-- What the scenarios are run with: the project and the key under test, three zones for clusters,
whether and how long to wait, and the properties of the resources that are created. -/
structure Settings where
  project : String
  key : String
  primaryZone : String
  siblingZone : String
  foreignZone : String
  waitForKeyStatus : Bool
  idStem : String
  backoff : List UInt64
  serveNodes : UInt32
  storage : StorageType
  backupLifetime : UInt64
  deriving DecidableEq, Repr

namespace Settings

/-- How instance ids begin unless something else is asked. The time of the run and the tag of the
scenario follow behind it. -/
def usualIdStem : String := "cmek-it-"

/-- The nodes of a cluster unless something else is asked. One is the smallest number that is valid.
-/
def usualServeNodes : UInt32 := 1

/-- How long a backup lives unless something else is asked: six hours, in seconds. The teardown
deletes it long before. -/
def usualBackupLifetime : UInt64 := 21600

/-- Settings to start from: two zones of `us-central1`, and one of `us-east1` for the refusal. The
zones are the same for every key, whatever its region. -/
def scaffold (project key : String) : Settings where
  project := project
  key := key
  primaryZone := "us-central1-b"
  siblingZone := "us-central1-c"
  foreignZone := "us-east1-b"
  waitForKeyStatus := false
  idStem := usualIdStem
  backoff := Schedule.usualSeconds
  serveNodes := usualServeNodes
  storage := .ssd
  backupLifetime := usualBackupLifetime

/-- The schedule of waits that the settings ask for. It is made when the settings are validated and
once more when they are put to use. -/
def schedule (settings : Settings) : Except ConvergenceError Schedule :=
  Schedule.ofSeconds settings.backoff

/-- The specification of a cluster with the configured key, nodes and storage. The clusters of the
scenarios differ in their ids and zones alone. -/
def clusterSpec (settings : Settings) (id zone : String) : ClusterSpec :=
  .protectedBy settings.key id zone settings.serveNodes settings.storage

end Settings

end CustomerKeys
