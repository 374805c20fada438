import CustomerKeys.Admin.Script
import CustomerKeys.Convergence.Tracker

/-!
# Waiting for a key status

`Watch.script` fetches a table's metadata until one cluster's status is `OK`, sleeping between the
fetches as the schedule says. A fetch that is refused, or that has no entry for the cluster, counts
as an attempt like any other. An entry that holds anything but one item ends the wait with an error.

The time waited is added up. When the sum has no answer the script aborts, after the sleep that
would have been added.
-/

namespace CustomerKeys

/-- How a successful wait went: the fetches made, the one that saw `OK` included, and the time
slept. -/
structure Convergence where
  attempts : Nat
  waited : Duration
  deriving DecidableEq

/-- The cluster whose key status is awaited, and the table that reports it. -/
structure Watch where
  instanceId : String
  tableId : String
  clusterId : String
  deriving DecidableEq, Repr

namespace Watch

/-- What a fetch shows about the cluster, or the number of its items when that is not one. -/
def observe (watch : Watch) : Except AdminError EncryptionReport → Except Nat Observation
  | .error _ => .ok .fetchFailed
  | .ok report =>
    match report[watch.clusterId]? with
    | none => .ok .absent
    | some [encryption] => .ok (.status encryption.status.code)
    | some entries => .error entries.length

/-- Fetch and follow a tracker until it finishes or gives up. The attempts left decrease from sleep
to sleep. -/
def follow (watch : Watch) (tracker : Tracker) (waited : Duration) :
    Script (Except ConvergenceError Convergence) :=
  .call (.getEncryption watch.instanceId watch.tableId) fun reply =>
    match watch.observe reply with
    | .error count => .done (.error (.unexpectedEntries watch.tableId watch.clusterId count))
    | .ok observation =>
      match stepped : tracker.step observation with
      | (.finish, after) => .done (.ok ⟨after.attempts, waited⟩)
      | (.giveUp, after) =>
        .done (.error (.timeout watch.tableId watch.clusterId after.attempts))
      | (.sleep delay, after) =>
        have : after.remaining < tracker.remaining := Tracker.remaining_lt_of_sleep stepped
        .sleep delay <|
          match waited.add? delay with
          | none => .abort .durationOverflow
          | some longer => watch.follow after longer
termination_by tracker.remaining

/-- Wait until the cluster's key status is `OK` or the schedule is used up. -/
def script (watch : Watch) (schedule : Schedule) : Script (Except ConvergenceError Convergence) :=
  watch.follow (.start schedule) .zero

end Watch

end CustomerKeys
