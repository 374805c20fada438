import CustomerKeys.Duration

/-!
# Backoff schedules

A schedule lists the waits between attempts to see a key status converge, in order, and is never
empty. The number of entries is the number of attempts it allows; the last entry is never slept.
-/

namespace CustomerKeys

/-- Why a wait for a key status does not succeed: there is no schedule to follow, it has been used
up, or a report does not have one entry for the cluster. -/
inductive ConvergenceError where
  | emptySchedule
  | timeout (tableId clusterId : String) (attempts : Nat)
  | unexpectedEntries (tableId clusterId : String) (count : Nat)
  deriving DecidableEq, Repr

/-- The text of a failed wait. It names the table and the cluster, and how many attempts were made
or how many entries were found. -/
def ConvergenceError.message : ConvergenceError → String
  | .emptySchedule => "backoff schedule must have at least one step"
  | .timeout tableId clusterId attempts =>
    "key status for table " ++ tableId ++ " on cluster " ++ clusterId ++
      " did not converge after " ++ toString attempts ++ " attempts"
  | .unexpectedEntries tableId clusterId count =>
    "unhandled encryption state: cluster " ++ clusterId ++ " of table " ++ tableId ++
      " reported " ++ toString count ++ " encryption infos"

/-- The waits after the attempts, at least one. That there is one is part of the value, so a tracker
always has an attempt to make. -/
structure Schedule where
  steps : List Duration
  nonempty : steps ≠ []
  deriving DecidableEq

namespace Schedule

/-- A schedule of the given waits, refused when there are none. -/
def ofSteps (steps : List Duration) : Except ConvergenceError Schedule :=
  if nonempty : steps ≠ [] then .ok ⟨steps, nonempty⟩ else .error .emptySchedule

/-- A schedule of waits in whole seconds, which is how settings give it. Each of them is a duration,
so only an empty list is refused. -/
def ofSeconds (seconds : List UInt64) : Except ConvergenceError Schedule :=
  ofSteps (seconds.map Duration.ofSeconds)

/-- The number of attempts a schedule allows. There are as many as waits, though the last wait is
never slept, as nothing comes after the last attempt. -/
def attempts (schedule : Schedule) : Nat := schedule.steps.length

/-- Seconds between attempts unless something else is asked. A key status has been seen to take
about five minutes to appear. -/
def usualSeconds : List UInt64 := [5, 10, 50, 100, 150, 200, 250, 300]

/-- The usual schedule, which settings ask for that do not say anything else about the waits. -/
def usual : Schedule where
  steps := usualSeconds.map Duration.ofSeconds
  nonempty := by simp [usualSeconds]

/-- Every schedule allows an attempt, since it is not empty. -/
theorem attempts_pos (schedule : Schedule) : 0 < schedule.attempts :=
  List.length_pos_iff.mpr schedule.nonempty

end Schedule

end CustomerKeys
