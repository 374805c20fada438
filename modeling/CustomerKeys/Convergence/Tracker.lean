import CustomerKeys.Convergence.Schedule
import CustomerKeys.Status

/-!
# Tracking a key status

The tracker is told what each fetch showed and says what to do next. It knows neither the network
nor a clock. It pends until it sees the status `OK` or uses up its schedule; both ends are final,
and what is observed after them changes nothing.
-/

namespace CustomerKeys

/-- What one fetch showed about a cluster: the code of its key status, no entry for the cluster at
all, or a fetch that was refused. -/
inductive Observation where
  | status (code : StatusCode)
  | absent
  | fetchFailed
  deriving DecidableEq, Repr

/-- What to do after a fetch: stop since the status is good, sleep and fetch again, or stop since
the schedule is used up. -/
inductive Action where
  | finish
  | sleep (delay : Duration)
  | giveUp
  deriving DecidableEq

/-- Where a tracker stands. A tracker could be said to keep two facts, whether its state is pending
or converged and whether its schedule is used up, and then have four combinations. It starts with
neither, and `step` never sets both: so there are three that it can reach, and these are the phases.
-/
inductive Phase where
  | pending
  | converged
  | exhausted
  deriving DecidableEq, Repr

/-- A wait in progress: its schedule, the observations consumed while pending, and its phase. It is
built by `start` and moved by `step`. -/
structure Tracker where
  schedule : Schedule
  attempts : Nat
  phase : Phase
  deriving DecidableEq

namespace Tracker

/-- A tracker before its first observation: no attempt is made yet, and the whole schedule lies
ahead. -/
def start (schedule : Schedule) : Tracker := ⟨schedule, 0, .pending⟩

/-- The status has been seen as `OK`. From then on nothing that is observed makes a difference. -/
def hasConverged (tracker : Tracker) : Bool := tracker.phase = .converged

/-- The schedule is used up without an `OK`. A tracker that has converged on its last attempt is not
exhausted. -/
def isExhausted (tracker : Tracker) : Bool := tracker.phase = .exhausted

/-- The tracker after one more attempt, in the phase that the attempt has led to. The schedule stays
as it is. -/
def advance (tracker : Tracker) (phase : Phase) : Tracker :=
  ⟨tracker.schedule, tracker.attempts + 1, phase⟩

/-- Take in an observation. While attempts are left, any observation but `OK` asks for the wait that
stands at its place in the schedule; the last attempt gives up instead. -/
def step (tracker : Tracker) (observation : Observation) : Action × Tracker :=
  match tracker.phase with
  | .converged => (.finish, tracker)
  | .exhausted => (.giveUp, tracker)
  | .pending =>
    if observation = .status .ok then (.finish, tracker.advance .converged)
    else if early : tracker.attempts + 1 < tracker.schedule.steps.length then
      (.sleep tracker.schedule.steps[tracker.attempts], tracker.advance .pending)
    else (.giveUp, tracker.advance .exhausted)

/-- The attempts a schedule still allows. A wait that follows a tracker ends because this number
decreases from sleep to sleep. -/
def remaining (tracker : Tracker) : Nat := tracker.schedule.attempts - tracker.attempts

/-- After a wait the tracker has the same schedule and one attempt fewer. This is why following a
tracker comes to an end. -/
theorem remaining_lt_of_sleep {tracker next : Tracker} {observation : Observation}
    {delay : Duration} (slept : tracker.step observation = (.sleep delay, next)) :
    next.remaining < tracker.remaining := by
  unfold step at slept
  split at slept
  · simp at slept
  · simp at slept
  · split at slept
    · simp at slept
    · split at slept
      · rename_i early
        simp only [Prod.mk.injEq] at slept
        rw [← slept.2]
        simp only [remaining, advance, Schedule.attempts]
        omega
      · simp at slept

end Tracker

end CustomerKeys
