import CustomerKeys.Convergence.Tracker

/-!
# What a tracker makes of a sequence of observations

A tracker is fed one observation after the other. Until the first `OK` it asks for the waits of its
schedule in order, one after each observation. If that `OK` comes while attempts are left the
tracker finishes, there and after everything that follows. If it does not, the tracker gives up at
the last attempt and after everything that follows; an `OK` that comes then is like any other
observation.

`Tracker.Stands` says this of one place in a sequence. It is carried from each place to the next, so
it holds at every place of a sequence of any length.
-/

namespace CustomerKeys

/-- The place of the first `OK` in a sequence of observations. -/
def firstOk? (observations : List Observation) : Option Nat :=
  observations.findIdx? (· = .status .ok)

/-- An `OK` at a place that the first one does not precede is the first one. -/
theorem first_ok_eq_some {observations : List Observation} {place : Nat}
    (inside : place < observations.length) (good : observations[place] = .status .ok)
    (undecided : ∀ first, firstOk? observations = some first → place ≤ first) :
    firstOk? observations = some place := by
  cases found : firstOk? observations with
  | none =>
    have none := List.findIdx?_eq_none_iff.mp found _ (List.getElem_mem inside)
    exact absurd good (of_decide_eq_false none)
  | some first =>
    obtain ⟨_, _, before⟩ := List.findIdx?_eq_some_iff_getElem.mp found
    have reached := undecided first found
    have unpreceded : ¬ place < first := fun early => before place early (decide_eq_true good)
    exact congrArg some (Nat.le_antisymm (Nat.not_lt.mp unpreceded) reached)

/-- At the first `OK` there is one. -/
theorem element_of_first_ok {observations : List Observation} {place : Nat}
    (found : firstOk? observations = some place) (inside : place < observations.length) :
    observations[place] = .status .ok := by
  obtain ⟨_, good, -⟩ := List.findIdx?_eq_some_iff_getElem.mp found
  exact of_decide_eq_true good

namespace Tracker

section Step

variable {tracker : Tracker} {observation : Observation} (pending : tracker.phase = .pending)

include pending

/-- A pending tracker finishes at the status `OK`. -/
theorem step_ok : tracker.step (.status .ok) = (.finish, tracker.advance .converged) := by
  simp [step, pending]

/-- After any other observation it asks for a wait while attempts are left. -/
theorem step_early (other : observation ≠ .status .ok)
    (early : tracker.attempts + 1 < tracker.schedule.steps.length) {delay : Duration}
    (scheduled : tracker.schedule.steps[tracker.attempts]? = some delay) :
    tracker.step observation = (.sleep delay, tracker.advance .pending) := by
  obtain ⟨inside, rfl⟩ := List.getElem?_eq_some_iff.mp scheduled
  simp [step, pending, other, early]

/-- At the last attempt it gives up. -/
theorem step_late (other : observation ≠ .status .ok)
    (late : ¬ tracker.attempts + 1 < tracker.schedule.steps.length) :
    tracker.step observation = (.giveUp, tracker.advance .exhausted) := by
  simp [step, pending, other, late]

/-- It finishes at no other observation. -/
theorem eq_ok_of_finish {after : Tracker}
    (finished : tracker.step observation = (.finish, after)) : observation = .status .ok := by
  refine Decidable.byContradiction fun other => ?_
  by_cases early : tracker.attempts + 1 < tracker.schedule.steps.length
  · rw [step_early pending other early (List.getElem?_eq_getElem (Nat.lt_of_succ_lt early))]
      at finished
    cases finished
  · rw [step_late pending other early] at finished
    cases finished

end Step

/-- Feed observations to a tracker, in order: the actions that it asks for, and the tracker
afterwards. -/
def feed : List Observation → Tracker → List Action × Tracker
  | [], tracker => ([], tracker)
  | observation :: rest, tracker =>
    let (action, next) := tracker.step observation
    let (actions, last) := feed rest next
    (action :: actions, last)

/-- The action after an observation is the one that the tracker asks for which the observations
before it have led to. -/
theorem lookup_feed {observations : List Observation} {place : Nat}
    (inside : place < observations.length) (tracker : Tracker) :
    (feed observations tracker).1[place]? =
      some ((feed (observations.take place) tracker).2.step observations[place]).1 := by
  induction observations generalizing place tracker with
  | nil => exact absurd inside (Nat.not_lt_zero place)
  | cons observation rest inductionHypothesis =>
    cases place with
    | zero => rfl
    | succ place => exact inductionHypothesis (Nat.lt_of_succ_lt_succ inside) _

/-- One more observation is one more step. -/
theorem feed_take_succ {observations : List Observation} {place : Nat}
    (inside : place < observations.length) (tracker : Tracker) :
    (feed (observations.take (place + 1)) tracker).2 =
      ((feed (observations.take place) tracker).2.step observations[place]).2 := by
  induction observations generalizing place tracker with
  | nil => exact absurd inside (Nat.not_lt_zero place)
  | cons observation rest inductionHypothesis =>
    cases place with
    | zero => rfl
    | succ place => exact inductionHypothesis (Nat.lt_of_succ_lt_succ inside) _

/-- What a tracker asks for after the observation at a place of a sequence, and where it stands
then: before the first `OK` and before the last attempt, at or behind the first `OK`, or at or
behind the last attempt. -/
inductive Stands (schedule : Schedule) (observations : List Observation) (place : Nat) :
    Action → Tracker → Prop
  | waiting {delay : Duration} (early : place + 1 < schedule.attempts)
    (undecided : ∀ first, firstOk? observations = some first → place < first)
    (scheduled : schedule.steps[place]? = some delay) :
    Stands schedule observations place (.sleep delay) ⟨schedule, place + 1, .pending⟩
  | finished {first : Nat} (found : firstOk? observations = some first)
    (inTime : first < schedule.attempts) (reached : first ≤ place) :
    Stands schedule observations place .finish ⟨schedule, first + 1, .converged⟩
  | exhausted (late : ∀ first, firstOk? observations = some first → schedule.attempts ≤ first)
    (spent : schedule.attempts ≤ place + 1) :
    Stands schedule observations place .giveUp ⟨schedule, schedule.attempts, .exhausted⟩

section Sequence

variable {schedule : Schedule} {observations : List Observation} {place : Nat}

/-- A tracker that has consumed everything before a place and is still pending there. -/
theorem stands_of_pending (inside : place < observations.length) (left : place < schedule.attempts)
    (undecided : ∀ first, firstOk? observations = some first → place ≤ first) :
    Stands schedule observations place (step ⟨schedule, place, .pending⟩ observations[place]).1
      (step ⟨schedule, place, .pending⟩ observations[place]).2 := by
  by_cases good : observations[place] = .status .ok
  · rw [good, step_ok rfl]
    exact .finished (first_ok_eq_some inside good undecided) left (Nat.le_refl place)
  · have later : ∀ first, firstOk? observations = some first → place < first := by
      intro first found
      refine Nat.lt_of_le_of_ne (undecided first found) ?_
      rintro rfl
      exact good (element_of_first_ok found inside)
    by_cases early : place + 1 < schedule.attempts
    · have scheduled := List.getElem?_eq_getElem left
      rw [step_early rfl good early scheduled]
      exact .waiting early later scheduled
    · have last : place + 1 = schedule.attempts := by omega
      rw [step_late rfl good early]
      simp only [advance, last]
      refine .exhausted (fun first found => ?_) (Nat.le_of_eq last.symm)
      exact last ▸ later first found

/-- From one place of a sequence to the next. -/
theorem Stands.next {action : Action} {tracker : Tracker}
    (stands : Stands schedule observations place action tracker)
    (inside : place + 1 < observations.length) :
    Stands schedule observations (place + 1) (tracker.step observations[place + 1]).1
      (tracker.step observations[place + 1]).2 := by
  cases stands with
  | waiting early undecided scheduled => exact stands_of_pending inside early undecided
  | finished found inTime reached => exact .finished found inTime (Nat.le_succ_of_le reached)
  | exhausted late spent => exact .exhausted late (Nat.le_succ_of_le spent)

/-- Where a new tracker stands at each place of a sequence that it is fed. -/
theorem stands_feed (schedule : Schedule) (inside : place < observations.length) :
    let before := (feed (observations.take place) (start schedule)).2
    Stands schedule observations place (before.step observations[place]).1
      (before.step observations[place]).2 := by
  induction place with
  | zero => exact stands_of_pending inside schedule.attempts_pos fun _ _ => Nat.zero_le _
  | succ place inductionHypothesis =>
    have earlier : place < observations.length := Nat.lt_of_succ_lt inside
    simp only [feed_take_succ earlier]
    exact (inductionHypothesis earlier).next inside

namespace Stands

variable {action : Action} {tracker : Tracker}
  (stands : Stands schedule observations place action tracker)

include stands

/-- Around a first `OK` that comes in time the tracker waits and then finishes. -/
theorem action_of_in_time {first : Nat} (found : firstOk? observations = some first)
    (inTime : first < schedule.attempts) :
    (place < first → ∃ delay, schedule.steps[place]? = some delay ∧ action = .sleep delay) ∧
      (first ≤ place → action = .finish) := by
  cases stands with
  | waiting early undecided scheduled =>
    have before := undecided first found
    exact ⟨fun _ => ⟨_, scheduled, rfl⟩, fun reached => absurd before (Nat.not_lt.mpr reached)⟩
  | finished alsoFound _ reached =>
    obtain rfl := Option.some.inj (found.symm.trans alsoFound)
    exact ⟨fun before => absurd before (Nat.not_lt.mpr reached), fun _ => rfl⟩
  | exhausted late _ => exact absurd inTime (Nat.not_lt.mpr (late first found))

/-- Without an `OK` that comes in time it waits and then gives up. -/
theorem action_of_late
    (late : ∀ first, firstOk? observations = some first → schedule.attempts ≤ first) :
    (place < schedule.attempts - 1 →
        ∃ delay, schedule.steps[place]? = some delay ∧ action = .sleep delay) ∧
      (schedule.attempts - 1 ≤ place → action = .giveUp) := by
  cases stands with
  | waiting early _ scheduled => exact ⟨fun _ => ⟨_, scheduled, rfl⟩, fun spent => by omega⟩
  | finished found inTime _ => exact absurd inTime (Nat.not_lt.mpr (late _ found))
  | exhausted _ spent => exact ⟨fun early => by omega, fun _ => rfl⟩

/-- It has converged when a first `OK` came in time. -/
theorem has_converged_iff :
    tracker.hasConverged = true ↔
      ∃ first, firstOk? observations = some first ∧ first ≤ place ∧ first < schedule.attempts := by
  cases stands with
  | waiting _ undecided _ =>
    refine iff_of_false nofun ?_
    rintro ⟨first, found, reached, -⟩
    exact Nat.not_lt.mpr reached (undecided first found)
  | finished found inTime reached => exact iff_of_true rfl ⟨_, found, reached, inTime⟩
  | exhausted late _ =>
    refine iff_of_false nofun ?_
    rintro ⟨first, found, -, inTime⟩
    exact Nat.not_lt.mpr (late first found) inTime

/-- The observations are counted up to the first `OK` and up to the last attempt. -/
theorem attempts_eq :
    (∀ first, firstOk? observations = some first →
      tracker.attempts = min (min (place + 1) (first + 1)) schedule.attempts) ∧
    (firstOk? observations = none → tracker.attempts = min (place + 1) schedule.attempts) := by
  cases stands with
  | waiting early undecided _ =>
    refine ⟨fun first found => ?_, fun _ => (Nat.min_eq_left (Nat.le_of_lt early)).symm⟩
    have before := undecided first found
    simp only
    omega
  | finished found inTime reached =>
    refine ⟨fun first alsoFound => ?_, fun none => nomatch found.symm.trans none⟩
    obtain rfl := Option.some.inj (found.symm.trans alsoFound)
    simp only
    omega
  | exhausted late spent =>
    refine ⟨fun first found => ?_, fun _ => (Nat.min_eq_right spent).symm⟩
    have behind := late first found
    simp only
    omega

/-- It is exhausted when all attempts are used up and it has not converged. -/
theorem is_exhausted_iff :
    tracker.isExhausted = true ↔
      tracker.attempts = schedule.attempts ∧ tracker.hasConverged = false := by
  cases stands with
  | waiting early _ _ => exact iff_of_false nofun fun ⟨used, _⟩ => Nat.ne_of_lt early used
  | finished _ _ _ => exact iff_of_false nofun fun ⟨_, unconverged⟩ => nomatch unconverged
  | exhausted _ _ => exact iff_of_true rfl ⟨rfl, rfl⟩

end Stands

end Sequence

/-- No tracker has both converged and been exhausted. -/
theorem not_converged_and_exhausted (tracker : Tracker) :
    ¬ (tracker.hasConverged = true ∧ tracker.isExhausted = true) := by
  rintro ⟨converged, exhausted⟩
  have same := (of_decide_eq_true converged).symm.trans (of_decide_eq_true exhausted)
  cases same

/-- A tracker in closed form. Feed any sequence of observations to a new tracker and look at one
place of it: at the action asked for there, and at the tracker right after it. If the first `OK` of
the sequence comes within the attempts of the schedule, the tracker asks for the wait at that place
before it, and finishes from it on. If it does not, or there is none, the tracker asks for the wait
before the last attempt, and gives up from that on. It has converged as soon as the first `OK` has
come in time; it counts the observations up to the first `OK` or the last attempt; and it is
exhausted when that count is full without an `OK`, never both. -/
theorem actions_in_closed_form (schedule : Schedule) (observations : List Observation) {place : Nat}
    (inside : place < observations.length) :
    let action := (feed observations (start schedule)).1[place]?
    let after := (feed (observations.take (place + 1)) (start schedule)).2
    let waits := ∃ delay, schedule.steps[place]? = some delay ∧ action = some (.sleep delay)
    (∀ first, firstOk? observations = some first → first < schedule.attempts →
      (place < first → waits) ∧ (first ≤ place → action = some .finish)) ∧
    ((∀ first, firstOk? observations = some first → schedule.attempts ≤ first) →
      (place < schedule.attempts - 1 → waits) ∧
        (schedule.attempts - 1 ≤ place → action = some .giveUp)) ∧
    (after.hasConverged = true ↔
      ∃ first, firstOk? observations = some first ∧ first ≤ place ∧ first < schedule.attempts) ∧
    (∀ first, firstOk? observations = some first →
      after.attempts = min (min (place + 1) (first + 1)) schedule.attempts) ∧
    (firstOk? observations = none → after.attempts = min (place + 1) schedule.attempts) ∧
    (after.isExhausted = true ↔
      after.attempts = schedule.attempts ∧ after.hasConverged = false) ∧
    ¬ (after.hasConverged = true ∧ after.isExhausted = true) := by
  have stands := stands_feed schedule inside
  simp only [lookup_feed inside, feed_take_succ inside, Option.some.injEq]
  obtain ⟨counted, uncut⟩ := stands.attempts_eq
  exact ⟨fun _ found inTime => stands.action_of_in_time found inTime, stands.action_of_late,
    stands.has_converged_iff, counted, uncut, stands.is_exhausted_iff,
    not_converged_and_exhausted _⟩

/-- An `OK` at the third place, and a further observation. A schedule of three attempts has
converged there and finishes; with two attempts the `OK` comes too late, and the tracker has given
up. -/
theorem ok_at_third_place :
    let observations : List Observation := [.fetchFailed, .absent, .status .ok, .status .unknown]
    let three : Schedule := ⟨[.ofSeconds 1, .ofSeconds 2, .ofSeconds 3], by simp⟩
    let two : Schedule := ⟨[.ofSeconds 1, .ofSeconds 2], by simp⟩
    3 < observations.length ∧ firstOk? observations = some 2 ∧
      (feed observations (start three)).1[3]? = some .finish ∧
      (feed observations (start three)).2.attempts = 3 ∧
      (feed observations (start two)).1[3]? = some .giveUp ∧
      (feed observations (start two)).2.isExhausted = true := by
  intro observations three two
  have inside : 3 < observations.length := by decide
  have found : firstOk? observations = some 2 := rfl
  obtain ⟨inTime, -, -, counted, -⟩ := actions_in_closed_form three observations inside
  obtain ⟨-, late, -, countedLate, -, exhausted, -⟩ :=
    actions_in_closed_form two observations inside
  have tooLate : ∀ first, firstOk? observations = some first → two.attempts ≤ first := by
    rintro _ ⟨⟩
    decide
  exact ⟨inside, found, (inTime 2 found (by decide)).2 (by decide), counted 2 found,
    (late tooLate).2 (by decide), exhausted.mpr ⟨countedLate 2 found, rfl⟩⟩

end Tracker

end CustomerKeys
