import CustomerKeys.Convergence.Watch
import CustomerKeys.Proofs.Observations
import CustomerKeys.Proofs.ScriptRuns

/-!
# What a wait for a key status does

A wait makes one and the same request over and over, so all that a client can contribute is the
sequence of its replies to that request. A reply is decisive when it shows the status `OK`, or a
number of entries that is not one. The first decisive reply within the schedule ends the wait;
without one the wait times out after as many fetches as the schedule has entries.

The main result states the whole run: outcome, last state of the client, and every fetch and every
sleep in order. It holds for each client, refusals included, and asks only that the waits between
the attempts add up. Time and cancellation are left out, as they are in scripts.
-/

namespace CustomerKeys

namespace Duration

/-- The nanoseconds of a list of durations, whether or not a duration can hold them. -/
def totalNanos (durations : List Duration) : Nat :=
  durations.foldr (fun duration sum => duration.nanos + sum) 0

/-- No durations have no nanoseconds. -/
@[simp] theorem total_nanos_nil : totalNanos [] = 0 := rfl

/-- The nanoseconds of a longer list are those of its first duration and of the rest. -/
@[simp] theorem total_nanos_cons (duration : Duration) (rest : List Duration) :
    totalNanos (duration :: rest) = duration.nanos + totalNanos rest := rfl

/-- The nanoseconds of two lists one after the other are those of both, so what has been waited can
be counted up to any place of a schedule. -/
theorem total_nanos_append (first second : List Duration) :
    totalNanos (first ++ second) = totalNanos first + totalNanos second := by
  induction first with
  | nil => simp
  | cons duration rest inductionHypothesis =>
    simp only [List.cons_append, total_nanos_cons, inductionHypothesis]
    omega

/-- A sum of many durations is a given duration exactly when the nanoseconds agree. It turns
questions about sums that may not exist into arithmetic. -/
theorem total?_eq_some_iff {durations : List Duration} {sum : Duration} :
    total? durations = some sum ↔ totalNanos durations = sum.nanos := by
  have bounded := sum.bounded
  change ofNanos? (totalNanos durations) = some sum ↔ _
  unfold ofNanos?
  split
  · simp only [Option.some.injEq]
    exact ⟨fun same => congrArg nanos same, fun same => ext_nanos same⟩
  · simp only [reduceCtorEq, false_iff]
    omega

/-- Durations that come first in a list with a sum have a sum themselves. -/
theorem exists_total?_of_append {first second : List Duration}
    (fits : (total? (first ++ second)).isSome) : ∃ sum, total? first = some sum := by
  obtain ⟨whole, totalled⟩ := Option.isSome_iff_exists.mp fits
  have nanos := total?_eq_some_iff.mp totalled
  have bounded := whole.bounded
  rw [total_nanos_append] at nanos
  exact ⟨⟨totalNanos first, by omega⟩, total?_eq_some_iff.mpr rfl⟩

/-- Adding one more duration to a sum gives the sum of the longer list. -/
theorem add?_of_total? {durations : List Duration} {last sum longer : Duration}
    (summed : total? durations = some sum) (extended : total? (durations ++ [last]) = some longer) :
    sum.add? last = some longer := by
  have before := total?_eq_some_iff.mp summed
  have after := total?_eq_some_iff.mp extended
  rw [total_nanos_append, total_nanos_cons, total_nanos_nil] at after
  exact add?_eq_some_iff.mpr (by omega)

end Duration

namespace Schedule

/-- The waits between the attempts add up to a duration. The last entry is never slept and does not
count. -/
def Fits (schedule : Schedule) : Prop := (Duration.total? schedule.steps.dropLast).isSome

/-- Whether waits add up can be computed, so it is decided for the usual schedule. -/
instance (schedule : Schedule) : Decidable schedule.Fits :=
  inferInstanceAs (Decidable ((Duration.total? schedule.steps.dropLast).isSome = true))

/-- The time waited before any of the attempts is a duration. -/
theorem Fits.exists_waited {schedule : Schedule} (fits : schedule.Fits) (count : Nat)
    (early : count < schedule.attempts) :
    ∃ waited, Duration.total? (schedule.steps.take count) = some waited := by
  have split : schedule.steps.take count ++ schedule.steps.dropLast.drop count =
      schedule.steps.dropLast := by
    have shorter : schedule.steps.dropLast.take count = schedule.steps.take count := by
      rw [List.dropLast_eq_take, List.take_take, Nat.min_eq_left]
      exact Nat.le_sub_one_of_lt early
    rw [← shorter, List.take_append_drop]
  rw [Fits, ← split] at fits
  exact Duration.exists_total?_of_append fits

/-- The wait after an attempt that is not the last can be added to the time waited before it. What
this comes to is the time waited before the next attempt. -/
theorem Fits.exists_add?_waited {schedule : Schedule} (fits : schedule.Fits) {attempts : Nat}
    {waited : Duration} (early : attempts + 1 < schedule.steps.length)
    (summed : Duration.total? (schedule.steps.take attempts) = some waited) :
    ∃ longer, waited.add? schedule.steps[attempts] = some longer ∧
      Duration.total? (schedule.steps.take (attempts + 1)) = some longer := by
  obtain ⟨longer, extended⟩ := fits.exists_waited (attempts + 1) early
  refine ⟨longer, ?_, extended⟩
  rw [List.take_succ_eq_append_getElem (Nat.lt_of_succ_lt early)] at extended
  exact Duration.add?_of_total? summed extended

end Schedule

namespace Client

variable {σ : Type}

/-- The state of a client after one request has been made so many times in a row. -/
def after (client : Client σ) (request : Request) : Nat → σ → σ
  | 0, state => state
  | times + 1, state => client.after request times (client request state).2

/-- The reply to a request that has been made so many times before. -/
def reply (client : Client σ) (request : Request) (times : Nat) (state : σ) : request.Reply :=
  (client request (client.after request times state)).1

/-- A client that was asked nothing is in the state in which it was. -/
@[simp] theorem after_zero (client : Client σ) (request : Request) (state : σ) :
    client.after request 0 state = state := rfl

/-- The first of several equal requests can be singled out, as it is made in the state at the start.
-/
theorem after_succ (client : Client σ) (request : Request) (times : Nat) (state : σ) :
    client.after request (times + 1) state =
      client.after request times (client request state).2 := rfl

/-- The first reply is the one that the client gives in the state at the start. -/
@[simp] theorem reply_zero (client : Client σ) (request : Request) (state : σ) :
    client.reply request 0 state = (client request state).1 := rfl

/-- A later reply is an earlier one of the client in the state after the first request. -/
theorem reply_succ (client : Client σ) (request : Request) (times : Nat) (state : σ) :
    client.reply request (times + 1) state =
      client.reply request times (client request state).2 := rfl

/-- The last of several equal requests can also be singled out. -/
theorem after_succ_last (client : Client σ) (request : Request) (times : Nat) (state : σ) :
    client.after request (times + 1) state =
      (client request (client.after request times state)).2 := by
  induction times generalizing state with
  | zero => rfl
  | succ times inductionHypothesis =>
    rw [after_succ, inductionHypothesis, ← after_succ]

end Client

namespace Watch

variable {σ : Type} (watch : Watch)

/-- The request that a wait makes over and over. -/
abbrev request : Request := .getEncryption watch.instanceId watch.tableId

/-- What a reply shows of the awaited cluster, when it has an entry for it. -/
def Shows (reply : Except AdminError EncryptionReport) (entries : List Encryption) : Prop :=
  ∃ report, reply = .ok report ∧ report[watch.clusterId]? = some entries

/-- Entries that end the wait: the status `OK`, or anything but one item. -/
def Final (entries : List Encryption) : Prop :=
  entries.length ≠ 1 ∨ ∃ encryption, entries = [encryption] ∧ encryption.status.code = .ok

/-- A reply that ends the wait. -/
def Decisive (reply : Except AdminError EncryptionReport) : Prop :=
  ∃ entries, watch.Shows reply entries ∧ Final entries

/-- A reply shows one list of entries at most. -/
theorem Shows.unique {watch : Watch} {reply : Except AdminError EncryptionReport}
    {first second : List Encryption} (shown : watch.Shows reply first)
    (again : watch.Shows reply second) : first = second := by
  obtain ⟨report, replied, found⟩ := shown
  obtain ⟨_, repliedAgain, foundAgain⟩ := again
  obtain rfl := Except.ok.inj (replied.symm.trans repliedAgain)
  exact Option.some.inj (found.symm.trans foundAgain)

/-- A reply that shows something of the cluster is decisive exactly when this is final. -/
theorem Shows.decisive_iff {watch : Watch} {reply : Except AdminError EncryptionReport}
    {entries : List Encryption} (shown : watch.Shows reply entries) :
    watch.Decisive reply ↔ Final entries := by
  constructor
  · rintro ⟨others, again, final⟩
    exact shown.unique again ▸ final
  · intro final
    exact ⟨entries, shown, final⟩

/-- A refused read shows nothing, so it decides nothing. -/
theorem not_decisive_error (error : AdminError) : ¬ watch.Decisive (.error error) := by
  rintro ⟨entries, ⟨report, replied, -⟩, -⟩
  cases replied

/-- Pending metadata does not end a wait: it is one item, and its status is not `OK`. -/
theorem not_final_pending : ¬ Final [Encryption.pending] := by
  simp [Final, Encryption.pending]

/-- What the wait comes to when it ends with these entries, after so many attempts. -/
def judge (entries : List Encryption) (attempts : Nat) (waited : Duration) :
    Except ConvergenceError Convergence :=
  if entries.length = 1 then .ok ⟨attempts, waited⟩
  else .error (.unexpectedEntries watch.tableId watch.clusterId entries.length)

/-- A fetch as an observer sees it. -/
def fetched (client : Client σ) (state : σ) : Event :=
  .called watch.request (client watch.request state).1

/-- Fetches with the given waits between them: one fetch more than there are waits. -/
def course (client : Client σ) : List Duration → σ → List Event
  | [], state => [watch.fetched client state]
  | delay :: delays, state =>
    watch.fetched client state :: .slept delay ::
      course client delays (client watch.request state).2

/-- A decisive reply ends the wait, whatever came before it. -/
theorem run_follow_decisive (client : Client σ) (schedule : Schedule) (attempts : Nat)
    (waited : Duration) {state : σ} {entries : List Encryption}
    (shown : watch.Shows (client watch.request state).1 entries) (final : Final entries) :
    (watch.follow ⟨schedule, attempts, .pending⟩ waited).run client state =
      ⟨.ok (watch.judge entries (attempts + 1) waited), (client watch.request state).2,
        [watch.fetched client state]⟩ := by
  obtain ⟨report, replied, found⟩ := shown
  rw [follow, Script.run_call, fetched, replied]
  rcases final with several | ⟨encryption, rfl, good⟩
  · have observed : watch.observe (.ok report) = .error entries.length := by
      unfold observe
      simp only [found]
      match entries, several with
      | [], _ => rfl
      | _ :: _ :: _, _ => rfl
    simp only [observed, judge, several]
    rfl
  · have observed : watch.observe (.ok report) = .ok (.status .ok) := by
      simp only [observe, found, good]
    have stepped : Tracker.step ⟨schedule, attempts, .pending⟩ (.status .ok) =
        (.finish, ⟨schedule, attempts + 1, .converged⟩) := Tracker.step_ok rfl
    simp only [observed]
    split
    · rename_i after finished
      obtain ⟨-, rfl⟩ := Prod.mk.inj (stepped.symm.trans finished)
      rfl
    · rename_i gaveUp
      simp [stepped] at gaveUp
    · rename_i slept
      simp [stepped] at slept

/-- A reply that decides nothing counts as an observation other than `OK`. -/
theorem observe_of_not_decisive {reply : Except AdminError EncryptionReport}
    (undecided : ¬ watch.Decisive reply) :
    ∃ observation, watch.observe reply = .ok observation ∧ observation ≠ .status .ok := by
  cases reply with
  | error error => exact ⟨.fetchFailed, rfl, by simp⟩
  | ok report =>
    cases found : report[watch.clusterId]? with
    | none => exact ⟨.absent, by simp [observe, found], by simp⟩
    | some entries =>
      have goesOn : ¬ Final entries := fun final =>
        undecided ⟨entries, ⟨report, rfl, found⟩, final⟩
      have single : entries.length = 1 :=
        Decidable.byContradiction fun several => goesOn (.inl several)
      obtain ⟨encryption, rfl⟩ := List.length_eq_one_iff.mp single
      refine ⟨.status encryption.status.code, by simp [observe, found], ?_⟩
      intro good
      exact goesOn (.inr ⟨encryption, rfl, Observation.status.inj good⟩)

/-- After a reply that decides nothing, an attempt that is not the last is followed by the wait at
its place in the schedule, and then by the addition of that wait. -/
theorem run_follow_early (client : Client σ) {schedule : Schedule} {attempts : Nat}
    {delay waited : Duration} {state : σ} (early : attempts + 1 < schedule.steps.length)
    (scheduled : schedule.steps[attempts]? = some delay)
    (undecided : ¬ watch.Decisive (client watch.request state).1) :
    (watch.follow ⟨schedule, attempts, .pending⟩ waited).run client state =
      ((Script.run client
        (match waited.add? delay with
          | none => .abort .durationOverflow
          | some longer => watch.follow ⟨schedule, attempts + 1, .pending⟩ longer)
        (client watch.request state).2).preceded (.slept delay)).preceded
          (watch.fetched client state) := by
  obtain ⟨observation, observed, pending⟩ := watch.observe_of_not_decisive undecided
  have stepped : Tracker.step ⟨schedule, attempts, .pending⟩ observation =
      (.sleep delay, ⟨schedule, attempts + 1, .pending⟩) :=
    Tracker.step_early rfl pending early scheduled
  rw [follow, Script.run_call]
  simp only [observed]
  split
  · rename_i finished
    simp [stepped] at finished
  · rename_i gaveUp
    simp [stepped] at gaveUp
  · rename_i delay after slept
    obtain ⟨sameDelay, rfl⟩ := Prod.mk.inj (stepped.symm.trans slept)
    obtain rfl := Action.sleep.inj sameDelay
    rfl

/-- A wait that can be added goes on with the next attempt. -/
theorem run_follow_sleep (client : Client σ) {schedule : Schedule} {attempts : Nat}
    {delay waited longer : Duration} {state : σ} (early : attempts + 1 < schedule.steps.length)
    (scheduled : schedule.steps[attempts]? = some delay)
    (undecided : ¬ watch.Decisive (client watch.request state).1)
    (added : waited.add? delay = some longer) :
    (watch.follow ⟨schedule, attempts, .pending⟩ waited).run client state =
      (((watch.follow ⟨schedule, attempts + 1, .pending⟩ longer).run client
        (client watch.request state).2).preceded (.slept delay)).preceded
          (watch.fetched client state) := by
  rw [watch.run_follow_early client early scheduled undecided, added]

/-- After a last reply that decides nothing the wait times out. -/
theorem run_follow_timeout (client : Client σ) {schedule : Schedule} {attempts : Nat}
    (waited : Duration) {state : σ} (last : schedule.steps.length ≤ attempts + 1)
    (undecided : ¬ watch.Decisive (client watch.request state).1) :
    (watch.follow ⟨schedule, attempts, .pending⟩ waited).run client state =
      ⟨.ok (.error (.timeout watch.tableId watch.clusterId (attempts + 1))),
        (client watch.request state).2, [watch.fetched client state]⟩ := by
  obtain ⟨observation, observed, pending⟩ := watch.observe_of_not_decisive undecided
  have stepped : Tracker.step ⟨schedule, attempts, .pending⟩ observation =
      (.giveUp, ⟨schedule, attempts + 1, .exhausted⟩) :=
    Tracker.step_late rfl pending (Nat.not_lt.mpr last)
  rw [follow, Script.run_call]
  simp only [observed]
  split
  · rename_i finished
    simp [stepped] at finished
  · rename_i after gaveUp
    obtain ⟨-, rfl⟩ := Prod.mk.inj (stepped.symm.trans gaveUp)
    rfl
  · rename_i slept
    simp [stepped] at slept

/-- As long as no reply is decisive the wait keeps to the schedule. If it ends with the fetch after
so many of them, however it ends there, then everything before was fetches and the scheduled sleeps.

The induction is on the number of undecided replies. The time waited so far is always the sum of the
schedule's entries before the current attempt, so no addition of the loop can fail. -/
theorem run_follow_course (client : Client σ) {schedule : Schedule} (fits : schedule.Fits)
    {attempts count : Nat} {waited longer : Duration} {state last : σ}
    {outcome : Except Abort (Except ConvergenceError Convergence)}
    (inside : attempts + count < schedule.attempts)
    (summed : Duration.total? (schedule.steps.take attempts) = some waited)
    (extended : Duration.total? (schedule.steps.take (attempts + count)) = some longer)
    (undecided : ∀ place < count, ¬ watch.Decisive (client.reply watch.request place state))
    (ends : (watch.follow ⟨schedule, attempts + count, .pending⟩ longer).run client
      (client.after watch.request count state) =
        ⟨outcome, last, [watch.fetched client (client.after watch.request count state)]⟩) :
    (watch.follow ⟨schedule, attempts, .pending⟩ waited).run client state =
      ⟨outcome, last,
        watch.course client ((schedule.steps.drop attempts).take count) state⟩ := by
  induction count generalizing attempts waited state with
  | zero =>
    obtain rfl : waited = longer := Option.some.inj (summed.symm.trans extended)
    simpa [course] using ends
  | succ count inductionHypothesis =>
    have early : attempts + 1 < schedule.steps.length := by
      simp only [Schedule.attempts] at inside
      omega
    obtain ⟨next, added, nextSummed⟩ := fits.exists_add?_waited early summed
    have shifted : attempts + (count + 1) = attempts + 1 + count := by omega
    rw [shifted] at inside extended ends
    have rest := inductionHypothesis inside nextSummed extended
      (fun place less => undecided (place + 1) (by omega)) ends
    have first : ¬ watch.Decisive (client watch.request state).1 := undecided 0 (by omega)
    have here : attempts < schedule.steps.length := by omega
    rw [watch.run_follow_sleep client early (List.getElem?_eq_getElem here) first added, rest,
      List.drop_eq_getElem_cons here, List.take_succ_cons]
    rfl

/-- No time has been waited before the first attempt. -/
theorem total?_take_zero (schedule : Schedule) :
    Duration.total? (schedule.steps.take 0) = some .zero := by
  rw [List.take_zero]
  rfl

/-- A wait whose first decisive reply comes within the schedule. -/
theorem run_script_decisive (client : Client σ) {schedule : Schedule} (fits : schedule.Fits)
    {count : Nat} {entries : List Encryption} {state : σ} (inside : count < schedule.attempts)
    (undecided : ∀ place < count, ¬ watch.Decisive (client.reply watch.request place state))
    (shown : watch.Shows (client.reply watch.request count state) entries)
    (final : Final entries) :
    ∃ waited, Duration.total? (schedule.steps.take count) = some waited ∧
      (watch.script schedule).run client state =
        ⟨.ok (watch.judge entries (count + 1) waited), client.after watch.request (count + 1) state,
          watch.course client (schedule.steps.take count) state⟩ := by
  obtain ⟨waited, summed⟩ := fits.exists_waited count inside
  have ends := watch.run_follow_decisive client schedule count waited shown final
  refine ⟨waited, summed, ?_⟩
  rw [Client.after_succ_last]
  simpa [script, Tracker.start] using
    watch.run_follow_course client fits (by simpa using inside) (total?_take_zero schedule)
      (by simpa using summed) undecided (by simpa using ends)

/-- A wait without a decisive reply within the schedule. -/
theorem run_script_timeout (client : Client σ) {schedule : Schedule} (fits : schedule.Fits)
    {state : σ} (undecided : ∀ place < schedule.attempts,
      ¬ watch.Decisive (client.reply watch.request place state)) :
    (watch.script schedule).run client state =
      ⟨.ok (.error (.timeout watch.tableId watch.clusterId schedule.attempts)),
        client.after watch.request schedule.attempts state,
        watch.course client schedule.steps.dropLast state⟩ := by
  obtain ⟨before, counted⟩ :=
    Nat.exists_eq_succ_of_ne_zero (Nat.ne_of_gt schedule.attempts_pos)
  have inside : before < schedule.attempts := by omega
  obtain ⟨waited, summed⟩ := fits.exists_waited before inside
  have ends := watch.run_follow_timeout client waited (Nat.le_of_eq counted)
    (undecided before inside)
  have allButLast : schedule.steps.dropLast = schedule.steps.take before := by
    rw [List.dropLast_eq_take]
    exact congrArg (schedule.steps.take <| · - 1) counted
  rw [counted, Client.after_succ_last, allButLast]
  simpa [script, Tracker.start] using
    watch.run_follow_course client fits (by simpa using inside) (total?_take_zero schedule)
      (by simpa using summed) (fun place less => undecided place (by omega))
      (by simpa using ends)

/-- The run of a whole wait. If the reply after `count` others is the first decisive one and comes
within the schedule, the wait fetches `count + 1` times, sleeps the first `count` entries in between
and ends with what that reply shows. If no reply within the schedule is decisive, the wait fetches
as often as the schedule has entries, sleeps all of them but the last, and times out. In both cases
it makes no other call, it does not abort, and no refusal becomes its result.
-/
theorem wait_follows_schedule (client : Client σ) (schedule : Schedule) (fits : schedule.Fits)
    (state : σ) :
    (∀ count < schedule.attempts, ∀ entries,
      (∀ place < count, ¬ watch.Decisive (client.reply watch.request place state)) →
      watch.Shows (client.reply watch.request count state) entries → Final entries →
      ∃ waited, Duration.total? (schedule.steps.take count) = some waited ∧
        (watch.script schedule).run client state =
          ⟨.ok (if entries.length = 1 then .ok ⟨count + 1, waited⟩
              else .error (.unexpectedEntries watch.tableId watch.clusterId entries.length)),
            client.after watch.request (count + 1) state,
            watch.course client (schedule.steps.take count) state⟩) ∧
    ((∀ place < schedule.attempts,
        ¬ watch.Decisive (client.reply watch.request place state)) →
      (watch.script schedule).run client state =
        ⟨.ok (.error (.timeout watch.tableId watch.clusterId schedule.attempts)),
          client.after watch.request schedule.attempts state,
          watch.course client schedule.steps.dropLast state⟩) := by
  constructor
  · intro count inside entries undecided shown final
    exact watch.run_script_decisive client fits inside undecided shown final
  · intro undecided
    exact watch.run_script_timeout client fits undecided

/-- A client that refuses as many calls as its state counts down, and from then on reports one
converged cluster. -/
def countdown (clusterId version : String) : Client Nat := fun request left =>
  match request, left with
  | _, left + 1 => (.error (.unavailable "not yet"), left)
  | .getEncryption .., 0 => (.ok ((∅ : EncryptionReport).insert clusterId [.converged version]), 0)
  | _, 0 => (.error (.notFound "nothing"), 0)

/-- While it counts down, nothing that client replies is decisive. -/
theorem countdown_undecided (clusterId version : String) {place left : Nat} (early : place < left) :
    ¬ watch.Decisive ((countdown clusterId version).reply watch.request place left) := by
  induction place generalizing left with
  | zero =>
    obtain ⟨before, rfl⟩ := Nat.exists_eq_succ_of_ne_zero (Nat.ne_of_gt early)
    exact watch.not_decisive_error _
  | succ place inductionHypothesis =>
    obtain ⟨before, rfl⟩ := Nat.exists_eq_succ_of_ne_zero (Nat.ne_of_gt (Nat.zero_lt_of_lt early))
    rw [Client.reply_succ]
    exact inductionHypothesis (by simpa [countdown] using early)

/-- On the usual schedule two refusals are slept off, and eight use the schedule up. -/
theorem wait_on_usual_schedule :
    Schedule.usual.Fits ∧
    (∃ waited, Duration.total? (Schedule.usual.steps.take 2) = some waited ∧
      (script ⟨"i", "t", "c"⟩ .usual).run (countdown "c" "v") 2 =
        ⟨.ok (.ok ⟨3, waited⟩), 0,
          course ⟨"i", "t", "c"⟩ (countdown "c" "v") (Schedule.usual.steps.take 2) 2⟩) ∧
    (script ⟨"i", "t", "c"⟩ .usual).run (countdown "c" "v") 8 =
      ⟨.ok (.error (.timeout "t" "c" 8)), 0,
        course ⟨"i", "t", "c"⟩ (countdown "c" "v") Schedule.usual.steps.dropLast 8⟩ := by
  have fits : Schedule.usual.Fits := by decide
  have shown : Shows ⟨"i", "t", "c"⟩
      ((countdown "c" "v").reply (request ⟨"i", "t", "c"⟩) 2 2) [.converged "v"] :=
    ⟨_, rfl, Std.ExtTreeMap.getElem?_insert_self⟩
  refine ⟨fits, ?_, ?_⟩
  · exact (wait_follows_schedule ⟨"i", "t", "c"⟩ (countdown "c" "v") .usual fits 2).1 2 (by decide)
      [.converged "v"] (fun _ early => countdown_undecided _ "c" "v" early) shown
      (.inr ⟨_, rfl, rfl⟩)
  · exact (wait_follows_schedule ⟨"i", "t", "c"⟩ (countdown "c" "v") .usual fits 8).2
      fun _ early => countdown_undecided _ "c" "v" early

end Watch

end CustomerKeys
