import CustomerKeys.Admin.Script

/-!
# How runs compose

The run of a script is made of the runs of its parts. One equation for each way a script can begin
says what the run of the rest contributes, and `Script.run_bind` says that a bound script goes on
from the state in which the first part ended, unless that part aborted. No client is singled out:
the laws hold whatever answers the calls and whatever state it keeps.
-/

namespace CustomerKeys

variable {σ α β : Type}

namespace Run

/-- A run with an event put before everything else that happened in it. -/
def preceded (run : Run σ α) (event : Event) : Run σ α :=
  ⟨run.outcome, run.state, event :: run.events⟩

/-- What follows a run: from its value and its last state a further run, or nothing after an abort.
-/
def followed (first : Run σ α) (next : α → σ → Run σ β) : Run σ β :=
  match first.outcome with
  | .ok value =>
    ⟨(next value first.state).outcome, (next value first.state).state,
      first.events ++ (next value first.state).events⟩
  | .error cause => ⟨.error cause, first.state, first.events⟩

/-- An event before a run leaves its outcome as it is. -/
@[simp] theorem outcome_preceded (run : Run σ α) (event : Event) :
    (run.preceded event).outcome = run.outcome := rfl

/-- It also leaves the state in which the run ends. -/
@[simp] theorem state_preceded (run : Run σ α) (event : Event) :
    (run.preceded event).state = run.state := rfl

/-- It is the first of the events. -/
@[simp] theorem events_preceded (run : Run σ α) (event : Event) :
    (run.preceded event).events = event :: run.events := rfl

/-- An event before the first part of a run is an event before the whole of it. -/
theorem followed_preceded (first : Run σ α) (event : Event) (next : α → σ → Run σ β) :
    (first.preceded event).followed next = (first.followed next).preceded event := by
  obtain ⟨outcome, state, events⟩ := first
  cases outcome <;> rfl

end Run

namespace Script

variable (client : Client σ)

/-- A script that is done runs to its value at once, without an event and without a change of state.
-/
@[simp] theorem run_done (value : α) (state : σ) :
    (done value).run client state = ⟨.ok value, state, []⟩ := rfl

/-- A script that sleeps runs like the rest of it, with the sleep before everything else and in the
same state. -/
@[simp] theorem run_sleep (duration : Duration) (next : Script α) (state : σ) :
    (sleep duration next).run client state =
      (next.run client state).preceded (.slept duration) := rfl

/-- A script that makes a call runs like its rest for the reply, from the state in which the client
is left, with the call before everything else. -/
@[simp] theorem run_call (request : Request) (next : request.Reply → Script α) (state : σ) :
    (call request next).run client state =
      ((next (client request state).1).run client (client request state).2).preceded
        (.called request (client request state).1) := rfl

/-- A bound script runs its first part and goes on from where that ended. An abort of the first
part is the end of the whole. -/
theorem run_bind (script : Script α) (rest : α → Script β) (state : σ) :
    (script.bind rest).run client state =
      (script.run client state).followed fun value after => (rest value).run client after := by
  induction script generalizing state with
  | done value => rfl
  | abort cause => rfl
  | sleep duration next inductionHypothesis =>
    rw [bind, run_sleep, run_sleep, Run.followed_preceded, inductionHypothesis]
  | call request next inductionHypothesis =>
    rw [bind, run_call, run_call, Run.followed_preceded, inductionHypothesis]

/-- A call that is answered goes on with the answer. -/
theorem run_attempt_answered {request : Request} {refused : AdminError → Script α}
    {answered : request.Answer → Script α} {state after : σ} {answer : request.Answer}
    (replied : client request state = (.ok answer, after)) :
    (attempt request refused answered).run client state =
      ((answered answer).run client after).preceded (.called request (.ok answer)) := by
  rw [attempt, run_call, replied]

/-- A call that is refused goes on with the refusal. -/
theorem run_attempt_refused {request : Request} {refused : AdminError → Script α}
    {answered : request.Answer → Script α} {state after : σ} {error : AdminError}
    (replied : client request state = (.error error, after)) :
    (attempt request refused answered).run client state =
      ((refused error).run client after).preceded (.called request (.error error)) := by
  rw [attempt, run_call, replied]

/-- The script comes to its end, with a value of which this holds. -/
def Ends (script : Script α) (client : Client σ) (state : σ) (holds : α → Prop) : Prop :=
  ∃ value, (script.run client state).outcome = .ok value ∧ holds value

variable {state : σ} {holds : α → Prop}

/-- A script that is done ends with a value of which something holds exactly when it holds of that
value. -/
theorem done_ends_iff {value : α} : (done value).Ends client state holds ↔ holds value := by
  constructor
  · rintro ⟨other, same, kept⟩
    obtain rfl := Except.ok.inj same
    exact kept
  · intro kept
    exact ⟨value, rfl, kept⟩

/-- A script that begins with a call ends as it goes on after the reply. -/
theorem call_ends_iff {request : Request} {next : request.Reply → Script α} :
    (call request next).Ends client state holds ↔
      (next (client request state).1).Ends client (client request state).2 holds :=
  Iff.rfl

/-- A bound script ends as its rest does, from the value and the state of the first part. -/
theorem bind_ends_iff {script : Script β} {rest : β → Script α} :
    (script.bind rest).Ends client state holds ↔
      ∃ value, (script.run client state).outcome = .ok value ∧
        (rest value).Ends client (script.run client state).state holds := by
  unfold Ends
  rw [run_bind, Run.followed]
  cases (script.run client state).outcome with
  | ok value => simp
  | error cause => simp

end Script

end CustomerKeys
