import CustomerKeys.Proofs.ScriptRuns
import CustomerKeys.Scenario.Check

/-!
# The calls that a plan allows

A plan lists the calls that a script makes while all goes well, stage by stage. A stage says what is
asked, which replies let the script go on to the next stage, and how often the question may be asked
again after a reply that is only not good yet. Every other reply is the end of the script.

`Stage.Trace` is the law that a plan imposes on a sequence of calls: it goes through the stages in
order and is cut right after the first reply that is neither accepted nor followed by another
attempt. A script that performs a plan obeys this law against every client, whatever the client
replies. Sleeps between the calls are left out.
-/

namespace CustomerKeys

/-- The request of a call. A sleep has none. -/
def Event.request? : Event → Option Request
  | .called request _ => some request
  | .slept _ => none

/-- The calls of a run in their order, each with its reply. -/
def Run.calls {σ α : Type} (run : Run σ α) : List Event :=
  run.events.filter fun event => event.request?.isSome

/-- A call before a run is the first of its calls. -/
@[simp] theorem Run.calls_preceded_called {σ α : Type} (run : Run σ α) (request : Request)
    (reply : request.Reply) :
    (run.preceded (.called request reply)).calls = .called request reply :: run.calls := rfl

/-- A sleep before a run is none of its calls. -/
@[simp] theorem Run.calls_preceded_slept {σ α : Type} (run : Run σ α) (duration : Duration) :
    (run.preceded (.slept duration)).calls = run.calls := rfl

/-- A call that a plan has in one place. It is made once, and again as long as the reply calls for
another attempt and attempts are left. -/
structure Stage where
  request : Request
  attempts : Nat
  accepts : request.Reply → Prop
  retries : request.Reply → Prop

namespace Stage

/-- A call that is made only once. -/
def once (request : Request) (accepts : request.Reply → Prop) : Stage :=
  ⟨request, 1, accepts, fun _ => False⟩

/-- The stage with one attempt fewer. -/
def less (stage : Stage) : Stage := { stage with attempts := stage.attempts - 1 }

/-- After this reply the call is made again. -/
def Again (stage : Stage) (reply : stage.request.Reply) : Prop :=
  stage.retries reply ∧ 1 < stage.attempts

/-- A call that is made only once is never made again. -/
theorem not_again_once {request : Request} {accepts : request.Reply → Prop}
    (reply : request.Reply) : ¬ (once request accepts).Again reply := fun again => again.1

/-- The calls that obey a plan, and whether they got through all of it. -/
inductive Trace : List Stage → List Event → Bool → Prop
  | complete : Trace [] [] true
  | accepted {stage : Stage} {rest : List Stage} {later : List Event} {passed : Bool}
    (reply : stage.request.Reply) (good : stage.accepts reply) (goesOn : Trace rest later passed) :
    Trace (stage :: rest) (.called stage.request reply :: later) passed
  | again {stage : Stage} {rest : List Stage} {later : List Event} {passed : Bool}
    (reply : stage.request.Reply) (notYet : ¬ stage.accepts reply) (again : stage.Again reply)
    (goesOn : Trace (stage.less :: rest) later passed) :
    Trace (stage :: rest) (.called stage.request reply :: later) passed
  | cut {stage : Stage} {rest : List Stage} (reply : stage.request.Reply)
    (bad : ¬ stage.accepts reply) (final : ¬ stage.Again reply) :
    Trace (stage :: rest) [.called stage.request reply] false

/-- The requests of a plan that is gone through as a whole: each stage is asked at least once and at
most as often as it has attempts. -/
inductive Unrolls : List Stage → List Request → Prop
  | nil : Unrolls [] []
  | cons {stage : Stage} {rest : List Stage} {requests : List Request} (times : Nat)
    (some : 1 ≤ times) (bounded : times ≤ stage.attempts) (later : Unrolls rest requests) :
    Unrolls (stage :: rest) (List.replicate times stage.request ++ requests)

/-- Stages with an attempt each can be gone through. -/
theorem exists_unrolls {stages : List Stage} (able : ∀ stage ∈ stages, 1 ≤ stage.attempts) :
    ∃ requests, Unrolls stages requests := by
  induction stages with
  | nil => exact ⟨[], .nil⟩
  | cons stage rest inductionHypothesis =>
    obtain ⟨requests, later⟩ :=
      inductionHypothesis fun other member => able other (by simp [member])
    exact ⟨_, .cons 1 (Nat.le_refl 1) (able stage (by simp)) later⟩

/-- The requests of calls that obey a plan are the first ones of the plan gone through as a whole,
and all of them when the calls got through it. -/
theorem Trace.exists_unrolls {stages : List Stage} {calls : List Event} {passed : Bool}
    (trace : Trace stages calls passed) (able : ∀ stage ∈ stages, 1 ≤ stage.attempts) :
    ∃ requests, Unrolls stages requests ∧ calls.filterMap Event.request? <+: requests ∧
      (passed = true → calls.filterMap Event.request? = requests) := by
  induction trace with
  | complete => exact ⟨[], .nil, List.prefix_refl _, fun _ => rfl⟩
  | @accepted stage rest later passed reply good goesOn inductionHypothesis =>
    obtain ⟨requests, unrolled, first, all⟩ :=
      inductionHypothesis fun other member => able other (by simp [member])
    refine ⟨stage.request :: requests,
      .cons 1 (Nat.le_refl 1) (able stage (by simp)) unrolled, ?_, ?_⟩
    · exact (List.prefix_cons_inj _).mpr first
    · exact fun whole => congrArg (stage.request :: ·) (all whole)
  | @again stage rest later passed reply notYet again goesOn inductionHypothesis =>
    have left := again.2
    have still : ∀ other ∈ stage.less :: rest, 1 ≤ other.attempts := by
      intro other member
      rcases List.mem_cons.mp member with rfl | member
      · exact Nat.le_sub_one_of_lt left
      · exact able other (by simp [member])
    obtain ⟨requests, unrolled, first, all⟩ := inductionHypothesis still
    cases unrolled with
    | cons times some bounded unrolled =>
      have fewer : times ≤ stage.attempts - 1 := bounded
      refine ⟨_, .cons (times + 1) (by omega) (by omega) unrolled, ?_, ?_⟩
      · exact (List.prefix_cons_inj _).mpr first
      · exact fun whole => congrArg (stage.request :: ·) (all whole)
  | @cut stage rest reply bad final =>
    obtain ⟨requests, unrolled⟩ :=
      Stage.exists_unrolls fun other member => able other (List.mem_cons_of_mem stage member)
    refine ⟨_, .cons 1 (Nat.le_refl 1) (able stage (by simp)) unrolled, ?_, fun whole => ?_⟩
    · exact (List.prefix_cons_inj _).mpr List.nil_prefix
    · cases whole

/-- Every call that obeys a plan makes the request of one of its stages. -/
theorem Trace.request_mem {stages : List Stage} {calls : List Event} {passed : Bool}
    (trace : Trace stages calls passed) :
    ∀ call ∈ calls, ∃ stage ∈ stages, call.request? = some stage.request := by
  induction trace with
  | complete => simp
  | accepted reply good goesOn inductionHypothesis =>
    refine List.forall_mem_cons.mpr ⟨⟨_, List.mem_cons_self, rfl⟩, fun call member => ?_⟩
    obtain ⟨stage, listed, asked⟩ := inductionHypothesis call member
    exact ⟨stage, List.mem_cons_of_mem _ listed, asked⟩
  | again reply notYet again goesOn inductionHypothesis =>
    refine List.forall_mem_cons.mpr ⟨⟨_, List.mem_cons_self, rfl⟩, fun call member => ?_⟩
    obtain ⟨stage, listed, asked⟩ := inductionHypothesis call member
    rcases List.mem_cons.mp listed with rfl | listed
    · exact ⟨_, List.mem_cons_self, asked⟩
    · exact ⟨stage, List.mem_cons_of_mem _ listed, asked⟩
  | cut reply bad final =>
    exact List.forall_mem_singleton.mpr ⟨_, List.mem_cons_self, rfl⟩

end Stage

/-- A script that makes the calls of a plan. It goes on after a reply that its stage accepts, makes
the call again where the stage allows it, and ends with a failure after every other reply. After the
last stage it ends well. -/
inductive Script.Performs : Script Outcome → List Stage → Prop
  | done (outcome : Outcome) (good : outcome.failure = none) : Performs (.done outcome) []
  | sleep (duration : Duration) {next : Script Outcome} {stages : List Stage}
    (rest : Performs next stages) : Performs (.sleep duration next) stages
  | call {stage : Stage} {rest : List Stage} {next : stage.request.Reply → Script Outcome}
    (goesOn : ∀ reply, stage.accepts reply → Performs (next reply) rest)
    (again : ∀ reply, ¬ stage.accepts reply → stage.Again reply →
      Performs (next reply) (stage.less :: rest))
    (fails : ∀ reply, ¬ stage.accepts reply → ¬ stage.Again reply →
      ∃ outcome, next reply = .done outcome ∧ outcome.failure ≠ none) :
    Performs (.call stage.request next) (stage :: rest)

namespace Script

variable {σ τ : Type}

/-- A call that is made only once, followed by the rest of the plan. -/
theorem Performs.once {request : Request} {accepts : request.Reply → Prop} {rest : List Stage}
    {next : request.Reply → Script Outcome}
    (goesOn : ∀ reply, accepts reply → (next reply).Performs rest)
    (fails : ∀ reply, ¬ accepts reply →
      ∃ outcome, next reply = .done outcome ∧ outcome.failure ≠ none) :
    (Script.call request next).Performs (Stage.once request accepts :: rest) :=
  @Performs.call (Stage.once request accepts) rest next goesOn
    (fun reply _ again => absurd again (Stage.not_again_once reply))
    fun reply bad _ => fails reply bad

/-- Whatever client answers, a script that performs a plan ends with an outcome, its calls obey the
plan, and they get through it exactly when the outcome is good. -/
theorem Performs.run_traced {script : Script Outcome} {stages : List Stage}
    (performs : script.Performs stages) (client : Client σ) (state : σ) :
    ∃ outcome, (script.run client state).outcome = .ok outcome ∧
      Stage.Trace stages (script.run client state).calls outcome.failure.isNone := by
  induction performs generalizing state with
  | done outcome good =>
    refine ⟨outcome, rfl, ?_⟩
    rw [good]
    exact .complete
  | sleep duration rest inductionHypothesis => exact inductionHypothesis state
  | @call stage rest next goesOn again fails continued repeated =>
    let reply := (client stage.request state).1
    let after := (client stage.request state).2
    by_cases good : stage.accepts reply
    · obtain ⟨outcome, ended, trace⟩ := continued reply good after
      exact ⟨outcome, ended, .accepted reply good trace⟩
    · by_cases more : stage.Again reply
      · obtain ⟨outcome, ended, trace⟩ := repeated reply good more after
        exact ⟨outcome, ended, .again reply good more trace⟩
      · obtain ⟨outcome, last, failed⟩ := fails reply good more
        have ran : (Script.call stage.request next).run client state =
            ⟨.ok outcome, after, [.called stage.request reply]⟩ := by
          rw [run_call, last]
          rfl
        refine ⟨outcome, by rw [ran], ?_⟩
        have bad : outcome.failure.isNone = false :=
          Option.isNone_eq_false_iff.mpr (Option.isSome_iff_ne_none.mpr failed)
        rw [ran, bad]
        exact .cut reply good more

/-- A script passes if the client satisfies every stage of its plan at the first attempt. -/
theorem Performs.run_passes {script : Script Outcome} {stages : List Stage}
    (performs : script.Performs stages) (client : Client σ) (state : σ)
    (satisfied : ∀ stage ∈ stages, ∀ state, stage.accepts (client stage.request state).1) :
    ∃ outcome, (script.run client state).outcome = .ok outcome ∧ outcome.failure = none := by
  induction performs generalizing state with
  | done outcome good => exact ⟨outcome, rfl, good⟩
  | sleep duration _ inductionHypothesis => exact inductionHypothesis state satisfied
  | call _ _ _ continued _ =>
    have good := satisfied _ List.mem_cons_self state
    exact continued _ good _ fun stage listed => satisfied stage (List.mem_cons_of_mem _ listed)

/-- The outcome of a script depends only on what its calls are answered. -/
theorem outcome_eq_of_calls_eq {α : Type} (script : Script α) (client : Client σ)
    (other : Client τ) {state : σ} {otherState : τ}
    (same : (script.run client state).calls = (script.run other otherState).calls) :
    (script.run client state).outcome = (script.run other otherState).outcome := by
  induction script generalizing state otherState with
  | done value => rfl
  | abort cause => rfl
  | sleep duration next inductionHypothesis => exact inductionHypothesis same
  | call request next inductionHypothesis =>
    simp only [run_call, Run.calls_preceded_called, Run.outcome_preceded] at same ⊢
    obtain ⟨first, rest⟩ := List.cons.inj same
    obtain ⟨-, reply⟩ := Event.called.inj first
    have replied : (client request state).1 = (other request otherState).1 := eq_of_heq reply
    rw [replied] at rest ⊢
    exact inductionHypothesis _ rest

/-- Every reply of a run was given by its client. -/
theorem exists_reply_of_called_mem {α : Type} (script : Script α) (client : Client σ) {state : σ}
    {request : Request} {reply : request.Reply}
    (made : .called request reply ∈ (script.run client state).calls) :
    ∃ during, reply = (client request during).1 := by
  induction script generalizing state with
  | done value => cases made
  | abort cause => cases made
  | sleep duration _ inductionHypothesis => exact inductionHypothesis made
  | call first _ inductionHypothesis =>
    rw [run_call, Run.calls_preceded_called] at made
    rcases List.mem_cons.mp made with same | later
    · cases same
      exact ⟨state, rfl⟩
    · exact inductionHypothesis _ later

end Script

end CustomerKeys
