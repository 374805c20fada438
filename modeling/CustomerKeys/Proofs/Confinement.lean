import CustomerKeys.Proofs.Locality
import CustomerKeys.Proofs.ScriptRuns

/-!
# Scripts that stay with one instance

The plane answers a request from the holdings of the instance it addresses. An instance can
therefore be seen as a client of its own, and a script whose calls all address it runs on the whole
plane exactly as it runs on that one instance: with the same outcome and the same events, and with
nothing else of the plane changed. `Confined.run_client` states this as one equation between runs.

The clock may also be read anew at every call. What a confined script leaves alone it then leaves
alone as well.
-/

namespace CustomerKeys

namespace Plane

/-- An instance exists when something is held under its id. -/
theorem has_instance_eq (plane : Plane) (instanceId : String) :
    plane.hasInstance instanceId = plane[instanceId]?.isSome :=
  Std.ExtTreeMap.contains_eq_isSome_getElem?

end Plane

namespace Handle

/-- One instance as a client of its own: all it keeps is what the instance holds, if it exists. -/
def single (handle : Handle) (now : UInt64) : Client (Option Holdings) := fun request held =>
  ((handle.serve now request held).1.mapError Refusal.toError, (handle.serve now request held).2)

/-- The plane as a client whose clock is read anew at every call; the state holds the readings to
come. -/
def clocked (handle : Handle) : Client (Plane × (Nat → UInt64)) := fun request state =>
  ((handle.client (state.2 0) request state.1).1, (handle.client (state.2 0) request state.1).2,
    fun place => state.2 (place + 1))

/-- The plane replies to a request what the instance that it addresses would reply on its own. -/
theorem client_fst (handle : Handle) (now : UInt64) (request : Request) (plane : Plane) :
    (handle.client now request plane).1 =
      (handle.single now request plane[request.instanceId]?).1 := by
  rw [client, handle.perform_eq_serve]
  rfl

/-- What the instance would hold afterwards on its own is all that changes in the plane. -/
theorem client_snd (handle : Handle) (now : UInt64) (request : Request) (plane : Plane) :
    (handle.client now request plane).2 =
      plane.put request.instanceId (handle.single now request plane[request.instanceId]?).2 := by
  rw [client, handle.perform_eq_serve]
  rfl

/-- A call on the plane is a call on the instance that it addresses. -/
theorem client_eq_of_single (handle : Handle) (now : UInt64) {request : Request} {plane : Plane}
    {reply : request.Reply} {held : Option Holdings}
    (answered : handle.single now request plane[request.instanceId]? = (reply, held)) :
    handle.client now request plane = (reply, plane.put request.instanceId held) := by
  apply Prod.ext
  · rw [client_fst, answered]
  · rw [client_snd, answered]

end Handle

variable {σ α β : Type}

/-- A script that comes to its end whatever is replied, and whose calls all address one instance. -/
inductive Script.Confined (instanceId : String) : Script α → Prop
  | done (value : α) : Confined instanceId (.done value)
  | sleep (duration : Duration) {next : Script α} (rest : Confined instanceId next) :
    Confined instanceId (.sleep duration next)
  | call (request : Request) {next : request.Reply → Script α}
    (addressed : request.instanceId = instanceId)
    (rest : ∀ reply, Confined instanceId (next reply)) : Confined instanceId (.call request next)

namespace Script.Confined

variable {instanceId : String}

/-- A confined script may be bound to confined ones. -/
theorem bind {script : Script α} {next : α → Script β} (confined : script.Confined instanceId)
    (rest : ∀ value, (next value).Confined instanceId) :
    (script.bind next).Confined instanceId := by
  induction confined with
  | done value => exact rest value
  | sleep duration _ inductionHypothesis => exact .sleep duration inductionHypothesis
  | call request addressed _ inductionHypothesis =>
    exact .call request addressed inductionHypothesis

/-- A call with confined continuations for an answer and for a refusal. -/
theorem attempt {request : Request} {refused : AdminError → Script α}
    {answered : request.Answer → Script α} (addressed : request.instanceId = instanceId)
    (whenRefused : ∀ error, (refused error).Confined instanceId)
    (whenAnswered : ∀ answer, (answered answer).Confined instanceId) :
    (Script.attempt request refused answered).Confined instanceId := by
  refine .call request addressed fun reply => ?_
  cases reply with
  | ok answer => exact whenAnswered answer
  | error error => exact whenRefused error

/-- Whatever client answers, a confined script ends with a value. -/
theorem exists_value {script : Script α} (confined : script.Confined instanceId)
    (client : Client σ) (state : σ) : ∃ value, (script.run client state).outcome = .ok value := by
  induction confined generalizing state with
  | done value => exact ⟨value, rfl⟩
  | sleep duration _ inductionHypothesis => exact inductionHypothesis state
  | call request _ _ inductionHypothesis =>
    exact inductionHypothesis (client request state).1 (client request state).2

/-- On the plane a confined script runs as on its instance alone, and what it makes of the instance
is all that changes. -/
theorem run_client {script : Script α} (confined : script.Confined instanceId) (handle : Handle)
    (now : UInt64) (plane : Plane) :
    script.run (handle.client now) plane =
      ⟨(script.run (handle.single now) plane[instanceId]?).outcome,
        plane.put instanceId (script.run (handle.single now) plane[instanceId]?).state,
        (script.run (handle.single now) plane[instanceId]?).events⟩ := by
  induction confined generalizing plane with
  | done value => simp
  | sleep duration _ inductionHypothesis =>
    rw [run_sleep, inductionHypothesis]
    rfl
  | call request addressed _ inductionHypothesis =>
    subst addressed
    rw [run_call, inductionHypothesis, handle.client_snd, handle.client_fst]
    simp [Run.preceded]

/-- A confined script leaves every other instance as it was, however the clock moves. -/
theorem run_clocked_of_ne {script : Script α} (confined : script.Confined instanceId)
    (handle : Handle) (plane : Plane) (readings : Nat → UInt64) {other : String}
    (different : other ≠ instanceId) :
    (script.run handle.clocked (plane, readings)).state.1[other]? = plane[other]? := by
  induction confined generalizing plane readings with
  | done value => rfl
  | sleep duration _ inductionHypothesis => exact inductionHypothesis plane readings
  | call request addressed _ inductionHypothesis =>
    subst addressed
    rw [run_call, Run.state_preceded]
    refine (inductionHypothesis _ _ _).trans ?_
    rw [handle.client_snd, Plane.lookup_put_of_ne _ _ different]

end Script.Confined

end CustomerKeys
