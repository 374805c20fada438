import CustomerKeys.Proofs.Confinement

/-!
# Instances do not interfere

A plane is used through any number of handles at once, and what they ask of it arrives in some
order. Each operation of such a history has a handle and a clock reading of its own. An instance
does not notice the operations that address another one: two planes that agree on an instance go on
agreeing on it when only one of them sees such an operation, and an operation on the instance itself
is answered alike by both. Deleting what addresses other instances from a history therefore changes
neither an answer nor the last record of the instance that is left.

Whether an instance exists may be asked of a plane as well. Those questions are no operations, and
the last record answers them.
-/

namespace CustomerKeys

/-- A request that is made through a handle at a reading of the clock. -/
structure Operation where
  handle : Handle
  now : UInt64
  request : Request
  deriving DecidableEq, Repr

/-- An operation together with its reply. -/
structure Exchange where
  operation : Operation
  reply : operation.request.Reply

namespace Operation

/-- The operation addresses an instance. -/
def addresses (operation : Operation) (instanceId : String) : Bool :=
  operation.request.instanceId = instanceId

/-- Carry out an operation on a plane. -/
def perform (operation : Operation) (plane : Plane) : Exchange × Plane :=
  let (reply, after) := operation.handle.client operation.now operation.request plane
  (⟨operation, reply⟩, after)

variable {operation : Operation} {instanceId : String}

/-- An operation on an instance is answered alike by planes that agree on the instance, and they
agree on it afterwards. -/
theorem perform_of_addresses (own : operation.addresses instanceId = true) {plane other : Plane}
    (agree : plane[instanceId]? = other[instanceId]?) :
    (operation.perform plane).1 = (operation.perform other).1 ∧
      (operation.perform plane).2[instanceId]? = (operation.perform other).2[instanceId]? := by
  have addressed : operation.request.instanceId = instanceId := by simpa [addresses] using own
  subst addressed
  constructor
  · simp only [perform, Handle.client_fst, agree]
  · simp only [perform, Handle.client_snd, Plane.lookup_put_self, agree]

/-- An operation on another instance leaves an instance as it was. -/
theorem lookup_perform_of_not_addresses (foreign : operation.addresses instanceId = false)
    (plane : Plane) : (operation.perform plane).2[instanceId]? = plane[instanceId]? := by
  have elsewhere : instanceId ≠ operation.request.instanceId := by
    simpa [addresses, eq_comm] using foreign
  simp only [perform, Handle.client_snd]
  exact Plane.lookup_put_of_ne _ _ elsewhere

end Operation

namespace Exchange

/-- The exchange is about an instance. -/
def concerns (exchange : Exchange) (instanceId : String) : Bool :=
  exchange.operation.addresses instanceId

end Exchange

namespace Plane

/-- Carry out a history on a plane: every operation with its reply, and the plane afterwards. -/
def history : List Operation → Plane → List Exchange × Plane
  | [], plane => ([], plane)
  | operation :: rest, plane =>
    let (exchange, between) := operation.perform plane
    let (exchanges, after) := history rest between
    (exchange :: exchanges, after)

/-- A history is carried out by carrying out its first part and then the rest. -/
theorem history_append (first second : List Operation) (plane : Plane) :
    history (first ++ second) plane =
      ((history first plane).1 ++ (history second (history first plane).2).1,
        (history second (history first plane).2).2) := by
  induction first generalizing plane with
  | nil => rfl
  | cons operation rest inductionHypothesis =>
    simp only [List.cons_append, history, inductionHypothesis]

/-- Of two planes that agree on an instance one sees a whole history and the other only what
addresses the instance. They answer alike what both see, and agree on the instance afterwards. -/
theorem history_agree (operations : List Operation) (instanceId : String) {plane other : Plane}
    (agree : plane[instanceId]? = other[instanceId]?) :
    let whole := history operations plane
    let own := history (operations.filter (·.addresses instanceId)) other
    whole.1.filter (·.concerns instanceId) = own.1 ∧ whole.2[instanceId]? = own.2[instanceId]? := by
  induction operations generalizing plane other with
  | nil => exact ⟨rfl, agree⟩
  | cons operation rest inductionHypothesis =>
    cases addressed : operation.addresses instanceId with
    | true =>
      obtain ⟨answered, between⟩ := Operation.perform_of_addresses addressed agree
      obtain ⟨replies, record⟩ := inductionHypothesis between
      have kept : (operation.perform plane).1.concerns instanceId = true := addressed
      have filtered : (operation :: rest).filter (·.addresses instanceId) =
          operation :: rest.filter (·.addresses instanceId) := List.filter_cons_of_pos addressed
      rw [filtered]
      refine ⟨?_, record⟩
      simp only [history]
      rw [List.filter_cons, if_pos kept, replies, answered]
    | false =>
      have between : (operation.perform plane).2[instanceId]? = other[instanceId]? :=
        (Operation.lookup_perform_of_not_addresses addressed plane).trans agree
      obtain ⟨replies, record⟩ := inductionHypothesis between
      have skipped : ¬ operation.addresses instanceId = true := by simp [addressed]
      have dropped : ¬ (operation.perform plane).1.concerns instanceId = true := skipped
      have filtered : (operation :: rest).filter (·.addresses instanceId) =
          rest.filter (·.addresses instanceId) := List.filter_cons_of_neg skipped
      rw [filtered]
      refine ⟨?_, record⟩
      simp only [history]
      rw [List.filter_cons, if_neg dropped, replies]

/-- Instances do not interfere. For every plane and every history, through any handles and with any
clock readings, the operations that address an instance are answered, and the instance is left, as
in the history without the operations that address other instances. -/
theorem noninterference (plane : Plane) (operations : List Operation) (instanceId : String) :
    let whole := history operations plane
    let own := history (operations.filter (·.addresses instanceId)) plane
    whole.1.filter (·.concerns instanceId) = own.1 ∧ whole.2[instanceId]? = own.2[instanceId]? :=
  history_agree operations instanceId rfl

end Plane

end CustomerKeys
