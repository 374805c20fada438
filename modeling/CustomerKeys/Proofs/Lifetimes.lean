import CustomerKeys.Proofs.LastingRecords

/-!
# The lives of an instance

Under one id there may be several instances, one after the other. A life begins with a creation that
is answered and ends with a deletion that is answered, and nothing else begins or ends one: calls
that are refused do not count, and neither does what is asked of other instances. So the turns of an
id alternate, and the last of them says whether the instance exists.

What an instance was before a creation cannot be told afterwards. A creation is answered only where
there is no instance, and makes the same of every plane. By the isolation of instances all later
calls are then answered as on a plane that has never seen anything but this creation.
-/

namespace CustomerKeys

/-- The beginning of a life and its end. -/
inductive Turn where
  | created
  | deleted
  deriving DecidableEq, Repr

/-- The turn that a call asks for. -/
def Request.turn? : Request → Option Turn
  | .createInstance .. => some .created
  | .deleteInstance .. => some .deleted
  | _ => none

/-- The turn that an exchange is for an instance: the call addresses it and is answered. -/
def Exchange.turn? (exchange : Exchange) (instanceId : String) : Option Turn :=
  if exchange.concerns instanceId && exchange.reply.isOk then exchange.operation.request.turn?
  else none

/-- All turns of an instance in their order. -/
def turns (exchanges : List Exchange) (instanceId : String) : List Turn :=
  exchanges.filterMap (·.turn? instanceId)

/-- What a turn does to whether the instance exists: it begins a life where there is none, or ends
one. Without a turn nothing changes. -/
inductive Turn.Moves : Option Turn → (before after : Bool) → Prop
  | created : Moves (some .created) false true
  | deleted : Moves (some .deleted) true false
  | none (alive : Bool) : Moves none alive alive

/-- Turns that follow each other properly, from whether the instance exists at first to whether it
exists in the end. -/
inductive Turn.Alternate : (before : Bool) → List Turn → (after : Bool) → Prop
  | nil (alive : Bool) : Alternate alive [] alive
  | created {rest : List Turn} {after : Bool} (others : Alternate true rest after) :
    Alternate false (.created :: rest) after
  | deleted {rest : List Turn} {after : Bool} (others : Alternate false rest after) :
    Alternate true (.deleted :: rest) after

namespace Turn.Alternate

variable {before after : Bool} {turns : List Turn}

/-- Every second turn is a creation. It is the first one that is, when there was no instance. -/
theorem created_iff (alternate : Alternate before turns after) {place : Nat} {turn : Turn}
    (here : turns[place]? = some turn) :
    turn = .created ↔ (place % 2 = 0 ↔ before = false) := by
  induction alternate generalizing place with
  | nil alive => cases here
  | created others inductionHypothesis =>
    cases place with
    | zero =>
      obtain rfl := Option.some.inj here
      simp
    | succ place =>
      have parity : (place + 1) % 2 = 0 ↔ ¬ place % 2 = 0 := by omega
      rw [inductionHypothesis here, parity]
      simp
  | deleted others inductionHypothesis =>
    cases place with
    | zero =>
      obtain rfl := Option.some.inj here
      simp
    | succ place =>
      have parity : (place + 1) % 2 = 0 ↔ ¬ place % 2 = 0 := by omega
      rw [inductionHypothesis here, parity]
      simp

/-- The last turn says whether there is an instance in the end. Without any turn there is one if
there was one. -/
theorem after_iff (alternate : Alternate before turns after) :
    after = true ↔ turns.getLast?.getD (if before then .created else .deleted) = .created := by
  induction alternate with
  | nil alive => cases alive <;> simp
  | created others inductionHypothesis =>
    rw [inductionHypothesis, List.getLast?_cons, Option.getD_some]
    rfl
  | deleted others inductionHypothesis =>
    rw [inductionHypothesis, List.getLast?_cons, Option.getD_some]
    rfl

end Turn.Alternate

/-- A call begins a life only where there is none, ends one only where there is one, and only when
it is answered. -/
theorem Handle.Serves.moves {handle : Handle} {now : UInt64} {request : Request}
    {held after : Option Holdings} {result : Except Refusal request.Answer}
    (served : handle.Serves now request held result after) :
    Turn.Moves (if result.isOk then request.turn? else none) held.isSome after.isSome := by
  cases served with
  | refused idle => exact .none _
  | instanceCreated several placed => exact .created
  | instanceDeleted => exact .deleted
  | clusterCreated placed free => exact .none true
  | clusterFound found => exact .none true
  | tableCreated free => exact .none true
  | readRefused found left => exact .none true
  | readAnswered found spent => exact .none true
  | backupCreated later found kept free => exact .none true
  | backupFound found => exact .none true
  | backupDeleted kept => exact .none true

namespace Plane

variable {plane other : Plane} {instanceId : String}

/-- Planes that agree on an instance agree on whether it exists. -/
theorem has_instance_congr (agree : plane[instanceId]? = other[instanceId]?) :
    plane.hasInstance instanceId = other.hasInstance instanceId := by
  rw [has_instance_eq, has_instance_eq, agree]

/-- They agree on its backups. -/
theorem has_backup_congr (agree : plane[instanceId]? = other[instanceId]?)
    (clusterId backupId : String) :
    plane.hasBackup instanceId clusterId backupId =
      other.hasBackup instanceId clusterId backupId := by
  rw [hasBackup, hasBackup, agree]

end Plane

/-- An operation moves an instance by the turn that it is for it. -/
theorem Operation.perform_moves (operation : Operation) (plane : Plane) (instanceId : String) :
    Turn.Moves ((operation.perform plane).1.turn? instanceId) (plane.hasInstance instanceId)
      ((operation.perform plane).2.hasInstance instanceId) := by
  cases addressed : operation.addresses instanceId with
  | false =>
    have same := lookup_perform_of_not_addresses addressed plane
    have turnless : (operation.perform plane).1.turn? instanceId = none := by
      have foreign : (operation.perform plane).1.concerns instanceId = false := addressed
      simp [Exchange.turn?, foreign]
    rw [turnless, Plane.has_instance_congr same]
    exact .none _
  | true =>
    have own : operation.request.instanceId = instanceId := by simpa [addresses] using addressed
    subst own
    obtain ⟨result, answered, served⟩ := operation.exists_served plane
    have turn : (operation.perform plane).1.turn? operation.request.instanceId =
        if result.isOk then operation.request.turn? else none := by
      have concerned : (operation.perform plane).1.concerns operation.request.instanceId = true :=
        addressed
      rw [Exchange.turn?, concerned, answered]
      rfl
    rw [turn, Plane.has_instance_eq, Plane.has_instance_eq]
    exact served.moves

namespace Plane

/-- The turns of an instance alternate over a whole history. -/
theorem history_alternates (operations : List Operation) (plane : Plane) (instanceId : String) :
    Turn.Alternate (plane.hasInstance instanceId) (turns (history operations plane).1 instanceId)
      ((history operations plane).2.hasInstance instanceId) := by
  induction operations generalizing plane with
  | nil => exact .nil _
  | cons operation rest inductionHypothesis =>
    have others := inductionHypothesis (operation.perform plane).2
    have first := operation.perform_moves plane instanceId
    simp only [history, turns, List.filterMap_cons] at others ⊢
    generalize (operation.perform plane).1.turn? instanceId = turn at first
    generalize plane.hasInstance instanceId = before at first ⊢
    generalize (operation.perform plane).2.hasInstance instanceId = between at first others
    cases first with
    | created => exact .created others
    | deleted => exact .deleted others
    | none alive => exact others

/-- A creation that is answered on a plane is answered alike by the empty plane, and makes the same
instance there. -/
theorem created_as_on_empty {handle : Handle} {now : UInt64} {plane : Plane} {instanceId : String}
    {specs : List ClusterSpec} {created : Instance}
    (answered : (handle.client now (.createInstance instanceId specs) plane).1 = .ok created) :
    (handle.client now (.createInstance instanceId specs) .empty).1 = .ok created ∧
      (handle.client now (.createInstance instanceId specs) plane).2[instanceId]? =
        (handle.client now (.createInstance instanceId specs) .empty).2[instanceId]? := by
  have vacant : plane[instanceId]? = none :=
    (handle.serves_of_answered now answered).instance_new.1
  have agree : plane[instanceId]? = empty[instanceId]? := vacant.trans (by simp [empty])
  constructor
  · rw [← answered, Handle.client_fst, Handle.client_fst]
    simp only [Request.instanceId, agree]
  · rw [Handle.client_snd, Handle.client_snd]
    simp only [Request.instanceId, agree, lookup_put_self]

/-- Lives are exact, and nothing of an earlier one is left in a later one.

In every history that begins with an empty plane, through any handles, the answered creations and
deletions of each id alternate and the first is a creation. An instance exists exactly when the last
of them was its creation, and as many instances exist as there are such ids.

After a creation that is answered, on whatever plane, all that follows is answered for this instance
as on an empty plane on which the same creation was made and on which only the calls on this
instance follow. The two planes hold the same under its id, and agree on which backups it has. -/
theorem lives_are_exact :
    (∀ operations : List Operation,
      let past := history operations .empty
      (∀ (instanceId : String) (place : Nat) (turn : Turn),
        (turns past.1 instanceId)[place]? = some turn → (turn = .created ↔ place % 2 = 0)) ∧
      (∀ instanceId : String, past.2.hasInstance instanceId = true ↔
        (turns past.1 instanceId).getLast? = some .created) ∧
      ∃ alive : List String, alive.Nodup ∧
        (∀ instanceId, instanceId ∈ alive ↔
          (turns past.1 instanceId).getLast? = some .created) ∧
        past.2.instanceCount = alive.length) ∧
    (∀ (plane : Plane) (handle : Handle) (now : UInt64) (instanceId : String)
      (specs : List ClusterSpec) (created : Instance),
      (handle.client now (.createInstance instanceId specs) plane).1 = .ok created →
      (handle.client now (.createInstance instanceId specs) .empty).1 = .ok created ∧
      ∀ further : List Operation,
        let later := history further (handle.client now (.createInstance instanceId specs) plane).2
        let alone := history (further.filter (·.addresses instanceId))
          (handle.client now (.createInstance instanceId specs) .empty).2
        later.1.filter (·.concerns instanceId) = alone.1 ∧
          later.2[instanceId]? = alone.2[instanceId]? ∧
          later.2.hasInstance instanceId = alone.2.hasInstance instanceId ∧
          ∀ clusterId backupId, later.2.hasBackup instanceId clusterId backupId =
            alone.2.hasBackup instanceId clusterId backupId) := by
  constructor
  · intro operations past
    have alternate (instanceId : String) : Turn.Alternate false (turns past.1 instanceId)
        (past.2.hasInstance instanceId) := history_alternates operations .empty instanceId
    have exists_iff (instanceId : String) : past.2.hasInstance instanceId = true ↔
        (turns past.1 instanceId).getLast? = some .created := by
      rw [(alternate instanceId).after_iff]
      cases (turns past.1 instanceId).getLast? <;> simp
    refine ⟨?_, exists_iff, past.2.keys, Std.ExtTreeMap.nodup_keys, ?_, ?_⟩
    · intro instanceId place turn here
      rw [(alternate instanceId).created_iff here]
      simp
    · intro instanceId
      rw [← exists_iff, Std.ExtTreeMap.mem_keys]
      rfl
    · exact Std.ExtTreeMap.length_keys.symm
  · intro plane handle now instanceId specs created answered
    obtain ⟨alike, agree⟩ := created_as_on_empty answered
    refine ⟨alike, ?_⟩
    intro further later alone
    obtain ⟨replies, record⟩ := history_agree further instanceId agree
    exact ⟨replies, record, has_instance_congr record, has_backup_congr record⟩

/-- An instance with a table that has been read, and with a backup, is deleted and created again
with another cluster. What is asked of it then is answered as if it had never been there: its backup
is missing, its table can be created, and the reads of the table are counted from the first. -/
theorem second_life_starts_anew :
    let key := "projects/p/locations/us-central1/keyRings/r/cryptoKeys/k"
    let maker : Handle := ⟨"p", 1, 0⟩
    let reader : Handle := ⟨"p", 0, 2⟩
    let firstLife : List Operation :=
      [⟨maker, 7, .createInstance "i" [⟨"c1", "us-central1-b", 1, .ssd, some key⟩]⟩,
        ⟨maker, 7, .createTable "i" "t" ["cf"]⟩, ⟨reader, 8, .getEncryption "i" "t"⟩,
        ⟨reader, 8, .createInstance "j" [⟨"c", "a-b", 1, .hdd, none⟩]⟩,
        ⟨maker, 9, .createBackup "i" ⟨"c1", "b", "t", 90⟩⟩, ⟨reader, 10, .deleteInstance "i"⟩]
    let past := history firstLife .empty
    let creation : Request :=
      .createInstance "i" [⟨"c2", "us-central1-c", 1, .hdd, some key⟩]
    let further : List Operation :=
      [⟨reader, 12, .getBackup "i" "c1" "b"⟩, ⟨reader, 12, .createTable "i" "t" []⟩,
        ⟨maker, 13, .deleteInstance "j"⟩, ⟨maker, 14, .getEncryption "i" "t"⟩,
        ⟨maker, 15, .getEncryption "i" "t"⟩, ⟨maker, 16, .getEncryption "i" "t"⟩]
    turns past.1 "i" = [.created, .deleted] ∧ past.2.hasInstance "i" = false ∧
    (maker.client 11 creation past.2).1 = .ok ⟨"i", ["c2"], 11⟩ ∧
    let later := history further (maker.client 11 creation past.2).2
    let alone := history (further.filter (·.addresses "i")) (maker.client 11 creation .empty).2
    later.1.filter (·.concerns "i") = alone.1 ∧ later.2["i"]? = alone.2["i"]? ∧
      later.2.hasBackup "i" "c1" "b" = alone.2.hasBackup "i" "c1" "b" := by
  intro key maker reader firstLife past creation further
  obtain ⟨lives, anew⟩ := lives_are_exact
  obtain ⟨-, exists_iff, -⟩ := lives firstLife
  have turned : turns past.1 "i" = [.created, .deleted] := by
    simp only [past, firstLife, maker, reader, key]
    rfl
  have gone : past.2.hasInstance "i" = false := by
    apply Bool.eq_false_iff.mpr
    intro alive
    have last := (exists_iff "i").mp alive
    rw [turned] at last
    cases last
  have answered : (maker.client 11 creation past.2).1 = .ok ⟨"i", ["c2"], 11⟩ := by
    simp only [past, firstLife, creation, maker, reader, key]
    rfl
  obtain ⟨-, follows⟩ := anew past.2 maker 11 "i" _ _ answered
  obtain ⟨replies, record, -, backups⟩ := follows further
  exact ⟨turned, gone, answered, replies, record, backups "c1" "b"⟩

end Plane

end CustomerKeys
