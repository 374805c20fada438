import CustomerKeys.Proofs.PlaneRecords

/-!
# A refused call leaves the plane as it was

There is one exception. A read may be refused because its table still has failures to give, and
that uses up one of them. It is also the only refusal with the code `UNAVAILABLE`, so whoever made
the call can tell from the reply whether anything has changed. An answered read counts itself in its
table and does nothing else, and looking up a cluster or a backup changes nothing either way.

This holds on any plane. An instance with several clusters is no special case: its placement is
settled for the whole list before anything of it is kept.
-/

namespace CustomerKeys

/-- The plane with a table of an instance in another state, and nothing else changed. -/
def Plane.withTable (plane : Plane) (instanceId tableId : String) (state : TableState) : Plane :=
  plane.put instanceId (plane[instanceId]?.map (·.withTable tableId state))

/-- Only a read that uses up a failure is refused as unavailable. -/
theorem Refusal.code_eq_unavailable_iff (refusal : Refusal) :
    refusal.toError.code = .unavailable ↔ ∃ tableId, refusal = .readFailure tableId := by
  cases refusal <;> simp [toError, AdminError.invalidArgument, AdminError.code]

namespace TableState

/-- A refused read uses up a failure. -/
theorem after_read_of_left {state : TableState} (left : 0 < state.failuresLeft) :
    state.afterRead = { state with failuresLeft := state.failuresLeft - 1 } := if_pos left

/-- An answered read is counted. -/
theorem after_read_of_spent {state : TableState} (spent : ¬ 0 < state.failuresLeft) :
    state.afterRead = { state with reads := state.reads + 1 } := if_neg spent

end TableState

namespace Handle

variable {handle : Handle} {now : UInt64}

/-- A refused call either leaves its instance alone, or it is a read of a table with failures left
and uses up one of them. -/
theorem Serves.unchanged_or_read {request : Request} {held after : Option Holdings}
    {refusal : Refusal} (served : handle.Serves now request held (.error refusal) after) :
    (∀ tableId, refusal ≠ .readFailure tableId) ∧ after = held ∨
      ∃ (instanceId tableId : String) (holdings : Holdings) (state : TableState),
        request = .getEncryption instanceId tableId ∧ held = some holdings ∧
        holdings.tables[tableId]? = some state ∧ 0 < state.failuresLeft ∧
        refusal = .readFailure state.table.id ∧
        after = some (holdings.withTable tableId state.afterRead) := by
  cases served with
  | refused idle => exact .inl ⟨idle, rfl⟩
  | readRefused found left => exact .inr ⟨_, _, _, _, rfl, rfl, found, left, rfl, rfl⟩

/-- A look-up of a cluster leaves its instance alone. -/
theorem Serves.get_cluster_unchanged {instanceId clusterId : String} {held after : Option Holdings}
    {result : Except Refusal Cluster}
    (served : handle.Serves now (.getCluster instanceId clusterId) held result after) :
    after = held := by
  cases served with
  | refused idle => rfl
  | clusterFound found => rfl

/-- A look-up of a backup leaves its instance alone. -/
theorem Serves.get_backup_unchanged {instanceId clusterId backupId : String}
    {held after : Option Holdings} {result : Except Refusal Backup}
    (served : handle.Serves now (.getBackup instanceId clusterId backupId) held result after) :
    after = held := by
  cases served with
  | refused idle => rfl
  | backupFound found => rfl

/-- A call on the plane that is refused is refused from what its instance holds. -/
theorem exists_refusal {request : Request} {plane : Plane} {error : AdminError}
    (refused : (handle.client now request plane).1 = .error error) :
    ∃ refusal : Refusal, error = refusal.toError ∧
      handle.Serves now request plane[request.instanceId]? (.error refusal)
        (handle.client now request plane).2[request.instanceId]? := by
  obtain ⟨result, replied, served⟩ := handle.client_serves now request plane
  rw [replied] at refused
  cases result with
  | ok answer => cases refused
  | error refusal => exact ⟨refusal, (Except.error.inj refused).symm, served⟩

/-- All that a call changes of a plane is what it leaves of its instance. -/
theorem client_snd_eq_put (request : Request) (plane : Plane) :
    (handle.client now request plane).2 =
      plane.put request.instanceId (handle.client now request plane).2[request.instanceId]? := by
  rw [client_snd, Plane.lookup_put_self]

/-- A call that leaves its instance alone leaves the plane alone. -/
theorem client_snd_eq_self {request : Request} {plane : Plane}
    (same : (handle.client now request plane).2[request.instanceId]? =
      plane[request.instanceId]?) : (handle.client now request plane).2 = plane := by
  rw [client_snd_eq_put, same, Plane.put_lookup]

/-- A read that moves the counters of its table does nothing else to the plane. -/
theorem client_snd_eq_with_table {instanceId tableId : String} {plane : Plane} {holdings : Holdings}
    {state : TableState} (held : plane[instanceId]? = some holdings)
    (left : (handle.client now (.getEncryption instanceId tableId) plane).2[instanceId]? =
      some (holdings.withTable tableId state)) :
    (handle.client now (.getEncryption instanceId tableId) plane).2 =
      plane.withTable instanceId tableId state := by
  rw [client_snd_eq_put, Plane.withTable, held]
  exact congrArg (plane.put instanceId) left

section

variable {plane : Plane} {request : Request} {error : AdminError}
  (refused : (handle.client now request plane).1 = .error error)

include refused

/-- A call that is refused with another code than unavailability changes nothing. -/
theorem unchanged_of_refused (otherwise : error.code ≠ .unavailable) :
    (handle.client now request plane).2 = plane := by
  obtain ⟨refusal, rfl, served⟩ := exists_refusal refused
  obtain ⟨-, same⟩ | ⟨-, -, -, state, -, -, -, -, read, -⟩ := served.unchanged_or_read
  · exact client_snd_eq_self same
  · exact absurd (refusal.code_eq_unavailable_iff.mpr ⟨_, read⟩) otherwise

/-- A call that is refused as unavailable is a read, and uses up a failure of its table. -/
theorem exists_failure_of_unavailable (unavailable : error.code = .unavailable) :
    ∃ (instanceId tableId : String) (state : TableState),
      request = .getEncryption instanceId tableId ∧
      plane.table? instanceId tableId = some state ∧ 0 < state.failuresLeft ∧
      (handle.client now request plane).2 = plane.withTable instanceId tableId
        { state with failuresLeft := state.failuresLeft - 1 } := by
  obtain ⟨refusal, rfl, served⟩ := exists_refusal refused
  obtain ⟨tableId, read⟩ := refusal.code_eq_unavailable_iff.mp unavailable
  obtain ⟨idle, -⟩ | ⟨instanceId, tableId, holdings, state, rfl, held, found, left, -, after⟩ :=
    served.unchanged_or_read
  · exact absurd read (idle tableId)
  · rw [TableState.after_read_of_left left] at after
    exact ⟨instanceId, tableId, state, rfl, Plane.table?_eq_some_iff.mpr ⟨holdings, held, found⟩,
      left, client_snd_eq_with_table held after⟩

end

/-- An answered read counts itself in its table. -/
theorem exists_count_of_answered {plane : Plane} {instanceId tableId : String}
    {report : EncryptionReport}
    (answered : (handle.client now (.getEncryption instanceId tableId) plane).1 = .ok report) :
    ∃ state : TableState, plane.table? instanceId tableId = some state ∧
      (handle.client now (.getEncryption instanceId tableId) plane).2 =
        plane.withTable instanceId tableId { state with reads := state.reads + 1 } := by
  have served := handle.serves_of_answered now answered
  obtain ⟨holdings, state, held, found, spent, -, after⟩ := served.exists_read
  rw [TableState.after_read_of_spent spent] at after
  exact ⟨state, Plane.table?_eq_some_iff.mpr ⟨holdings, held, found⟩,
    client_snd_eq_with_table held after⟩

variable (handle now) (plane : Plane)

/-- Looking up a cluster changes nothing. -/
theorem client_get_cluster_snd (instanceId clusterId : String) :
    (handle.client now (.getCluster instanceId clusterId) plane).2 = plane := by
  obtain ⟨result, -, served⟩ := handle.client_serves now (.getCluster instanceId clusterId) plane
  exact client_snd_eq_self served.get_cluster_unchanged

/-- Looking up a backup changes nothing. -/
theorem client_get_backup_snd (instanceId clusterId backupId : String) :
    (handle.client now (.getBackup instanceId clusterId backupId) plane).2 = plane := by
  obtain ⟨result, -, served⟩ :=
    handle.client_serves now (.getBackup instanceId clusterId backupId) plane
  exact client_snd_eq_self served.get_backup_unchanged

/-- Refused calls are atomic, on any plane and through any handle. A call that is refused changes
nothing, unless the refusal is one for unavailability: then the call is a read of a table that had
failures left, and has used up exactly one of them. A read that is answered adds one to the 32 bits
of its table's counter and changes nothing else, and look-ups of clusters and backups never change
anything. -/
theorem refused_call_is_atomic :
    (∀ (request : Request) (error : AdminError),
      (handle.client now request plane).1 = .error error →
        (error.code ≠ .unavailable → (handle.client now request plane).2 = plane) ∧
        (error.code = .unavailable → ∃ (instanceId tableId : String) (state : TableState),
          request = .getEncryption instanceId tableId ∧
          plane.table? instanceId tableId = some state ∧ 0 < state.failuresLeft ∧
          (handle.client now request plane).2 = plane.withTable instanceId tableId
            { state with failuresLeft := state.failuresLeft - 1 })) ∧
    (∀ (instanceId tableId : String) (report : EncryptionReport),
      (handle.client now (.getEncryption instanceId tableId) plane).1 = .ok report →
        ∃ state : TableState, plane.table? instanceId tableId = some state ∧
          (handle.client now (.getEncryption instanceId tableId) plane).2 =
            plane.withTable instanceId tableId { state with reads := state.reads + 1 }) ∧
    (∀ instanceId clusterId : String,
      (handle.client now (.getCluster instanceId clusterId) plane).2 = plane) ∧
    (∀ instanceId clusterId backupId : String,
      (handle.client now (.getBackup instanceId clusterId backupId) plane).2 = plane) := by
  refine ⟨?_, ?_, handle.client_get_cluster_snd now plane, handle.client_get_backup_snd now plane⟩
  · intro request error refused
    exact ⟨unchanged_of_refused refused, exists_failure_of_unavailable refused⟩
  · intro instanceId tableId report answered
    exact exists_count_of_answered answered

/-- An instance whose second cluster is misplaced, after its first was accepted, leaves the plane as
it was. A read that fails leaves it with one failure fewer. -/
theorem misplaced_cluster_and_failing_read :
    let key := "projects/p/locations/us-central1/keyRings/r/cryptoKeys/k"
    let handle : Handle := ⟨"p", 0, 1⟩
    let plane := (Plane.history
      [⟨handle, 7, .createInstance "i" [⟨"c1", "us-central1-b", 1, .ssd, some key⟩]⟩,
        ⟨handle, 8, .createTable "i" "t" ["cf"]⟩] .empty).2
    let creation : Request := .createInstance "j"
      [⟨"c1", "us-central1-b", 1, .ssd, some key⟩, ⟨"c2", "us-east1-c", 1, .ssd, some key⟩]
    let read : Request := .getEncryption "i" "t"
    (∃ error, (handle.client 9 creation plane).1 = .error error ∧ error.code ≠ .unavailable ∧
      (handle.client 9 creation plane).2 = plane) ∧
    (∃ error, (handle.client 9 read plane).1 = .error error ∧ error.code = .unavailable ∧
      ∃ (instanceId tableId : String) (state : TableState),
        read = .getEncryption instanceId tableId ∧
        plane.table? instanceId tableId = some state ∧ 0 < state.failuresLeft ∧
        (handle.client 9 read plane).2 = plane.withTable instanceId tableId
          { state with failuresLeft := state.failuresLeft - 1 }) := by
  intro key handle plane creation read
  obtain ⟨refusals, -, -, -⟩ := handle.refused_call_is_atomic 9 plane
  obtain ⟨misplaced, refused, otherwise⟩ : ∃ error,
      (handle.client 9 creation plane).1 = .error error ∧ error.code ≠ .unavailable := by
    simp only [plane, creation, handle, key]
    exact ⟨_, rfl, by decide⟩
  obtain ⟨failing, failed, unavailable⟩ : ∃ error,
      (handle.client 9 read plane).1 = .error error ∧ error.code = .unavailable := by
    simp only [plane, read, handle, key]
    exact ⟨_, rfl, rfl⟩
  exact ⟨⟨misplaced, refused, otherwise, (refusals creation misplaced refused).1 otherwise⟩,
    failing, failed, unavailable, (refusals read failing failed).2 unavailable⟩

end Handle

end CustomerKeys
