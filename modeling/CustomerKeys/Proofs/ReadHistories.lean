import CustomerKeys.Proofs.LastingRecords
import CustomerKeys.Proofs.RefusedCalls

/-!
# How the reads of a table go, by their number

A table counts its own reads and nothing else: not those of other tables, not calls that are refused
for another reason, and not by whose handle a read was made. So the history of its reads says how
the next one goes. As many of the first ones are refused as the handle that created the table asked
for. Those after them are answered, and an answer shows the keys converged when its number is
greater than what the handle that reads asks for. The failures are therefore settled once for all,
while each handle has a threshold of its own.

The number of an answer is taken to fit the 32 bits of the counter.
-/

namespace CustomerKeys

/-- The operation reads a table. -/
def Operation.reads (operation : Operation) (instanceId tableId : String) : Bool :=
  operation.request = .getEncryption instanceId tableId

/-- The exchange is a read of a table that was answered. -/
def Exchange.answersRead (exchange : Exchange) (instanceId tableId : String) : Bool :=
  exchange.operation.reads instanceId tableId && exchange.reply.isOk

namespace Holdings

/-- Giving a table the state that it has changes nothing. -/
theorem with_table_self {holdings : Holdings} {tableId : String} {state : TableState}
    (found : holdings.tables[tableId]? = some state) :
    holdings.withTable tableId state = holdings := by
  have same : holdings.tables.insert tableId state = holdings.tables := by
    apply Std.ExtTreeMap.ext_getElem?
    intro other
    rw [Std.ExtTreeMap.getElem?_insert]
    split
    · rename_i compared
      obtain rfl := Std.LawfulEqCmp.eq_of_compare compared
      exact found.symm
    · rfl
  rw [withTable, same]

end Holdings

/-- A report shows every cluster of an instance that has a key as converged under the key's first
version, or else every one of them as pending. Both are written out: a good status without a text
beside the version, or an unknown one with its text and no version. -/
def Plane.ShowsKeys (plane : Plane) (instanceId : String) (report : EncryptionReport)
    (converged : Bool) : Prop :=
  ∀ (clusterId : String) (cluster : Cluster) (key : String),
    plane.cluster? instanceId clusterId = some cluster → cluster.key = some key →
      report[clusterId]? = some [if converged then
          ⟨.customerManaged, key ++ "/cryptoKeyVersions/1", ⟨.ok, ""⟩⟩
        else ⟨.customerManaged, "", ⟨.unknown, "Key version is not yet known."⟩⟩]

/-- What an instance of a coherent plane reports shows its keys. -/
theorem Plane.Coherent.shows_keys_report {plane : Plane} (coherent : plane.Coherent)
    {instanceId : String} {holdings : Holdings} (held : plane[instanceId]? = some holdings)
    (converged : Bool) : plane.ShowsKeys instanceId (holdings.report converged) converged := by
  intro clusterId cluster key found keyed
  obtain ⟨_, alsoHeld, inside⟩ := Plane.cluster?_eq_some_iff.mp found
  obtain rfl := Option.some.inj (held.symm.trans alsoHeld)
  have sound := coherent instanceId holdings held
  obtain ⟨name, readsKey, -⟩ := sound.clusterPlaced clusterId cluster inside key keyed
  rw [sound.filed.lookup_report inside, Cluster.table_encryption_of_parse keyed readsKey,
    KeyName.version_primary_version readsKey]
  rfl

/-- The state that a table of the plane is given is the one it has. -/
theorem Plane.table_with_table {plane : Plane} {instanceId : String} {holdings : Holdings}
    (held : plane[instanceId]? = some holdings) (tableId : String) (state : TableState) :
    (plane.withTable instanceId tableId state).table? instanceId tableId = some state := by
  simp [table?, withTable, held]

namespace Handle

variable {handle : Handle} {now : UInt64} {instanceId tableId : String}

/-- A table that is created has answered nothing, and has the failures that its handle asks for. -/
theorem Serves.table_created {families : List String} {held after : Option Holdings} {table : Table}
    (served : handle.Serves now (.createTable instanceId tableId families) held (.ok table) after) :
    table.id = tableId ∧ ∃ holdings, after = some holdings ∧
      holdings.tables[tableId]? = some (.afterReads table handle.transientFailures 0) := by
  cases served with
  | tableCreated free =>
    refine ⟨rfl, _, rfl, ?_⟩
    rw [Holdings.lookup_with_table, TableState.after_reads_zero]

variable (handle now) {plane : Plane}

/-- A read of a table that is there is refused while failures are left and answered from then on,
and moves the counters of the table. -/
theorem client_get_encryption {holdings : Holdings} {state : TableState}
    (held : plane[instanceId]? = some holdings) (found : holdings.tables[tableId]? = some state) :
    handle.client now (.getEncryption instanceId tableId) plane =
      (if 0 < state.failuresLeft then .error (Refusal.readFailure state.table.id).toError
        else .ok (holdings.report (handle.convergenceReads < state.reads + 1)),
        plane.withTable instanceId tableId state.afterRead) := by
  have answer := handle.single_get_encryption now instanceId tableId holdings state
  rw [Holdings.with_table_self found] at answer
  apply Prod.ext
  · rw [client_fst]
    simp only [Request.instanceId, held, answer]
  · rw [client_snd]
    simp only [Request.instanceId, held, answer, Plane.withTable, Option.map_some]

end Handle

section

variable {instanceId tableId : String} {table : Table} {failures : UInt32} {times : Nat}
  {plane : Plane}

/-- A read is one step in the count of its table, and is answered once the failures are used up. -/
theorem Operation.perform_read {operation : Operation}
    (read : operation.reads instanceId tableId = true)
    (found : plane.table? instanceId tableId = some (.afterReads table failures times)) :
    (operation.perform plane).2.table? instanceId tableId =
        some (.afterReads table failures (times + 1)) ∧
      ((operation.perform plane).1.answersRead instanceId tableId = true ↔
        failures.toNat ≤ times) := by
  obtain ⟨handle, now, request⟩ := operation
  obtain rfl : request = .getEncryption instanceId tableId := of_decide_eq_true read
  obtain ⟨holdings, held, inside⟩ := Plane.table?_eq_some_iff.mp found
  have answer := handle.client_get_encryption now held inside
  constructor
  · simp only [perform, answer]
    rw [Plane.table_with_table held, TableState.after_reads_succ]
  · simp only [perform, answer, Exchange.answersRead, read, Bool.true_and,
      TableState.failures_left_pos_iff]
    by_cases left : times < failures.toNat
    · rw [if_pos left]
      exact iff_of_false Bool.false_ne_true (Nat.not_le.mpr left)
    · rw [if_neg left]
      exact iff_of_true rfl (Nat.not_lt.mp left)

/-- An operation that does not read a table answers no read of it. -/
theorem Operation.answers_read_perform {operation : Operation}
    (unread : operation.reads instanceId tableId = false) (plane : Plane) :
    (operation.perform plane).1.answersRead instanceId tableId = false :=
  Bool.and_eq_false_iff.mpr (.inl unread)

namespace Plane

/-- The counters of a table after a history that does not delete its instance, and how many of the
reads in it were answered. Only the reads of the table itself count, through whichever handles. -/
theorem table?_history {operations : List Operation}
    (undeleted : ∀ operation ∈ operations, operation.request ≠ .deleteInstance instanceId)
    (found : plane.table? instanceId tableId = some (.afterReads table failures times)) :
    let calls := operations.countP (·.reads instanceId tableId)
    (history operations plane).2.table? instanceId tableId =
        some (.afterReads table failures (times + calls)) ∧
      (history operations plane).1.countP (·.answersRead instanceId tableId) +
          (times - failures.toNat) = times + calls - failures.toNat := by
  induction operations generalizing plane times with
  | nil => exact ⟨found, Nat.zero_add _⟩
  | cons operation rest inductionHypothesis =>
    have others : ∀ other ∈ rest, other.request ≠ .deleteInstance instanceId :=
      fun other listed => undeleted other (List.mem_cons_of_mem _ listed)
    simp only [history, List.countP_cons]
    cases read : operation.reads instanceId tableId with
    | true =>
      obtain ⟨moved, answered⟩ := Operation.perform_read read found
      obtain ⟨counters, counted⟩ := inductionHypothesis others moved
      constructor
      · rw [counters]
        congr 2
        simp only [if_true]
        omega
      · simp only [answered, if_true]
        split <;> omega
    | false =>
      have unread : operation.request ≠ .getEncryption instanceId tableId :=
        of_decide_eq_false read
      have alive := undeleted operation List.mem_cons_self
      have kept := Operation.table?_perform alive unread found
      have uncounted := Operation.answers_read_perform read plane
      simpa [uncounted] using inductionHypothesis others kept

variable (handle : Handle) (now : UInt64)

/-- While failures are left, a read is refused. -/
theorem read_refused (left : times < failures.toNat)
    (found : plane.table? instanceId tableId = some (.afterReads table failures times)) :
    (handle.client now (.getEncryption instanceId tableId) plane).1 =
      .error (Refusal.readFailure table.id).toError := by
  obtain ⟨holdings, held, inside⟩ := table?_eq_some_iff.mp found
  rw [handle.client_get_encryption now held inside]
  exact if_pos ((TableState.failures_left_pos_iff table failures).mpr left)

/-- After them a read is answered. As long as its number fits the counter, it shows the keys
converged exactly when its number is greater than what the handle asks for. -/
theorem Coherent.read_answered (coherent : plane.Coherent) (used : failures.toNat ≤ times)
    (found : plane.table? instanceId tableId = some (.afterReads table failures times)) :
    let number := times - failures.toNat + 1
    ∃ report, (handle.client now (.getEncryption instanceId tableId) plane).1 = .ok report ∧
      (number < UInt32.size →
        plane.ShowsKeys instanceId report (handle.convergenceReads.toNat < number)) := by
  intro number
  obtain ⟨holdings, held, inside⟩ := table?_eq_some_iff.mp found
  have spent : ¬ 0 < (TableState.afterReads table failures times).failuresLeft := by
    rw [TableState.failures_left_pos_iff]
    omega
  rw [handle.client_get_encryption now held inside, if_neg spent]
  refine ⟨_, rfl, ?_⟩
  intro fits
  have threshold : handle.convergenceReads < (TableState.afterReads table failures times).reads + 1
      ↔ handle.convergenceReads.toNat < number := by
    rw [TableState.lt_reads_add_one_iff table failures _ used fits]
    omega
  simp only [threshold]
  exact coherent.shows_keys_report held _

/-- The reads of a table go by their number. Take any history that begins with an empty plane and in
which a table is created, and go on from there in any way that does not delete its instance. The
next read, through whichever handle, is refused as unavailable if fewer reads were made since the
creation than the creating handle asked for failures, and otherwise it is answered. If it is the
answer with a certain number, the keyed clusters show as converged exactly when that number is
greater than what the reading handle asks for, and as pending otherwise. -/
theorem reads_go_by_number (earlier between : List Operation) (creator reader : Handle)
    (made now : UInt64) (instanceId tableId : String) (families : List String) {table : Table}
    (created : (creator.client made (.createTable instanceId tableId families)
      (history earlier .empty).2).1 = .ok table)
    (undeleted : ∀ operation ∈ between, operation.request ≠ .deleteInstance instanceId) :
    let creation : Operation := ⟨creator, made, .createTable instanceId tableId families⟩
    let past := history between (creation.perform (history earlier .empty).2).2
    let calls := between.countP (·.reads instanceId tableId)
    let number := past.1.countP (·.answersRead instanceId tableId) + 1
    let reply := (reader.client now (.getEncryption instanceId tableId) past.2).1
    (calls < creator.transientFailures.toNat → reply = .error (.unavailable
      ("encryption info for table " ++ tableId ++ " is temporarily unavailable"))) ∧
    (creator.transientFailures.toNat ≤ calls → ∃ report, reply = .ok report ∧
      (number < UInt32.size →
        past.2.ShowsKeys instanceId report (reader.convergenceReads.toNat < number))) := by
  intro creation past calls number reply
  obtain ⟨named, holdings, left, fresh⟩ := (creator.serves_of_answered made created).table_created
  have start : (creation.perform (history earlier .empty).2).2.table? instanceId tableId =
      some (.afterReads table creator.transientFailures 0) :=
    table?_eq_some_iff.mpr ⟨holdings, left, fresh⟩
  obtain ⟨counters, counted⟩ := table?_history undeleted start
  simp only [Nat.zero_add, Nat.zero_sub, Nat.add_zero] at counters counted
  have coherent : past.2.Coherent :=
    (creation.perform_coherent (coherent_empty.history earlier)).history between
  refine ⟨?_, ?_⟩
  · intro early
    rw [← named]
    exact read_refused reader now early counters
  · intro used
    have answered := coherent.read_answered reader now used counters
    rw [← counted] at answered
    exact answered

/-- A table is made through a handle that asks for two failures, so the first read is refused,
although another handle makes it. After two refused reads and one that is answered, beside reads of
another table and a new cluster, the next one is answer number two, and the first that shows the
keys converged to a handle that asks for one pending answer. -/
theorem second_answer_converges :
    let key := "projects/p/locations/us-central1/keyRings/r/cryptoKeys/k"
    let creator : Handle := ⟨"p", 5, 2⟩
    let reader : Handle := ⟨"p", 1, 9⟩
    let earlier : List Operation :=
      [⟨creator, 7, .createInstance "i" [⟨"c1", "us-central1-b", 1, .ssd, some key⟩]⟩]
    let between : List Operation :=
      [⟨reader, 9, .getEncryption "i" "t"⟩, ⟨reader, 9, .createTable "i" "u" []⟩,
        ⟨reader, 10, .getEncryption "i" "u"⟩, ⟨creator, 11, .getEncryption "i" "t"⟩,
        ⟨creator, 12, .createCluster "i" ⟨"c2", "us-central1-c", 1, .hdd, some key⟩⟩,
        ⟨creator, 13, .getEncryption "i" "t"⟩, ⟨reader, 14, .deleteInstance "j"⟩]
    let creation : Operation := ⟨creator, 8, .createTable "i" "t" ["cf"]⟩
    let past := history between (creation.perform (history earlier .empty).2).2
    (creator.client 8 creation.request (history earlier .empty).2).1 = .ok ⟨"t", "i", ["cf"], 8⟩ ∧
      (∀ operation ∈ between, operation.request ≠ .deleteInstance "i") ∧
      (reader.client 9 (.getEncryption "i" "t")
        (creation.perform (history earlier .empty).2).2).1 =
          .error (.unavailable "encryption info for table t is temporarily unavailable") ∧
      ∃ report, (reader.client 15 (.getEncryption "i" "t") past.2).1 = .ok report ∧
        past.2.ShowsKeys "i" report true := by
  intro key creator reader earlier between creation past
  have created : (creator.client 8 creation.request (history earlier .empty).2).1 =
      .ok ⟨"t", "i", ["cf"], 8⟩ := by
    simp only [creation, earlier, creator, key]
    rfl
  have undeleted : ∀ operation ∈ between, operation.request ≠ .deleteInstance "i" := by
    simp [between]
  obtain ⟨refused, -⟩ :=
    reads_go_by_number earlier [] creator reader 8 9 "i" "t" ["cf"] created (List.forall_mem_nil _)
  obtain ⟨-, answers⟩ :=
    reads_go_by_number earlier between creator reader 8 15 "i" "t" ["cf"] created undeleted
  have second : past.1.countP (·.answersRead "i" "t") + 1 = 2 := by
    simp only [past, between, creation, earlier, creator, reader, key]
    rfl
  obtain ⟨report, answered, shown⟩ := answers (by decide)
  simp only [creation, past] at second
  rw [second] at shown
  exact ⟨created, undeleted, refused (by decide), report, answered, shown (by decide)⟩

end Plane

end

end CustomerKeys
