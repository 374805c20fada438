import CustomerKeys.Proofs.ReadHistories

/-!
# When a converged key shows as pending again

A table has no status of its own. It has a count of answered reads, and each answer compares that
count with what the reading handle asks for. The count only grows, so a handle that has seen a key
converged goes on seeing it, and so does every handle that asks for no more pending answers than
that one. A handle that asks for more sees the key pending again until the count has passed its own
threshold, although another handle has already seen it converged.

All this is for counts that fit the 32 bits of the counter.
-/

namespace CustomerKeys

/-- A report has a single entry for a cluster, and the status of that entry is good. -/
def ReportsOk (report : EncryptionReport) (clusterId : String) : Prop :=
  ∃ entry, report[clusterId]? = some [entry] ∧ entry.status.isOk = true

/-- Whether a report is good about a cluster is said by the one entry that it has. -/
theorem reports_ok_iff_of_entry {report : EncryptionReport} {clusterId : String}
    {entry : Encryption}
    (found : report[clusterId]? = some [entry]) :
    ReportsOk report clusterId ↔ entry.status.isOk = true := by
  constructor
  · rintro ⟨other, alsoFound, good⟩
    obtain rfl := List.singleton_inj.mp (Option.some.inj (found.symm.trans alsoFound))
    exact good
  · intro good
    exact ⟨entry, found, good⟩

/-- The status that a report has for a keyed cluster is good exactly when the report shows the keys
converged. -/
theorem Plane.ShowsKeys.reports_ok_iff {plane : Plane} {instanceId clusterId key : String}
    {report : EncryptionReport} {converged : Bool} {cluster : Cluster}
    (shown : plane.ShowsKeys instanceId report converged)
    (found : plane.cluster? instanceId clusterId = some cluster) (keyed : cluster.key = some key) :
    ReportsOk report clusterId ↔ converged = true := by
  rw [reports_ok_iff_of_entry (shown clusterId cluster key found keyed)]
  cases converged with
  | true => exact iff_of_true rfl rfl
  | false => exact iff_of_false nofun nofun

/-- A table without failures left is one that as many reads were made of as it has counted. -/
theorem TableState.eq_after_reads {state : TableState} (spent : ¬ 0 < state.failuresLeft) :
    state = afterReads state.table 0 state.reads.toNat := by
  obtain ⟨table, reads, failuresLeft⟩ := state
  obtain rfl : failuresLeft = 0 := UInt32.le_antisymm (UInt32.not_lt.mp spent) UInt32.zero_le
  simp [afterReads]

/-- A read that is answered finds its table there, without failures left. -/
theorem Handle.exists_table_of_answered {handle : Handle} {now : UInt64} {plane : Plane}
    {instanceId tableId : String} {report : EncryptionReport}
    (answered : (handle.client now (.getEncryption instanceId tableId) plane).1 = .ok report) :
    ∃ state : TableState, plane.table? instanceId tableId = some state ∧
      state = .afterReads state.table 0 state.reads.toNat := by
  obtain ⟨holdings, state, held, found, spent, -, -⟩ :=
    (handle.serves_of_answered now answered).exists_read
  exact ⟨state, Plane.table?_eq_some_iff.mpr ⟨holdings, held, found⟩, state.eq_after_reads spent⟩

namespace Plane

/-- Without failures left every read of a table is answered, so its count goes by the answers. -/
theorem table?_history_of_spent {operations : List Operation} {plane : Plane}
    {instanceId tableId : String} {table : Table} {times : Nat}
    (undeleted : ∀ operation ∈ operations, operation.request ≠ .deleteInstance instanceId)
    (found : plane.table? instanceId tableId = some (.afterReads table 0 times)) :
    (history operations plane).2.table? instanceId tableId = some (.afterReads table 0
      (times + (history operations plane).1.countP (·.answersRead instanceId tableId))) := by
  obtain ⟨after, counted⟩ := table?_history undeleted found
  have all : (history operations plane).1.countP (·.answersRead instanceId tableId) =
      operations.countP (·.reads instanceId tableId) := by
    simp only [UInt32.toNat_zero, Nat.sub_zero] at counted
    omega
  rw [all]
  exact after

/-- What an answer says about a keyed cluster of a coherent plane, as long as its number fits the
counter. -/
theorem Coherent.reports_ok_iff_of_answered {plane : Plane} (coherent : plane.Coherent)
    {instanceId tableId clusterId key : String} {table : Table} {times : Nat} {cluster : Cluster}
    (counted : plane.table? instanceId tableId = some (.afterReads table 0 times))
    (found : plane.cluster? instanceId clusterId = some cluster) (keyed : cluster.key = some key)
    {handle : Handle} {now : UInt64} {report : EncryptionReport}
    (answered : (handle.client now (.getEncryption instanceId tableId) plane).1 = .ok report)
    (fits : times + 1 < UInt32.size) :
    ReportsOk report clusterId ↔ handle.convergenceReads.toNat < times + 1 := by
  obtain ⟨_, alsoAnswered, shown⟩ :=
    coherent.read_answered handle now (Nat.zero_le times) counted
  obtain rfl := Except.ok.inj (answered.symm.trans alsoAnswered)
  rw [(shown fits).reports_ok_iff found keyed, decide_eq_true_iff]
  rfl

/-- A converged key goes on showing as converged, to those who ask for no more than it took. In any
history that begins with an empty plane, let a read of a table report a good status for a keyed
cluster, and let its instance not be deleted after that. Every later read of the table is then
answered too, through whichever handle and whatever happens in between. As long as its number fits
the counter, it reports a good status for the cluster again exactly when that number is greater than
what its handle asks for, and in any case if its handle asks for no more pending answers than the
first one did. -/
theorem converged_again_iff (earlier between : List Operation) (first second : Handle)
    (now later : UInt64) {instanceId tableId clusterId key : String} {cluster : Cluster}
    {report : EncryptionReport}
    (found : (history earlier .empty).2.cluster? instanceId clusterId = some cluster)
    (keyed : cluster.key = some key)
    (answered : (first.client now (.getEncryption instanceId tableId)
      (history earlier .empty).2).1 = .ok report)
    (good : ReportsOk report clusterId)
    (undeleted : ∀ operation ∈ between, operation.request ≠ .deleteInstance instanceId) :
    let plane := (history earlier .empty).2
    let read : Operation := ⟨first, now, .getEncryption instanceId tableId⟩
    let past := history between (read.perform plane).2
    ∃ (state : TableState) (again : EncryptionReport),
      plane.table? instanceId tableId = some state ∧
      (second.client later (.getEncryption instanceId tableId) past.2).1 = .ok again ∧
      let number := state.reads.toNat + 1 + past.1.countP (·.answersRead instanceId tableId) + 1
      number < UInt32.size →
        (ReportsOk again clusterId ↔ second.convergenceReads.toNat < number) ∧
        (second.convergenceReads ≤ first.convergenceReads → ReportsOk again clusterId) := by
  intro plane read past
  have coherent : plane.Coherent := coherent_empty.history earlier
  obtain ⟨state, present, spent⟩ := first.exists_table_of_answered answered
  have before : plane.table? instanceId tableId =
      some (.afterReads state.table 0 state.reads.toNat) := spent ▸ present
  obtain ⟨moved, -⟩ := Operation.perform_read (decide_eq_true rfl : read.reads _ _ = true) before
  have after := table?_history_of_spent undeleted moved
  have stillCoherent : past.2.Coherent := (read.perform_coherent coherent).history between
  have alive : read.request ≠ .deleteInstance instanceId := Request.noConfusion
  have stillFound : past.2.cluster? instanceId clusterId = some cluster :=
    cluster?_history undeleted (Operation.cluster?_perform alive found)
  obtain ⟨again, answeredAgain, -⟩ :=
    stillCoherent.read_answered second later (Nat.zero_le _) after
  refine ⟨state, again, present, answeredAgain, ?_⟩
  intro number fits
  have goodAgain : ReportsOk again clusterId ↔ second.convergenceReads.toNat < number :=
    stillCoherent.reports_ok_iff_of_answered after stillFound keyed answeredAgain fits
  have reached : first.convergenceReads.toNat < state.reads.toNat + 1 :=
    (coherent.reports_ok_iff_of_answered before found keyed answered (by omega)).mp good
  refine ⟨goodAgain, ?_⟩
  intro fewer
  have fewer : second.convergenceReads.toNat ≤ first.convergenceReads.toNat :=
    UInt32.le_iff_toNat_le.mp fewer
  exact goodAgain.mpr (by omega)

/-- The third answer of a table shows a key converged to a handle that asks for two pending ones. So
does the sixth, to another handle that asks for two. In between a more patient handle still sees the
key pending, a cluster is added, and the deletion of another instance is refused. -/
theorem sixth_answer_is_good_again :
    let key := "projects/p/locations/us-central1/keyRings/r/cryptoKeys/k"
    let first : Handle := ⟨"p", 2, 1⟩
    let patient : Handle := ⟨"p", 9, 0⟩
    let second : Handle := ⟨"p", 2, 7⟩
    let earlier : List Operation :=
      [⟨first, 7, .createInstance "i" [⟨"c1", "us-central1-b", 1, .ssd, some key⟩]⟩,
        ⟨first, 8, .createTable "i" "t" ["cf"]⟩, ⟨first, 9, .getEncryption "i" "t"⟩,
        ⟨first, 10, .getEncryption "i" "t"⟩, ⟨patient, 11, .getEncryption "i" "t"⟩]
    let between : List Operation :=
      [⟨patient, 13, .getEncryption "i" "t"⟩, ⟨patient, 14, .deleteInstance "j"⟩,
        ⟨second, 15, .createCluster "i" ⟨"c2", "us-central1-c", 1, .hdd, some key⟩⟩,
        ⟨patient, 16, .getEncryption "i" "t"⟩]
    let plane := (history earlier .empty).2
    let read : Operation := ⟨first, 12, .getEncryption "i" "t"⟩
    let past := history between (read.perform plane).2
    ∃ (cluster : Cluster) (report again : EncryptionReport),
      plane.cluster? "i" "c1" = some cluster ∧ cluster.key = some key ∧
      (first.client 12 (.getEncryption "i" "t") plane).1 = .ok report ∧ ReportsOk report "c1" ∧
      (∀ operation ∈ between, operation.request ≠ .deleteInstance "i") ∧
      (second.client 17 (.getEncryption "i" "t") past.2).1 = .ok again ∧ ReportsOk again "c1" := by
  intro key first patient second earlier between plane read past
  obtain ⟨cluster, found, keyed⟩ : ∃ cluster : Cluster, plane.cluster? "i" "c1" = some cluster ∧
      cluster.key = some key := by
    simp only [plane, earlier, first, patient, key]
    exact ⟨_, rfl, rfl⟩
  obtain ⟨report, answered, entry⟩ : ∃ report,
      (first.client 12 (.getEncryption "i" "t") plane).1 = .ok report ∧
        report["c1"]? = some [.converged (key ++ "/cryptoKeyVersions/1")] := by
    simp only [plane, earlier, first, patient, key]
    exact ⟨_, rfl, rfl⟩
  have good : ReportsOk report "c1" := (reports_ok_iff_of_entry entry).mpr rfl
  have undeleted : ∀ operation ∈ between, operation.request ≠ .deleteInstance "i" := by
    simp [between]
  obtain ⟨state, again, present, answeredAgain, goodAgain⟩ :=
    converged_again_iff earlier between first second 12 17 found keyed answered good undeleted
  have counted : plane.table? "i" "t" = some ⟨⟨"t", "i", ["cf"], 8⟩, 2, 0⟩ := by
    simp only [plane, earlier, first, patient, key]
    rfl
  obtain rfl := Option.some.inj (counted.symm.trans present)
  have answers : past.1.countP (·.answersRead "i" "t") = 2 := by
    simp only [past, between, read, plane, earlier, first, patient, second, key]
    rfl
  have fits : (2 : UInt32).toNat + 1 + past.1.countP (·.answersRead "i" "t") + 1 < UInt32.size := by
    rw [answers]
    decide
  exact ⟨cluster, report, again, found, keyed, answered, good, undeleted, answeredAgain,
    (goodAgain fits).2 (by decide)⟩

/-- Without a bound on what the second handle asks for this fails. A handle that asks for no pending
answers sees the key converged at once. The read after that is made through a handle that asks for
two of them, and shows the key pending. -/
theorem patient_handle_sees_pending_again :
    let key := "projects/p/locations/us-central1/keyRings/r/cryptoKeys/k"
    let eager : Handle := ⟨"p", 0, 0⟩
    let patient : Handle := ⟨"p", 2, 0⟩
    let earlier : List Operation :=
      [⟨eager, 7, .createInstance "i" [⟨"c1", "us-central1-b", 1, .ssd, some key⟩]⟩,
        ⟨eager, 8, .createTable "i" "t" ["cf"]⟩]
    let plane := (history earlier .empty).2
    let read : Operation := ⟨eager, 9, .getEncryption "i" "t"⟩
    ∃ (cluster : Cluster) (report again : EncryptionReport),
      plane.cluster? "i" "c1" = some cluster ∧ cluster.key = some key ∧
      (eager.client 9 (.getEncryption "i" "t") plane).1 = .ok report ∧ ReportsOk report "c1" ∧
      (patient.client 10 (.getEncryption "i" "t") (read.perform plane).2).1 = .ok again ∧
      ¬ ReportsOk again "c1" := by
  intro key eager patient earlier plane read
  obtain ⟨cluster, found, keyed⟩ : ∃ cluster : Cluster, plane.cluster? "i" "c1" = some cluster ∧
      cluster.key = some key := by
    simp only [plane, earlier, eager, key]
    exact ⟨_, rfl, rfl⟩
  obtain ⟨report, answered, entry⟩ : ∃ report,
      (eager.client 9 (.getEncryption "i" "t") plane).1 = .ok report ∧
        report["c1"]? = some [.converged (key ++ "/cryptoKeyVersions/1")] := by
    simp only [plane, earlier, eager, key]
    exact ⟨_, rfl, rfl⟩
  obtain ⟨again, answeredAgain, pending⟩ : ∃ again,
      (patient.client 10 (.getEncryption "i" "t") (read.perform plane).2).1 = .ok again ∧
        again["c1"]? = some [.pending] := by
    simp only [plane, earlier, read, eager, patient, key]
    exact ⟨_, rfl, rfl⟩
  refine ⟨cluster, report, again, found, keyed, answered, (reports_ok_iff_of_entry entry).mpr rfl,
    answeredAgain, ?_⟩
  rw [reports_ok_iff_of_entry pending]
  exact nofun

end Plane

end CustomerKeys
