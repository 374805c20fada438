import CustomerKeys.Proofs.CallTraces
import CustomerKeys.Proofs.Reversion
import CustomerKeys.Proofs.Teardown

/-!
# Waiting again

A wait that has succeeded for a keyed cluster leaves two things behind: its table has no failures
left, and it has counted more answers than the handle of the wait asks for. Both stay as long as the
instance does, and they are all that matters to a later wait through the same handle. So that wait
has what it needs with its first fetch, for whichever cluster it is.

The first wait need not have had the plane to itself. `Script.EndsAmid` says that a script comes to
its end while others use the plane as well, at any moment between its calls. The counter has 32
bits; `countedReads` bounds it by the number of reads that were answered.
-/

namespace CustomerKeys

variable {α : Type}

/-- The answered reads that a table of an instance has counted. A table that is not there has
counted nothing. -/
def countedReads (held : Option Holdings) (tableId : String) : Nat :=
  (held.bind fun holdings => holdings.tables[tableId]?).elim 0 fun state => state.reads.toNat

/-- What a table of a plane has counted can be told from the table alone, without its instance. -/
theorem counted_reads_lookup (plane : Plane) (instanceId tableId : String) :
    countedReads plane[instanceId]? tableId =
      (plane.table? instanceId tableId).elim 0 fun state => state.reads.toNat := rfl

/-- Giving a table another state changes what that table has counted and nothing else. -/
theorem counted_reads_with_table (holdings : Holdings) (tableId other : String)
    (state : TableState) :
    countedReads (some (holdings.withTable tableId state)) other =
      if tableId = other then state.reads.toNat else countedReads (some holdings) other := by
  by_cases same : tableId = other
  · simp [countedReads, Holdings.withTable, same]
  · simp [countedReads, Holdings.withTable, Std.ExtTreeMap.getElem?_insert, same]

/-- A call makes a table count one more read at most, and none unless it is a read of the table that
is answered. -/
theorem Handle.Serves.counted_reads_le {handle : Handle} {now : UInt64} {request : Request}
    {held after : Option Holdings} {result : Except Refusal request.Answer}
    (served : handle.Serves now request held result after) (tableId : String) :
    countedReads after tableId ≤ countedReads held tableId +
      if request = .getEncryption request.instanceId tableId ∧ result.isOk = true then 1
      else 0 := by
  cases served with
  | refused idle => exact Nat.le_add_right _ _
  | instanceCreated several placed => simp [countedReads, Holdings.ofSpecs]
  | instanceDeleted => exact Nat.zero_le _
  | clusterCreated placed free => exact Nat.le_add_right _ _
  | clusterFound found => exact Nat.le_add_right _ _
  | tableCreated free =>
    rw [counted_reads_with_table]
    split
    · exact Nat.zero_le _
    · exact Nat.le_add_right _ _
  | readRefused found left =>
    rw [counted_reads_with_table, TableState.after_read_of_left left]
    split
    · rename_i same
      subst same
      simp [countedReads, found]
    · exact Nat.le_add_right _ _
  | readAnswered found spent =>
    rw [counted_reads_with_table, TableState.after_read_of_spent spent]
    split
    · rename_i same
      subst same
      rw [if_pos ⟨rfl, rfl⟩, UInt32.toNat_add]
      simpa [countedReads, found] using Nat.mod_le _ _
    · exact Nat.le_add_right _ _
  | backupCreated later found kept free => exact Nat.le_add_right _ _
  | backupFound found => exact Nat.le_add_right _ _
  | backupDeleted kept => exact Nat.le_add_right _ _

/-- So does an operation. -/
theorem Operation.counted_reads_perform_le (operation : Operation) (plane : Plane)
    (instanceId tableId : String) :
    countedReads (operation.perform plane).2[instanceId]? tableId ≤
      countedReads plane[instanceId]? tableId +
        if (operation.perform plane).1.answersRead instanceId tableId then 1 else 0 := by
  cases addressed : operation.addresses instanceId with
  | false =>
    rw [lookup_perform_of_not_addresses addressed]
    exact Nat.le_add_right _ _
  | true =>
    have own : operation.request.instanceId = instanceId := by simpa [addresses] using addressed
    subst own
    obtain ⟨result, answered, served⟩ := operation.exists_served plane
    have reading : (operation.perform plane).1.answersRead operation.request.instanceId tableId =
        true ↔ operation.request = .getEncryption operation.request.instanceId tableId ∧
          result.isOk = true := by
      rw [Exchange.answersRead, Bool.and_eq_true, answered]
      exact and_congr_left fun _ => decide_eq_true_iff
    simp only [reading]
    exact served.counted_reads_le tableId

namespace Plane

/-- Over a whole history a table counts no more reads than were answered. -/
theorem counted_reads_history_le (operations : List Operation) (plane : Plane)
    (instanceId tableId : String) :
    countedReads (history operations plane).2[instanceId]? tableId ≤
      countedReads plane[instanceId]? tableId +
        (history operations plane).1.countP (·.answersRead instanceId tableId) := by
  induction operations generalizing plane with
  | nil => exact Nat.le_add_right _ _
  | cons operation rest inductionHypothesis =>
    have first := operation.counted_reads_perform_le plane instanceId tableId
    have others := inductionHypothesis (operation.perform plane).2
    simp only [history, List.countP_cons]
    omega

end Plane

/-- A script comes to its end with a value, through a handle on a plane that others use as well. The
operations are everything that the plane carries out meanwhile, in order: before each call of the
script what others ask for, and then the call itself. Nothing comes after the last call. -/
inductive Script.EndsAmid (handle : Handle) (value : α) :
    Script α → Plane → List Operation → Prop
  | done (plane : Plane) : EndsAmid handle value (.done value) plane []
  | sleep (duration : Duration) {next : Script α} {plane : Plane} {operations : List Operation}
    (rest : EndsAmid handle value next plane operations) :
    EndsAmid handle value (.sleep duration next) plane operations
  | call (others : List Operation) (now : UInt64) (request : Request)
    {next : request.Reply → Script α} {plane : Plane} {operations : List Operation}
    (rest : EndsAmid handle value
      (next (handle.client now request (Plane.history others plane).2).1)
      (handle.client now request (Plane.history others plane).2).2 operations) :
    EndsAmid handle value (.call request next) plane
      (others ++ ⟨handle, now, request⟩ :: operations)

/-- A script that is left alone on the plane is among these: then all operations are its own. -/
theorem Script.ends_amid_alone (handle : Handle) (now : UInt64) {value : α} {script : Script α}
    {plane : Plane} (ended : (script.run (handle.client now) plane).outcome = .ok value) :
    script.EndsAmid handle value plane
      ((script.run (handle.client now) plane).events.filterMap fun event =>
        event.request?.map fun request => ⟨handle, now, request⟩) := by
  induction script generalizing plane with
  | done other =>
    obtain rfl := Except.ok.inj ended
    exact .done plane
  | abort cause => cases ended
  | sleep duration next inductionHypothesis => exact .sleep duration (inductionHypothesis ended)
  | call request next inductionHypothesis =>
    exact .call [] now request (inductionHypothesis _ ended)

namespace Watch

variable (watch : Watch)

/-- What is observed as `OK` is a report that is good about the cluster. -/
theorem reports_ok_of_observe {reply : Except AdminError EncryptionReport}
    (observed : watch.observe reply = .ok (.status .ok)) :
    ∃ report, reply = .ok report ∧ ReportsOk report watch.clusterId := by
  unfold observe at observed
  split at observed
  · simp at observed
  · rename_i report
    split at observed
    · simp at observed
    · rename_i encryption found
      have good : encryption.status.code = .ok := Observation.status.inj (Except.ok.inj observed)
      exact ⟨report, rfl, encryption, found, decide_eq_true good⟩
    · cases observed

/-- The last thing that happens while a successful wait goes on is a read of its table through its
handle, and that read is good about the cluster. -/
theorem exists_last_read {handle : Handle} {convergence : Convergence} {tracker : Tracker}
    (pending : tracker.phase = .pending) {waited : Duration} {plane : Plane}
    {operations : List Operation}
    (ends : (watch.follow tracker waited).EndsAmid handle (.ok convergence) plane operations) :
    ∃ earlier now report, operations = earlier ++ [⟨handle, now, watch.request⟩] ∧
      (handle.client now watch.request (Plane.history earlier plane).2).1 = .ok report ∧
      ReportsOk report watch.clusterId := by
  induction measured : tracker.remaining using Nat.strongRecOn
    generalizing tracker waited plane operations with
  | ind remaining inductionHypothesis =>
    rw [follow] at ends
    cases ends with
    | call others now _ rest =>
      dsimp only at rest
      split at rest
      · cases rest
      · rename_i observation observed
        split at rest
        · rename_i after finished
          obtain rfl := Tracker.eq_ok_of_finish pending finished
          obtain ⟨report, replied, good⟩ := watch.reports_ok_of_observe observed
          cases rest
          exact ⟨others, now, report, rfl, replied, good⟩
        · cases rest
        · rename_i delay after slept
          have fewer := Tracker.remaining_lt_of_sleep slept
          obtain ⟨-, -, same⟩ := Tracker.step_sleep slept
          cases rest with
          | sleep _ rest =>
            split at rest
            · cases rest
            · rename_i longer added
              obtain ⟨earlier, last, report, rfl, replied, good⟩ :=
                inductionHypothesis _ (measured ▸ fewer) (same ▸ rfl) rest rfl
              refine ⟨others ++ ⟨handle, now, watch.request⟩ :: earlier, last, report, ?_, ?_, good⟩
              · simp
              · rw [Plane.history_append]
                exact replied

end Watch

/-- A cluster is reported as good when its table counts as converged, whether it has a key or not.
-/
theorem Cluster.is_ok_table_encryption (cluster : Cluster) :
    (cluster.tableEncryption true).status.code = .ok := by
  unfold tableEncryption
  split <;> rfl

/-- Where a cluster is known to have a key and a read through a handle has been good about it, the
table has failed for the last time, and has counted more answers than the handle asks for. -/
theorem Plane.Coherent.table?_after_good_read {plane : Plane} (coherent : plane.Coherent)
    {handle : Handle} {now : UInt64} {instanceId tableId clusterId key : String}
    {report : EncryptionReport} {cluster : Cluster}
    (answered : (handle.client now (.getEncryption instanceId tableId) plane).1 = .ok report)
    (good : ReportsOk report clusterId)
    (found : plane.cluster? instanceId clusterId = some cluster) (keyed : cluster.key = some key)
    (fits : countedReads plane[instanceId]? tableId + 1 < UInt32.size) :
    ∃ table, (handle.client now (.getEncryption instanceId tableId) plane).2.table? instanceId
        tableId = some (.afterReads table 0 (countedReads plane[instanceId]? tableId + 1)) ∧
      handle.convergenceReads.toNat < countedReads plane[instanceId]? tableId + 1 := by
  obtain ⟨state, present, spent⟩ := handle.exists_table_of_answered answered
  have counted : countedReads plane[instanceId]? tableId = state.reads.toNat := by
    rw [counted_reads_lookup, present]
    rfl
  have before : plane.table? instanceId tableId =
      some (.afterReads state.table 0 state.reads.toNat) := spent ▸ present
  have read : (⟨handle, now, .getEncryption instanceId tableId⟩ : Operation).reads instanceId
      tableId = true := decide_eq_true rfl
  rw [counted] at fits ⊢
  exact ⟨state.table, (Operation.perform_read read before).1,
    (coherent.reports_ok_iff_of_answered before found keyed answered fits).mp good⟩

/-- A read keeps the clusters of its instance, and adds none. -/
theorem Handle.cluster?_of_read {handle : Handle} {now : UInt64} {plane : Plane}
    {instanceId tableId clusterId : String} {report : EncryptionReport}
    (answered : (handle.client now (.getEncryption instanceId tableId) plane).1 = .ok report) :
    (handle.client now (.getEncryption instanceId tableId) plane).2.cluster? instanceId clusterId =
      plane.cluster? instanceId clusterId := by
  obtain ⟨holdings, state, held, -, -, -, left⟩ :=
    (handle.serves_of_answered now answered).exists_read
  let lookUp (holdings : Holdings) : Option Cluster := holdings.clusters[clusterId]?
  calc
    _ = (some (holdings.withTable tableId state.afterRead)).bind lookUp :=
      congrArg (Option.bind · lookUp) left
    _ = plane.cluster? instanceId clusterId := (congrArg (Option.bind · lookUp) held).symm

/-- A wait on a table that has failed for the last time, and has counted as many answers as the
handle asks for, ends with its first fetch, whichever cluster it is for. -/
theorem Watch.run_script_at_once (watch : Watch) (handle : Handle) (now : UInt64)
    (schedule : Schedule) {plane : Plane} (coherent : plane.Coherent) {table : Table} {times : Nat}
    {cluster : Cluster}
    (counted : plane.table? watch.instanceId watch.tableId = some (.afterReads table 0 times))
    (reached : handle.convergenceReads.toNat ≤ times) (fits : times + 1 < UInt32.size)
    (found : plane.cluster? watch.instanceId watch.clusterId = some cluster) :
    (watch.script schedule).run (handle.client now) plane =
      ⟨.ok (.ok ⟨1, .zero⟩), (handle.client now watch.request plane).2,
        [watch.fetched (handle.client now) plane]⟩ := by
  obtain ⟨holdings, held, inTable⟩ := Plane.table?_eq_some_iff.mp counted
  obtain ⟨_, alsoHeld, inCluster⟩ := Plane.cluster?_eq_some_iff.mp found
  obtain rfl := Option.some.inj (held.symm.trans alsoHeld)
  have spent : ¬ 0 < (TableState.afterReads table 0 times).failuresLeft := by
    rw [TableState.failures_left_pos_iff]
    exact Nat.not_lt_zero times
  have converged : handle.convergenceReads < (TableState.afterReads table 0 times).reads + 1 := by
    rw [TableState.lt_reads_add_one_iff table 0 _ (Nat.zero_le times) fits]
    exact (Nat.zero_add _).symm ▸ reached
  have replied : (handle.client now watch.request plane).1 = .ok (holdings.report true) := by
    rw [handle.client_get_encryption now held inTable, if_neg spent, decide_eq_true converged]
  exact watch.run_follow_decisive (handle.client now) schedule 0 .zero
    ⟨_, replied, (coherent _ _ held).filed.lookup_report inCluster true⟩
    (.inr ⟨_, rfl, cluster.is_ok_table_encryption⟩)

namespace Plane

/-- A read that is answered is an answered read of its table. -/
theorem answers_read_of_answered {plane : Plane} {handle : Handle} {now : UInt64}
    {instanceId tableId : String} {report : EncryptionReport}
    (answered : (handle.client now (.getEncryption instanceId tableId) plane).1 = .ok report) :
    ((⟨handle, now, .getEncryption instanceId tableId⟩ : Operation).perform plane).1.answersRead
      instanceId tableId = true := by
  rw [Exchange.answersRead, Bool.and_eq_true]
  exact ⟨decide_eq_true rfl, congrArg Except.isOk answered⟩

/-- What a successful wait leaves behind. Count the answered reads of a table from any moment at
which it was not there, and let a wait for a keyed cluster succeed amid whatever else happens. Then
the table has failed for the last time, and has counted more answers than the handle of the wait
asks for, and no more than there were. -/
theorem table?_after_wait {start : Plane} (coherent : start.Coherent)
    {instanceId tableId clusterId : String} (absent : start.table? instanceId tableId = none)
    {handle : Handle} {schedule : Schedule} {convergence : Convergence}
    {earlier during : List Operation}
    (ends : (Watch.script ⟨instanceId, tableId, clusterId⟩ schedule).EndsAmid handle
      (.ok convergence) (history earlier start).2 during)
    {cluster : Cluster} {key : String}
    (found : (history during (history earlier start).2).2.cluster? instanceId clusterId =
      some cluster) (keyed : cluster.key = some key)
    (few : (history (earlier ++ during) start).1.countP (·.answersRead instanceId tableId) <
      UInt32.size) :
    ∃ table count, (history during (history earlier start).2).2.table? instanceId tableId =
        some (.afterReads table 0 count) ∧ handle.convergenceReads.toNat < count ∧
      count ≤ (history (earlier ++ during) start).1.countP (·.answersRead instanceId tableId) := by
  obtain ⟨meanwhile, asked, report, rfl, answered, good⟩ := Watch.exists_last_read _ rfl ends
  let read : Operation := ⟨handle, asked, .getEncryption instanceId tableId⟩
  let reading := (history meanwhile (history earlier start).2).2
  have last : (history (meanwhile ++ [read]) (history earlier start).2).2 =
      (read.perform reading).2 :=
    congrArg Prod.snd (history_append meanwhile [read] (history earlier start).2)
  have foundBefore : reading.cluster? instanceId clusterId = some cluster :=
    (Handle.cluster?_of_read answered).symm.trans (last ▸ found)
  have stillCoherent : reading.Coherent := (coherent.history earlier).history meanwhile
  -- The counter knows of no answers but those before the last read, and that read is answered too.
  have counted : countedReads reading[instanceId]? tableId + 1 ≤
      (history (earlier ++ (meanwhile ++ [read])) start).1.countP
        (·.answersRead instanceId tableId) := by
    have first := counted_reads_history_le earlier start instanceId tableId
    have others := counted_reads_history_le meanwhile (history earlier start).2 instanceId tableId
    have once := answers_read_of_answered answered
    rw [counted_reads_lookup start, absent, Option.elim_none] at first
    simp only [history_append, history, List.countP_append, List.countP_singleton, read, once,
      if_true, reading]
    omega
  obtain ⟨table, after, reached⟩ := stillCoherent.table?_after_good_read answered good foundBefore
    keyed (Nat.lt_of_le_of_lt counted few)
  exact ⟨table, _, last ▸ after, reached, counted⟩

/-- Waiting again takes one fetch. In any history that begins with an empty plane, let a wait for a
cluster with a key succeed through a handle, while the plane is used by others as well. Whatever
happens after that, through any handles, as long as the instance is not deleted: another wait on the
same table through the same handle, on any schedule and for any cluster that the instance has then,
with a key or without, succeeds at its first attempt, after one fetch and without a sleep. The
answered reads of the table, counted from any moment at which it was not there, are taken to fit the
32 bits of its counter. -/
theorem second_wait_takes_one_fetch (before earlier during between : List Operation)
    (handle : Handle) (schedule again : Schedule) (now : UInt64)
    (instanceId tableId clusterId otherId : String) {cluster other : Cluster} {key : String}
    {convergence : Convergence} :
    let start := (history before .empty).2
    let waiting := (history earlier start).2
    let converged := (history during waiting).2
    let plane := (history between converged).2
    let answers :=
      (history (earlier ++ during ++ between) start).1.countP (·.answersRead instanceId tableId)
    let watch : Watch := ⟨instanceId, tableId, otherId⟩
    start.table? instanceId tableId = none →
    (Watch.script ⟨instanceId, tableId, clusterId⟩ schedule).EndsAmid handle (.ok convergence)
      waiting during →
    converged.cluster? instanceId clusterId = some cluster → cluster.key = some key →
    (∀ operation ∈ between, operation.request ≠ .deleteInstance instanceId) →
    answers + 1 < UInt32.size →
    plane.cluster? instanceId otherId = some other →
    (watch.script again).run (handle.client now) plane =
      ⟨.ok (.ok ⟨1, .zero⟩), (handle.client now watch.request plane).2,
        [watch.fetched (handle.client now) plane]⟩ := by
  intro start waiting converged plane answers watch absent ends found keyed undeleted few present
  have whole : answers =
      (history (earlier ++ during) start).1.countP (·.answersRead instanceId tableId) +
        (history between converged).1.countP (·.answersRead instanceId tableId) := by
    simp only [answers, history_append, List.countP_append]
    rfl
  have coherent : start.Coherent := coherent_empty.history before
  obtain ⟨table, count, counted, reached, atMost⟩ :=
    table?_after_wait coherent absent ends found keyed (by omega)
  have after : plane.table? instanceId tableId = some (.afterReads table 0 (count +
      (history between converged).1.countP (·.answersRead instanceId tableId))) :=
    table?_history_of_spent undeleted counted
  have stillCoherent : plane.Coherent :=
    ((coherent.history earlier).history during).history between
  exact watch.run_script_at_once handle now again stillCoherent after (by omega) (by omega) present

/-- The first wait takes three fetches: one is refused, one shows the key pending, and the third
shows it converged. After a read through a more patient handle, a deletion that is refused and a new
cluster without a key, a wait for the new cluster takes one. -/
theorem three_fetches_then_one :
    let key := "projects/p/locations/us-central1/keyRings/r/cryptoKeys/k"
    let handle : Handle := ⟨"p", 1, 1⟩
    let patient : Handle := ⟨"p", 9, 0⟩
    let schedule : Schedule := ⟨[.ofSeconds 1, .ofSeconds 2, .ofSeconds 3], by simp⟩
    let again : Schedule := ⟨[.ofSeconds 4], by simp⟩
    let first : Watch := ⟨"i", "t", "c1"⟩
    let second : Watch := ⟨"i", "t", "c2"⟩
    let before : List Operation :=
      [⟨handle, 7, .createInstance "i" [⟨"c1", "us-central1-b", 1, .ssd, some key⟩]⟩]
    let earlier : List Operation := [⟨handle, 8, .createTable "i" "t" ["cf"]⟩]
    let during : List Operation := List.replicate 3 ⟨handle, 9, first.request⟩
    let between : List Operation :=
      [⟨patient, 10, first.request⟩, ⟨patient, 11, .deleteInstance "j"⟩,
        ⟨patient, 12, .createCluster "i" ⟨"c2", "us-east1-c", 1, .hdd, none⟩⟩]
    let start := (history before .empty).2
    let waiting := (history earlier start).2
    let converged := (history during waiting).2
    let plane := (history between converged).2
    ∃ (convergence : Convergence) (cluster other : Cluster),
      start.table? "i" "t" = none ∧
      (first.script schedule).EndsAmid handle (.ok convergence) waiting during ∧
      convergence.attempts = 3 ∧
      converged.cluster? "i" "c1" = some cluster ∧ cluster.key = some key ∧
      (∀ operation ∈ between, operation.request ≠ .deleteInstance "i") ∧
      plane.cluster? "i" "c2" = some other ∧ other.key = none ∧
      (second.script again).run (handle.client 13) plane =
        ⟨.ok (.ok ⟨1, .zero⟩), (handle.client 13 second.request plane).2,
          [second.fetched (handle.client 13) plane]⟩ := by
  intro key handle patient schedule again first second before earlier during between start waiting
    converged plane
  have absent : start.table? "i" "t" = none := by
    simp only [start, before, handle, key]
    rfl
  have refused : (handle.client 9).reply first.request 0 waiting =
      .error (Refusal.readFailure "t").toError := by
    simp only [waiting, earlier, start, before, first, handle, key]
    rfl
  obtain ⟨_, pending, notYet⟩ : ∃ report, (handle.client 9).reply first.request 1 waiting =
      .ok report ∧ report["c1"]? = some [.pending] := by
    simp only [waiting, earlier, start, before, first, handle, key]
    exact ⟨_, rfl, rfl⟩
  obtain ⟨_, good, shown⟩ : ∃ report, (handle.client 9).reply first.request 2 waiting =
      .ok report ∧ report["c1"]? = some [.converged (key ++ "/cryptoKeyVersions/1")] := by
    simp only [waiting, earlier, start, before, first, handle, key]
    exact ⟨_, rfl, rfl⟩
  have undecided : ∀ place < 2, ¬ first.Decisive ((handle.client 9).reply first.request place
      waiting) := by
    rintro (_ | _ | _) early
    · exact refused ▸ first.not_decisive_error _
    · exact mt (Watch.Shows.decisive_iff ⟨_, pending, notYet⟩).mp Watch.not_final_pending
    · omega
  have fits : schedule.Fits := by decide
  obtain ⟨waited, -, run⟩ := first.run_script_decisive (handle.client 9) fits (by decide)
    undecided ⟨_, good, shown⟩ (.inr ⟨_, rfl, rfl⟩)
  have ends : (first.script schedule).EndsAmid handle (.ok ⟨3, waited⟩) waiting during := by
    have alone := Script.ends_amid_alone handle 9 (congrArg Run.outcome run)
    rw [run] at alone
    exact alone
  obtain ⟨cluster, found, keyed⟩ : ∃ cluster : Cluster, converged.cluster? "i" "c1" = some cluster ∧
      cluster.key = some key := by
    simp only [converged, during, waiting, earlier, start, before, first, handle, key]
    exact ⟨_, rfl, rfl⟩
  obtain ⟨other, present, keyless⟩ : ∃ other : Cluster, plane.cluster? "i" "c2" = some other ∧
      other.key = none := by
    simp only [plane, between, converged, during, waiting, earlier, start, before, first, handle,
      patient, key]
    exact ⟨_, rfl, rfl⟩
  have undeleted : ∀ operation ∈ between, operation.request ≠ .deleteInstance "i" := by
    simp [between]
  have answers : (history (earlier ++ during ++ between) start).1.countP (·.answersRead "i" "t") =
      3 := by
    simp only [between, during, earlier, start, before, first, handle, patient, key]
    rfl
  have once := second_wait_takes_one_fetch before earlier during between handle schedule again 13
    "i" "t" "c1" "c2" absent ends found keyed undeleted (answers ▸ by decide) present
  exact ⟨_, cluster, other, absent, ends, rfl, found, keyed, undeleted, present, keyless, once⟩

end Plane

end CustomerKeys
