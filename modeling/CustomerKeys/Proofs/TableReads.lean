import CustomerKeys.Proofs.Confinement
import CustomerKeys.Proofs.KeyNames
import CustomerKeys.Proofs.Polling

/-!
# Reading a table over and over

A table's two counters say how its reads go: as many reads as it has failures are refused, those
after them are answered, and an answer shows a converged key once more reads were answered than the
handle asks for. `TableState.afterReads` gives both counters in closed form, and each read steps
from one of its values to the next. For a wait this means that the first decisive reply comes after
exactly as many reads as there are failures and unconverged answers together.

The answered reads are taken to be fewer than the counter can hold. Past that bound it starts again
at zero.
-/

namespace CustomerKeys

namespace TableState

/-- A table after one more read: a failure is used up, or else the answer is counted. -/
def afterRead (state : TableState) : TableState :=
  if 0 < state.failuresLeft then { state with failuresLeft := state.failuresLeft - 1 }
  else { state with reads := state.reads + 1 }

/-- A table after so many reads: the first of them were refused and used up its failures, the others
were answered and counted. -/
def afterReads (table : Table) (failures : UInt32) (times : Nat) : TableState :=
  ⟨table, .ofNat (times - failures.toNat), .ofNat (failures.toNat - times)⟩

/-- A new table has all its failures left and has answered nothing. -/
theorem after_reads_zero (table : Table) (failures : UInt32) :
    afterReads table failures 0 = ⟨table, 0, failures⟩ := by
  simp [afterReads]

variable (table : Table) (failures : UInt32) {times : Nat}

/-- Failures are left exactly as long as fewer reads were made than there were failures. -/
theorem failures_left_pos_iff :
    0 < (afterReads table failures times).failuresLeft ↔ times < failures.toNat := by
  have bounded := failures.toNat_lt
  have small : failures.toNat - times < UInt32.size := by
    simp only [UInt32.size]
    omega
  rw [afterReads, UInt32.lt_ofNat_iff small, UInt32.toNat_zero]
  omega

/-- One more read is one step further in closed form. -/
theorem after_reads_succ (times : Nat) :
    afterReads table failures (times + 1) = (afterReads table failures times).afterRead := by
  unfold afterRead
  split
  · rename_i positive
    have left := (failures_left_pos_iff table failures).mp positive
    have none : times + 1 - failures.toNat = times - failures.toNat := by omega
    have fewer : failures.toNat - (times + 1) = failures.toNat - times - 1 := by omega
    have step : UInt32.ofNat (failures.toNat - times - 1) =
        UInt32.ofNat (failures.toNat - times) - 1 := UInt32.ofNat_sub (by omega)
    rw [afterReads, none, fewer, step]
    rfl
  · rename_i spent
    have used : ¬ times < failures.toNat :=
      fun left => spent ((failures_left_pos_iff table failures).mpr left)
    have none : failures.toNat - (times + 1) = failures.toNat - times := by omega
    have more : times + 1 - failures.toNat = times - failures.toNat + 1 := by omega
    have step : UInt32.ofNat (times - failures.toNat + 1) =
        UInt32.ofNat (times - failures.toNat) + 1 := UInt32.ofNat_add _ 1
    rw [afterReads, none, more, step]
    rfl

/-- Once the failures are used up, and as long as the counter does not wrap, one more answer brings
it past a bound exactly when there were as many answers as the bound. -/
theorem lt_reads_add_one_iff (bound : UInt32) (used : failures.toNat ≤ times)
    (bounded : times - failures.toNat + 1 < UInt32.size) :
    bound < (afterReads table failures times).reads + 1 ↔ failures.toNat + bound.toNat ≤ times := by
  have counted : (afterReads table failures times).reads + 1 =
      UInt32.ofNat (times - failures.toNat + 1) := (UInt32.ofNat_add _ 1).symm
  rw [counted, UInt32.lt_ofNat_iff bounded]
  omega

end TableState

namespace Holdings

/-- Holdings in which a table has a given state. -/
def withTable (holdings : Holdings) (tableId : String) (state : TableState) : Holdings :=
  { holdings with tables := holdings.tables.insert tableId state }

/-- A table that was given a state is found in that state. -/
@[simp] theorem lookup_with_table (holdings : Holdings) (tableId : String) (state : TableState) :
    (holdings.withTable tableId state).tables[tableId]? = some state := by
  simp [withTable]

/-- Only the last state given to a table counts. -/
@[simp] theorem with_table_with_table (holdings : Holdings) (tableId : String)
    (first second : TableState) :
    (holdings.withTable tableId first).withTable tableId second =
      holdings.withTable tableId second := by
  simp only [withTable]
  congr 1
  apply Std.ExtTreeMap.ext_getElem?
  intro other
  simp only [Std.ExtTreeMap.getElem?_insert]
  split <;> rfl

end Holdings

namespace Handle

variable (handle : Handle) (now : UInt64) (instanceId tableId : String) (holdings : Holdings)

/-- A read of a table is refused while failures are left, and answered from then on. Either way the
read is all that happens to the instance. -/
theorem single_get_encryption (state : TableState) :
    handle.single now (.getEncryption instanceId tableId)
        (some (holdings.withTable tableId state)) =
      (if 0 < state.failuresLeft then .error (Refusal.readFailure state.table.id).toError
        else .ok (holdings.report (handle.convergenceReads < state.reads + 1)),
        some (holdings.withTable tableId state.afterRead)) := by
  unfold TableState.afterRead
  simp only [single, serve, Holdings.lookup_with_table]
  split
  · exact Prod.ext rfl (congrArg some (Holdings.with_table_with_table ..))
  · exact Prod.ext rfl (congrArg some (Holdings.with_table_with_table ..))

variable (table : Table) (failures : UInt32)

/-- Reading a table again and again only moves its counters. -/
theorem after_get_encryption (times : Nat) :
    (handle.single now).after (.getEncryption instanceId tableId) times
        (some (holdings.withTable tableId ⟨table, 0, failures⟩)) =
      some (holdings.withTable tableId (.afterReads table failures times)) := by
  induction times with
  | zero => rw [Client.after_zero, TableState.after_reads_zero]
  | succ times inductionHypothesis =>
    rw [Client.after_succ_last, inductionHypothesis, single_get_encryption,
      TableState.after_reads_succ]

/-- While failures are left, a read is refused. -/
theorem single_get_encryption_of_lt {times : Nat} (left : times < failures.toNat) :
    (handle.single now (.getEncryption instanceId tableId)
      (some (holdings.withTable tableId (.afterReads table failures times)))).1 =
        .error (Refusal.readFailure table.id).toError := by
  rw [single_get_encryption, if_pos ((TableState.failures_left_pos_iff table failures).mpr left)]
  rfl

/-- After the failures a read is answered. The keys show as converged from the read on that has as
many answered ones before it as the handle asks for. -/
theorem single_get_encryption_of_le {times : Nat} (used : failures.toNat ≤ times)
    (bounded : times + 1 < UInt32.size) :
    (handle.single now (.getEncryption instanceId tableId)
      (some (holdings.withTable tableId (.afterReads table failures times)))).1 =
        .ok (holdings.report (failures.toNat + handle.convergenceReads.toNat ≤ times)) := by
  have spent : ¬ 0 < (TableState.afterReads table failures times).failuresLeft :=
    fun positive =>
      Nat.not_lt.mpr used ((TableState.failures_left_pos_iff table failures).mp positive)
  have threshold :=
    TableState.lt_reads_add_one_iff table failures handle.convergenceReads used (by omega)
  rw [single_get_encryption, if_neg spent]
  simp only [threshold]

end Handle

/-- Entries by name are put together again from their list. -/
theorem of_list_to_list {α : Type} (entries : ByName α) : .ofList entries.toList = entries := by
  apply Std.ExtTreeMap.ext_getElem?
  intro name
  cases found : entries[name]? with
  | some value =>
    exact Std.ExtTreeMap.getElem?_ofList_of_mem Std.ReflCmp.compare_self
      Std.ExtTreeMap.distinct_keys_toList
      (Std.ExtTreeMap.mem_toList_iff_getElem?_eq_some.mpr found)
  | none =>
    apply Std.ExtTreeMap.getElem?_ofList_of_contains_eq_false
    rw [Std.ExtTreeMap.map_fst_toList_eq_keys, Std.ExtTreeMap.contains_keys,
      Std.ExtTreeMap.contains_eq_isSome_getElem?, found]
    rfl

namespace Holdings

/-- The clusters are filed under the ids that their records carry. A report goes by the records and
a look-up by the place, so only then do the two speak of the same clusters. -/
def Filed (holdings : Holdings) : Prop :=
  ∀ (clusterId : String) (cluster : Cluster),
    holdings.clusters[clusterId]? = some cluster → cluster.id = clusterId

variable {holdings : Holdings}

/-- A report has one item for each place at which a cluster is filed. -/
theorem Filed.report_eq_map (filed : holdings.Filed) (converged : Bool) :
    holdings.report converged =
      holdings.clusters.map fun _ cluster => [cluster.tableEncryption converged] := by
  have listed : (holdings.clusters.toList.map fun entry =>
        (entry.2.id, [entry.2.tableEncryption converged])) =
      (holdings.clusters.map fun _ cluster => [cluster.tableEncryption converged]).toList := by
    rw [Std.ExtTreeMap.toList_map]
    apply List.map_congr_left
    rintro ⟨clusterId, cluster⟩ kept
    have found := Std.ExtTreeMap.mem_toList_iff_getElem?_eq_some.mp kept
    exact Prod.ext (filed clusterId cluster found) rfl
  exact (congrArg (Std.ExtTreeMap.ofList ·) listed).trans (of_list_to_list _)

/-- A cluster's part of a report. -/
theorem Filed.lookup_report (filed : holdings.Filed) {clusterId : String} {cluster : Cluster}
    (found : holdings.clusters[clusterId]? = some cluster) (converged : Bool) :
    (holdings.report converged)[clusterId]? = some [cluster.tableEncryption converged] := by
  rw [filed.report_eq_map, Std.ExtTreeMap.getElem?_map, found]
  rfl

end Holdings

namespace Watch

/-- The entry of a cluster with a readable key ends a wait exactly when it shows the key converged.
-/
theorem final_table_encryption_iff {cluster : Cluster} {key : String} {name : KeyName}
    (keyed : cluster.key = some key) (read : KeyName.parse key = .ok name) {converged : Bool} :
    Final [cluster.tableEncryption converged] ↔ converged = true := by
  rw [Cluster.table_encryption_of_parse keyed read]
  cases converged with
  | false => exact iff_of_false not_final_pending Bool.false_ne_true
  | true => simp [Final, Encryption.converged, Status.success]

variable (watch : Watch) (handle : Handle) (now : UInt64) {holdings : Holdings} {cluster : Cluster}
  {key : String} {name : KeyName} {schedule : Schedule} (table : Table) (failures : UInt32)
  (filed : holdings.Filed) (found : holdings.clusters[watch.clusterId]? = some cluster)

include filed found

/-- Once the failures are used up, a reply shows the cluster's one entry. -/
theorem shows_of_le {times : Nat} (used : failures.toNat ≤ times)
    (bounded : times + 1 < UInt32.size) :
    watch.Shows ((handle.single now).reply watch.request times
        (some (holdings.withTable watch.tableId ⟨table, 0, failures⟩)))
      [cluster.tableEncryption (failures.toNat + handle.convergenceReads.toNat ≤ times)] := by
  rw [Client.reply, handle.after_get_encryption,
    handle.single_get_encryption_of_le _ _ _ _ _ _ used bounded]
  exact ⟨_, rfl, filed.lookup_report found _⟩

variable (keyed : cluster.key = some key) (read : KeyName.parse key = .ok name)

include keyed read

/-- What a table of the plane replies after so many reads is decisive exactly when the failures and
the unconverged answers are among those reads. -/
theorem decisive_iff {times : Nat} (bounded : times + 1 < UInt32.size) :
    watch.Decisive ((handle.single now).reply watch.request times
        (some (holdings.withTable watch.tableId ⟨table, 0, failures⟩))) ↔
      failures.toNat + handle.convergenceReads.toNat ≤ times := by
  by_cases left : times < failures.toNat
  · rw [Client.reply, handle.after_get_encryption,
      handle.single_get_encryption_of_lt _ _ _ _ _ _ left]
    exact iff_of_false (watch.not_decisive_error _) (by omega)
  · have shown :=
      watch.shows_of_le handle now table failures filed found (Nat.not_lt.mp left) bounded
    exact shown.decisive_iff.trans
      ((final_table_encryption_iff keyed read).trans decide_eq_true_iff)

variable (fits : schedule.Fits) (few : schedule.attempts < UInt32.size)

include fits few

/-- A wait on the plane that the schedule is long enough for: it takes one read more than there are
failures and unconverged answers. -/
theorem run_script_of_lt
    (enough : failures.toNat + handle.convergenceReads.toNat < schedule.attempts) :
    ∃ waited events, (watch.script schedule).run (handle.single now)
        (some (holdings.withTable watch.tableId ⟨table, 0, failures⟩)) =
      ⟨.ok (.ok ⟨failures.toNat + handle.convergenceReads.toNat + 1, waited⟩),
        some (holdings.withTable watch.tableId (.afterReads table failures
          (failures.toNat + handle.convergenceReads.toNat + 1))), events⟩ := by
  have undecided : ∀ place < failures.toNat + handle.convergenceReads.toNat,
      ¬ watch.Decisive ((handle.single now).reply watch.request place
        (some (holdings.withTable watch.tableId ⟨table, 0, failures⟩))) := by
    intro place early decisive
    have reached := (watch.decisive_iff handle now table failures filed found keyed read
      (by omega)).mp decisive
    omega
  have shown := watch.shows_of_le handle now table failures filed found (Nat.le_add_right _ _)
    (Nat.lt_of_le_of_lt enough few)
  obtain ⟨waited, -, run⟩ := watch.run_script_decisive (handle.single now) fits enough undecided
    shown ((final_table_encryption_iff keyed read).mpr (decide_eq_true (Nat.le_refl _)))
  rw [handle.after_get_encryption] at run
  exact ⟨waited, _, run⟩

/-- A wait on the plane that the schedule is too short for. -/
theorem run_script_of_le
    (short : schedule.attempts ≤ failures.toNat + handle.convergenceReads.toNat) :
    ((watch.script schedule).run (handle.single now)
        (some (holdings.withTable watch.tableId ⟨table, 0, failures⟩))).outcome =
      .ok (.error (.timeout watch.tableId watch.clusterId schedule.attempts)) := by
  rw [watch.run_script_timeout (handle.single now) fits]
  intro place early decisive
  have reached := (watch.decisive_iff handle now table failures filed found keyed read
    (by omega)).mp decisive
  omega

end Watch

end CustomerKeys
