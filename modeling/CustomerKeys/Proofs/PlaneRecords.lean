import CustomerKeys.Proofs.PlaneCoherence

/-!
# What calls leave of the records of a plane

Clusters, tables and backups are looked up under the ids of their instance and their own. A call
creates a record only where there is none, so it leaves every record that is there as it is, with
three exceptions: a read moves the counters of its table, the deletion of a backup removes that
backup, and the deletion of an instance removes all that the instance holds. `Holdings.Kept` says
this of one call, whether it is answered or refused. What every operation of a history keeps, the
whole history keeps.

How a read moves the counters is not part of this.
-/

namespace CustomerKeys

namespace Plane

/-- A cluster of an instance, if the plane has it. -/
def cluster? (plane : Plane) (instanceId clusterId : String) : Option Cluster :=
  plane[instanceId]?.bind fun holdings => holdings.clusters[clusterId]?

/-- A table of an instance with its counters, if the plane has it. -/
def table? (plane : Plane) (instanceId tableId : String) : Option TableState :=
  plane[instanceId]?.bind fun holdings => holdings.tables[tableId]?

variable {plane : Plane} {instanceId clusterId tableId backupId : String}

/-- The plane has a cluster exactly when its instance is there and holds the cluster. -/
theorem cluster?_eq_some_iff {cluster : Cluster} :
    plane.cluster? instanceId clusterId = some cluster ↔
      ∃ holdings, plane[instanceId]? = some holdings ∧
        holdings.clusters[clusterId]? = some cluster :=
  Option.bind_eq_some_iff

/-- The plane has a table in some state exactly when its instance is there and holds the table in
that state. -/
theorem table?_eq_some_iff {state : TableState} :
    plane.table? instanceId tableId = some state ↔
      ∃ holdings, plane[instanceId]? = some holdings ∧ holdings.tables[tableId]? = some state :=
  Option.bind_eq_some_iff

end Plane

/-- An entry under a free place leaves the entries that a map has. -/
theorem lookup_insert_of_free {κ β : Type} {cmp : κ → κ → Ordering} [Std.TransCmp cmp]
    {map : Std.ExtTreeMap κ β cmp} {place other : κ} {value entry : β}
    (free : map.contains place = false) (found : map[other]? = some entry) :
    (map.insert place value)[other]? = some entry := by
  rw [Std.ExtTreeMap.getElem?_insert]
  split
  · rename_i same
    have taken : map.contains place = true := by
      rw [Std.ExtTreeMap.contains_congr same, Std.ExtTreeMap.contains_eq_isSome_getElem?, found]
      rfl
    exact absurd (free.symm.trans taken) nofun
  · exact found

/-- What a call leaves of the holdings of an instance: every cluster, every table that it does not
read and every backup that it does not delete. -/
structure Holdings.Kept (request : Request) (instanceId : String) (before after : Holdings) :
    Prop where
  clusters : ∀ (clusterId : String) (cluster : Cluster),
    before.clusters[clusterId]? = some cluster → after.clusters[clusterId]? = some cluster
  tables : ∀ (tableId : String) (state : TableState),
    request ≠ .getEncryption instanceId tableId →
      before.tables[tableId]? = some state → after.tables[tableId]? = some state
  backups : ∀ (clusterId backupId : String) (backup : Backup),
    request ≠ .deleteBackup instanceId clusterId backupId →
      before.backups[(clusterId, backupId)]? = some backup →
        after.backups[(clusterId, backupId)]? = some backup

namespace Holdings

/-- Holdings that do not change keep everything. -/
theorem Kept.refl (request : Request) (instanceId : String) (holdings : Holdings) :
    Kept request instanceId holdings holdings where
  clusters := fun _ _ found => found
  tables := fun _ _ _ found => found
  backups := fun _ _ _ _ found => found

variable (request : Request) (instanceId : String) {holdings : Holdings}

/-- A further cluster under a free id keeps everything. -/
theorem kept_with_cluster {cluster : Cluster}
    (free : holdings.clusters.contains cluster.id = false) :
    Kept request instanceId holdings (holdings.withCluster cluster) where
  clusters := fun _ _ found => lookup_insert_of_free free found
  tables := fun _ _ _ found => found
  backups := fun _ _ _ _ found => found

/-- A further table under a free id keeps everything. -/
theorem kept_with_table {tableId : String} (free : holdings.tables.contains tableId = false)
    (state : TableState) :
    Kept request instanceId holdings (holdings.withTable tableId state) where
  clusters := fun _ _ found => found
  tables := fun _ _ _ found => lookup_insert_of_free free found
  backups := fun _ _ _ _ found => found

/-- A read, whatever it makes of the counters of its table. -/
theorem kept_read (tableId : String) (state : TableState) :
    Kept (.getEncryption instanceId tableId) instanceId holdings
      (holdings.withTable tableId state) where
  clusters := fun _ _ found => found
  tables := by
    intro other kept unread found
    have different : tableId ≠ other := fun same => unread (same ▸ rfl)
    simpa [withTable, Std.ExtTreeMap.getElem?_insert, different] using found
  backups := fun _ _ _ _ found => found

/-- A further backup under a free place keeps everything. -/
theorem kept_with_backup {backup : Backup}
    (free : holdings.backups.contains (backup.clusterId, backup.id) = false) :
    Kept request instanceId holdings (holdings.withBackup backup) where
  clusters := fun _ _ found => found
  tables := fun _ _ _ found => found
  backups := fun _ _ _ _ found => lookup_insert_of_free free found

/-- One backup fewer, by a call that deletes it, keeps everything else. -/
theorem kept_without_backup (clusterId backupId : String) :
    Kept (.deleteBackup instanceId clusterId backupId) instanceId holdings
      (holdings.withoutBackup clusterId backupId) where
  clusters := fun _ _ found => found
  tables := fun _ _ _ found => found
  backups := by
    intro otherCluster otherBackup kept spared found
    have different : (clusterId, backupId) ≠ (otherCluster, otherBackup) := by
      rintro ⟨⟩
      exact spared rfl
    rw [withoutBackup, Std.ExtTreeMap.getElem?_erase, if_neg ?_]
    · exact found
    · exact fun same => different (Std.LawfulEqCmp.eq_of_compare same)

end Holdings

/-- A call that does not delete its instance keeps what there is, apart from what it is meant to
change. -/
theorem Handle.Serves.kept {handle : Handle} {now : UInt64} {request : Request} {before : Holdings}
    {result : Except Refusal request.Answer} {after : Option Holdings}
    (served : handle.Serves now request (some before) result after)
    (alive : request ≠ .deleteInstance request.instanceId) :
    ∃ later, after = some later ∧ Holdings.Kept request request.instanceId before later := by
  cases served with
  | refused idle => exact ⟨before, rfl, .refl _ _ _⟩
  | instanceDeleted => exact absurd rfl alive
  | clusterCreated placed free => exact ⟨_, rfl, Holdings.kept_with_cluster _ _ free⟩
  | clusterFound found => exact ⟨before, rfl, .refl _ _ _⟩
  | tableCreated free => exact ⟨_, rfl, Holdings.kept_with_table _ _ free _⟩
  | readRefused found left => exact ⟨_, rfl, Holdings.kept_read _ _ _⟩
  | readAnswered found spent => exact ⟨_, rfl, Holdings.kept_read _ _ _⟩
  | backupCreated later found kept free => exact ⟨_, rfl, Holdings.kept_with_backup _ _ free⟩
  | backupFound found => exact ⟨before, rfl, .refl _ _ _⟩
  | backupDeleted kept => exact ⟨_, rfl, Holdings.kept_without_backup _ _ _⟩

namespace Operation

variable {operation : Operation} {plane : Plane} {instanceId : String}

/-- So does an operation, for every instance that it does not delete. Other instances are kept as
they are. -/
theorem exists_kept (alive : operation.request ≠ .deleteInstance instanceId) {before : Holdings}
    (held : plane[instanceId]? = some before) :
    ∃ after, (operation.perform plane).2[instanceId]? = some after ∧
      Holdings.Kept operation.request instanceId before after := by
  cases addressed : operation.addresses instanceId with
  | false =>
    have same := lookup_perform_of_not_addresses addressed plane
    exact ⟨before, same.trans held, .refl _ _ _⟩
  | true =>
    have own : operation.request.instanceId = instanceId := by simpa [addresses] using addressed
    subst own
    obtain ⟨result, -, served⟩ := operation.exists_served plane
    rw [held] at served
    exact served.kept alive

/-- An operation that does not delete the instance keeps a cluster. -/
theorem cluster?_perform (alive : operation.request ≠ .deleteInstance instanceId)
    {clusterId : String} {cluster : Cluster}
    (found : plane.cluster? instanceId clusterId = some cluster) :
    (operation.perform plane).2.cluster? instanceId clusterId = some cluster := by
  obtain ⟨before, held, inside⟩ := Plane.cluster?_eq_some_iff.mp found
  obtain ⟨after, left, kept⟩ := exists_kept alive held
  exact Plane.cluster?_eq_some_iff.mpr ⟨after, left, kept.clusters clusterId cluster inside⟩

/-- One that does not read a table either keeps its counters. -/
theorem table?_perform (alive : operation.request ≠ .deleteInstance instanceId) {tableId : String}
    (unread : operation.request ≠ .getEncryption instanceId tableId) {state : TableState}
    (found : plane.table? instanceId tableId = some state) :
    (operation.perform plane).2.table? instanceId tableId = some state := by
  obtain ⟨before, held, inside⟩ := Plane.table?_eq_some_iff.mp found
  obtain ⟨after, left, kept⟩ := exists_kept alive held
  exact Plane.table?_eq_some_iff.mpr ⟨after, left, kept.tables tableId state unread inside⟩

end Operation

namespace Plane

/-- What each operation of a history keeps, the history keeps. -/
theorem history_keeps (P : Plane → Prop) {operations : List Operation}
    (step : ∀ operation ∈ operations, ∀ plane : Plane, P plane → P (operation.perform plane).2)
    {plane : Plane} (holds : P plane) : P (history operations plane).2 := by
  induction operations generalizing plane with
  | nil => exact holds
  | cons operation rest inductionHypothesis =>
    have between := step operation List.mem_cons_self plane holds
    exact inductionHypothesis (fun other listed => step other (List.mem_cons_of_mem _ listed))
      between

variable {operations : List Operation} {instanceId : String}
  (undeleted : ∀ operation ∈ operations, operation.request ≠ .deleteInstance instanceId)
  {plane : Plane}

include undeleted

/-- A cluster is there, unchanged, until its instance is deleted. -/
theorem cluster?_history {clusterId : String} {cluster : Cluster}
    (found : plane.cluster? instanceId clusterId = some cluster) :
    (history operations plane).2.cluster? instanceId clusterId = some cluster := by
  refine history_keeps (fun later => later.cluster? instanceId clusterId = some cluster) ?_ found
  intro operation listed between present
  exact Operation.cluster?_perform (undeleted operation listed) present

end Plane

end CustomerKeys
