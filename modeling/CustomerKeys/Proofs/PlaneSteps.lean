import CustomerKeys.Proofs.TableReads

/-!
# What a call can do to an instance

A call is either refused, and then the instance holds what it held, or it does one thing.
`Handle.Serves` lists the possibilities: one for each kind of call that is answered, with everything
that the answer requires, one for refusals, and one for the refusal that changes something, a read
that uses up a failure of its table. Every call is one of these, so a law about what instances hold
is proved once for each of them and never by unfolding how calls are served.

The list does not say which refusal a call gets when it is not answered.
-/

namespace CustomerKeys

/-- A cluster with this key, or without any, may stand in a zone: the key can be read and covers the
zone. -/
def Zone.Accepts (zone : String) (key : Option String) : Prop :=
  ∀ text, key = some text → ∃ name, KeyName.parse text = .ok name ∧ name.covers zone = true

/-- The backup in a cluster that a specification asks for. -/
def Backup.ofSpec (spec : BackupSpec) (cluster : Cluster) : Backup :=
  ⟨spec.backupId, spec.clusterId, spec.tableId, spec.expireTime, cluster.backupEncryption⟩

namespace Holdings

/-- Holdings with a cluster under its id. -/
def withCluster (holdings : Holdings) (cluster : Cluster) : Holdings :=
  { holdings with clusters := holdings.clusters.insert cluster.id cluster }

/-- Holdings with a backup under its ids. -/
def withBackup (holdings : Holdings) (backup : Backup) : Holdings :=
  { holdings with backups := holdings.backups.insert (backup.clusterId, backup.id) backup }

/-- Holdings without the backup under some ids. -/
def withoutBackup (holdings : Holdings) (clusterId backupId : String) : Holdings :=
  { holdings with backups := holdings.backups.erase (clusterId, backupId) }

end Holdings

namespace Handle

/-- How a call is answered, and what its instance holds before and after it. -/
inductive Serves (handle : Handle) (now : UInt64) : (request : Request) → Option Holdings →
    Except Refusal request.Answer → Option Holdings → Prop
  | refused {request : Request} {held : Option Holdings} {refusal : Refusal}
    (idle : ∀ tableId, refusal ≠ .readFailure tableId) :
    Serves handle now request held (.error refusal) held
  | instanceCreated {instanceId : String} {specs : List ClusterSpec} (several : specs ≠ [])
    (placed : ∀ spec ∈ specs, Zone.Accepts spec.zone spec.key) :
    Serves handle now (.createInstance instanceId specs) none
      (.ok ⟨instanceId, specs.map ClusterSpec.id, now⟩) (some (.ofSpecs instanceId specs))
  | instanceDeleted {instanceId : String} {holdings : Holdings} :
    Serves handle now (.deleteInstance instanceId) (some holdings) (.ok ()) none
  | clusterCreated {instanceId : String} {spec : ClusterSpec} {holdings : Holdings}
    (placed : Zone.Accepts spec.zone spec.key)
    (free : holdings.clusters.contains spec.id = false) :
    Serves handle now (.createCluster instanceId spec) (some holdings)
      (.ok (.ofSpec instanceId spec)) (some (holdings.withCluster (.ofSpec instanceId spec)))
  | clusterFound {instanceId clusterId : String} {holdings : Holdings} {cluster : Cluster}
    (found : holdings.clusters[clusterId]? = some cluster) :
    Serves handle now (.getCluster instanceId clusterId) (some holdings) (.ok cluster)
      (some holdings)
  | tableCreated {instanceId tableId : String} {families : List String} {holdings : Holdings}
    (free : holdings.tables.contains tableId = false) :
    Serves handle now (.createTable instanceId tableId families) (some holdings)
      (.ok ⟨tableId, instanceId, families, now⟩)
      (some (holdings.withTable tableId
        ⟨⟨tableId, instanceId, families, now⟩, 0, handle.transientFailures⟩))
  | readRefused {instanceId tableId : String} {holdings : Holdings} {state : TableState}
    (found : holdings.tables[tableId]? = some state) (left : 0 < state.failuresLeft) :
    Serves handle now (.getEncryption instanceId tableId) (some holdings)
      (.error (.readFailure state.table.id)) (some (holdings.withTable tableId state.afterRead))
  | readAnswered {instanceId tableId : String} {holdings : Holdings} {state : TableState}
    (found : holdings.tables[tableId]? = some state) (spent : ¬ 0 < state.failuresLeft) :
    Serves handle now (.getEncryption instanceId tableId) (some holdings)
      (.ok (holdings.report (handle.convergenceReads < state.reads + 1)))
      (some (holdings.withTable tableId state.afterRead))
  | backupCreated {instanceId : String} {spec : BackupSpec} {holdings : Holdings}
    {cluster : Cluster} (later : now < spec.expireTime)
    (found : holdings.clusters[spec.clusterId]? = some cluster)
    (kept : holdings.tables.contains spec.tableId = true)
    (free : holdings.backups.contains (spec.clusterId, spec.backupId) = false) :
    Serves handle now (.createBackup instanceId spec) (some holdings)
      (.ok (.ofSpec spec cluster)) (some (holdings.withBackup (.ofSpec spec cluster)))
  | backupFound {instanceId clusterId backupId : String} {holdings : Holdings} {backup : Backup}
    (found : holdings.backups[(clusterId, backupId)]? = some backup) :
    Serves handle now (.getBackup instanceId clusterId backupId) (some holdings) (.ok backup)
      (some holdings)
  | backupDeleted {instanceId clusterId backupId : String} {holdings : Holdings}
    (kept : holdings.backups.contains (clusterId, backupId) = true) :
    Serves handle now (.deleteBackup instanceId clusterId backupId) (some holdings) (.ok ())
      (some (holdings.withoutBackup clusterId backupId))

section Placement

variable {handle : Handle} {spec : ClusterSpec}

/-- A placement is not refused exactly when the zone accepts the key. -/
theorem placement_refusal_eq_none_iff :
    handle.placementRefusal spec = none ↔ Zone.Accepts spec.zone spec.key := by
  unfold placementRefusal Zone.Accepts
  cases spec.key with
  | none => simp
  | some key => cases readsKey : KeyName.parse key <;> simp [readsKey]

/-- A refused placement has nothing to do with reads. -/
theorem placement_refusal_ne_read_failure {refusal : Refusal}
    (refused : handle.placementRefusal spec = some refusal) (tableId : String) :
    refusal ≠ .readFailure tableId := by
  rintro rfl
  unfold placementRefusal at refused
  split at refused
  · cases refused
  · split at refused
    · cases refused
    · split at refused <;> cases refused

end Placement

variable (handle : Handle) (now : UInt64)

/-- A read of a table uses up a failure of it, or else it is answered. -/
theorem serves_get_encryption (instanceId : String) {tableId : String} {holdings : Holdings}
    {state : TableState} (found : holdings.tables[tableId]? = some state) :
    let request : Request := .getEncryption instanceId tableId
    handle.Serves now request (some holdings) (handle.serve now request (some holdings)).1
      (handle.serve now request (some holdings)).2 := by
  intro request
  by_cases left : 0 < state.failuresLeft
  · have refused : handle.Serves now request (some holdings) _ _ := .readRefused found left
    simp only [TableState.afterRead, left, if_true] at refused
    simp only [request, serve, found, left, if_true]
    exact refused
  · have answered : handle.Serves now request (some holdings) _ _ := .readAnswered found left
    simp only [TableState.afterRead, left, if_false] at answered
    simp only [request, serve, found, left, if_false]
    exact answered

/-- An instance is created under a free id, when each of its clusters may stand where it is put. -/
theorem serves_create_instance (instanceId : String) (specs : List ClusterSpec)
    (held : Option Holdings) :
    let request : Request := .createInstance instanceId specs
    handle.Serves now request held (handle.serve now request held).1
      (handle.serve now request held).2 := by
  simp only [serve]
  split
  · exact .refused (by simp)
  · rename_i several
    split
    · rename_i refusal refused
      obtain ⟨spec, -, refuses⟩ := List.exists_of_findSome?_eq_some refused
      exact .refused (placement_refusal_ne_read_failure refuses)
    · exact .refused (by simp)
    · rename_i accepted
      refine .instanceCreated (by simpa using several) ?_
      intro spec listed
      have unrefused := List.findSome?_eq_none_iff.mp accepted spec listed
      exact placement_refusal_eq_none_iff.mp unrefused

/-- A cluster is created under a free id of an instance, when it may stand where it is put. -/
theorem serves_create_cluster (instanceId : String) (spec : ClusterSpec) (held : Option Holdings) :
    let request : Request := .createCluster instanceId spec
    handle.Serves now request held (handle.serve now request held).1
      (handle.serve now request held).2 := by
  simp only [serve]
  split
  · rename_i refusal refused
    exact .refused (placement_refusal_ne_read_failure refused)
  · exact .refused (by simp)
  · rename_i holdings accepted
    split
    · exact .refused (by simp)
    · rename_i free
      have placed := placement_refusal_eq_none_iff.mp accepted
      exact .clusterCreated placed (Bool.eq_false_iff.mpr free)

/-- A backup is taken of a table that is there, in a cluster that is there, under ids that are free
and until a time that has not come. -/
theorem serves_create_backup (instanceId : String) (spec : BackupSpec) (held : Option Holdings) :
    let request : Request := .createBackup instanceId spec
    handle.Serves now request held (handle.serve now request held).1
      (handle.serve now request held).2 := by
  simp only [serve]
  split
  · exact .refused (by simp)
  · rename_i expired
    split
    · exact .refused (by simp)
    · rename_i holdings
      split
      · exact .refused (by simp)
      · rename_i cluster found
        split
        · exact .refused (by simp)
        · rename_i kept
          split
          · exact .refused (by simp)
          · rename_i free
            refine .backupCreated (UInt64.not_le.mp expired) found ?_ ?_
            · simpa using kept
            · exact Bool.eq_false_iff.mpr free

/-- However a call is answered, it does nothing that is not listed. On an instance that does not
exist most calls are refused at once, and of the others each is a case of its own. -/
theorem serves (request : Request) (held : Option Holdings) :
    handle.Serves now request held (handle.serve now request held).1
      (handle.serve now request held).2 := by
  cases request with
  | createInstance instanceId specs => exact handle.serves_create_instance now instanceId specs held
  | createCluster instanceId spec => exact handle.serves_create_cluster now instanceId spec held
  | createBackup instanceId spec => exact handle.serves_create_backup now instanceId spec held
  | getCluster instanceId clusterId =>
    cases held with
    | none => exact .refused (by simp)
    | some holdings =>
      simp only [serve]
      split
      · rename_i cluster found
        exact .clusterFound found
      · exact .refused (by simp)
  | deleteInstance instanceId =>
    cases held with
    | none => exact .refused (by simp)
    | some holdings => exact .instanceDeleted
  | createTable instanceId tableId families =>
    cases held with
    | none => exact .refused (by simp)
    | some holdings =>
      simp only [serve]
      split
      · exact .refused (by simp)
      · rename_i free
        exact .tableCreated (Bool.eq_false_iff.mpr free)
  | getEncryption instanceId tableId =>
    cases held with
    | none => exact .refused (by simp)
    | some holdings =>
      cases found : holdings.tables[tableId]? with
      | none =>
        simp only [serve, found]
        exact .refused (by simp)
      | some state => exact handle.serves_get_encryption now instanceId found
  | getBackup instanceId clusterId backupId =>
    cases held with
    | none => exact .refused (by simp)
    | some holdings =>
      simp only [serve]
      split
      · rename_i backup found
        exact .backupFound found
      · exact .refused (by simp)
  | deleteBackup instanceId clusterId backupId =>
    cases held with
    | none => exact .refused (by simp)
    | some holdings =>
      simp only [serve]
      split
      · rename_i kept
        exact .backupDeleted kept
      · exact .refused (by simp)

/-- A call on the plane is served from what its instance holds there, and its refusal is told as an
error. -/
theorem client_serves (request : Request) (plane : Plane) :
    ∃ result, (handle.client now request plane).1 = result.mapError Refusal.toError ∧
      handle.Serves now request plane[request.instanceId]? result
        (handle.client now request plane).2[request.instanceId]? := by
  refine ⟨_, handle.client_fst now request plane, ?_⟩
  rw [client_snd, Plane.lookup_put_self]
  exact handle.serves now request plane[request.instanceId]?

/-- A call on the plane that is answered is answered from what its instance holds. -/
theorem serves_of_answered {request : Request} {plane : Plane} {answer : request.Answer}
    (answered : (handle.client now request plane).1 = .ok answer) :
    handle.Serves now request plane[request.instanceId]? (.ok answer)
      (handle.client now request plane).2[request.instanceId]? := by
  obtain ⟨result, replied, served⟩ := handle.client_serves now request plane
  rw [replied] at answered
  cases result with
  | error refusal => cases answered
  | ok value =>
    obtain rfl := Except.ok.inj answered
    exact served

variable {handle now} in
/-- A read that is answered was answered from a table that is there and has no failures left, and
is counted. -/
theorem Serves.exists_read {instanceId tableId : String} {held after : Option Holdings}
    {report : EncryptionReport}
    (served : handle.Serves now (.getEncryption instanceId tableId) held (.ok report) after) :
    ∃ holdings state, held = some holdings ∧ holdings.tables[tableId]? = some state ∧
      ¬ 0 < state.failuresLeft ∧
      report = holdings.report (handle.convergenceReads < state.reads + 1) ∧
      after = some (holdings.withTable tableId state.afterRead) := by
  cases served with
  | readAnswered found spent => exact ⟨_, _, rfl, found, spent, rfl, rfl⟩

end Handle

end CustomerKeys
