import CustomerKeys.Proofs.Isolation
import CustomerKeys.Proofs.PlaneSteps

/-!
# The plane is coherent in every state it can reach

An instance has a cluster as long as it exists. What it holds is filed under the ids that it carries
itself, a cluster with a key stands in a zone that the key covers, and a backup names a cluster and
a table that are there. Nothing of this is checked when the plane is asked: it holds because every
call keeps it, whether the call is answered or refused.

The proof has a law for each way in which holdings change, then one for a call and one for a whole
history.
-/

namespace CustomerKeys

/-- What an instance holds is in order. -/
structure Holdings.Coherent (instanceId : String) (holdings : Holdings) : Prop where
  hasCluster : ∃ clusterId, holdings.clusters.contains clusterId = true
  clusterFiled : ∀ (clusterId : String) (cluster : Cluster),
    holdings.clusters[clusterId]? = some cluster →
      cluster.id = clusterId ∧ cluster.instanceId = instanceId
  clusterPlaced : ∀ (clusterId : String) (cluster : Cluster),
    holdings.clusters[clusterId]? = some cluster → Zone.Accepts cluster.zone cluster.key
  tableFiled : ∀ (tableId : String) (state : TableState),
    holdings.tables[tableId]? = some state →
      state.table.id = tableId ∧ state.table.instanceId = instanceId
  backupFiled : ∀ (place : String × String) (backup : Backup),
    holdings.backups[place]? = some backup → (backup.clusterId, backup.id) = place
  backupRooted : ∀ (place : String × String) (backup : Backup),
    holdings.backups[place]? = some backup →
      holdings.clusters.contains backup.clusterId = true ∧
        holdings.tables.contains backup.tableId = true

/-- Holdings in order have their clusters filed by id. -/
theorem Holdings.Coherent.filed {instanceId : String} {holdings : Holdings}
    (coherent : holdings.Coherent instanceId) : holdings.Filed :=
  fun clusterId cluster found => (coherent.clusterFiled clusterId cluster found).1

/-- What every instance of a plane holds is in order. -/
def Plane.Coherent (plane : Plane) : Prop :=
  ∀ (instanceId : String) (holdings : Holdings), plane[instanceId]? = some holdings →
    holdings.Coherent instanceId

/-- A read moves the counters of a table and keeps its record. -/
theorem TableState.table_after_read (state : TableState) :
    state.afterRead.table = state.table := by
  unfold afterRead
  split <;> rfl

section Entries

variable {κ β : Type} {cmp : κ → κ → Ordering} [Std.TransCmp cmp]
  {map : Std.ExtTreeMap κ β cmp} {P : κ → β → Prop}

/-- What holds of all entries of a map and of a new one holds of all entries afterwards. -/
theorem forall_lookup_insert [Std.LawfulEqCmp cmp] {place : κ} {value : β} (new : P place value)
    (old : ∀ other entry, map[other]? = some entry → P other entry) :
    ∀ other entry, (map.insert place value)[other]? = some entry → P other entry := by
  intro other entry found
  rw [Std.ExtTreeMap.getElem?_insert] at found
  split at found
  · rename_i same
    obtain rfl := Std.LawfulEqCmp.eq_of_compare same
    obtain rfl := Option.some.inj found
    exact new
  · exact old other entry found

/-- What holds of all entries of a map holds of those that are left without one of them. -/
theorem forall_lookup_erase {place : κ}
    (old : ∀ other entry, map[other]? = some entry → P other entry) :
    ∀ other entry, (map.erase place)[other]? = some entry → P other entry := by
  intro other entry found
  rw [Std.ExtTreeMap.getElem?_erase] at found
  split at found
  · cases found
  · exact old other entry found

end Entries

namespace Holdings

/-- The clusters of a new instance. Of several specifications with one id the last counts, which is
the first one from the end. -/
theorem lookup_clusters_of_specs (instanceId : String) (specs : List ClusterSpec)
    (clusterId : String) :
    (ofSpecs instanceId specs).clusters[clusterId]? =
      (specs.reverse.find? (·.id = clusterId)).map (Cluster.ofSpec instanceId) := by
  simp only [ofSpecs, List.foldl_eq_foldr_reverse]
  induction specs.reverse with
  | nil => rfl
  | cons spec others inductionHypothesis =>
    rw [List.foldr_cons, Std.ExtTreeMap.getElem?_insert, List.find?_cons, inductionHypothesis]
    by_cases same : spec.id = clusterId
    · simp [same]
    · simp [same]

/-- A cluster of a new instance was asked for by a specification with its id. -/
theorem exists_spec_of_lookup_of_specs {instanceId clusterId : String} {specs : List ClusterSpec}
    {cluster : Cluster}
    (found : (ofSpecs instanceId specs).clusters[clusterId]? = some cluster) :
    ∃ spec ∈ specs, spec.id = clusterId ∧ cluster = .ofSpec instanceId spec := by
  rw [lookup_clusters_of_specs] at found
  obtain ⟨spec, asked, rfl⟩ := Option.map_eq_some_iff.mp found
  have listed : spec ∈ specs := List.mem_reverse.mp (List.mem_of_find?_eq_some asked)
  have named : spec.id = clusterId := by simpa using List.find?_some asked
  exact ⟨spec, listed, named, rfl⟩

/-- The clusters of a new instance are filed by id, whether or not their keys fit their zones. -/
theorem filed_of_specs (instanceId : String) (specs : List ClusterSpec) :
    (ofSpecs instanceId specs).Filed := by
  intro clusterId cluster found
  obtain ⟨spec, -, named, rfl⟩ := exists_spec_of_lookup_of_specs found
  exact named

/-- Every specification has made a cluster of its id. -/
theorem contains_clusters_of_specs (instanceId : String) {specs : List ClusterSpec}
    {spec : ClusterSpec} (listed : spec ∈ specs) :
    (ofSpecs instanceId specs).clusters.contains spec.id = true := by
  rw [Std.ExtTreeMap.contains_eq_isSome_getElem?, lookup_clusters_of_specs, Option.isSome_map,
    List.find?_isSome]
  exact ⟨spec, List.mem_reverse.mpr listed, decide_eq_true rfl⟩

/-- A new instance with clusters, all of them in zones that accept their keys, is in order. -/
theorem coherent_of_specs (instanceId : String) {specs : List ClusterSpec} (several : specs ≠ [])
    (placed : ∀ spec ∈ specs, Zone.Accepts spec.zone spec.key) :
    (ofSpecs instanceId specs).Coherent instanceId where
  hasCluster := by
    obtain ⟨spec, listed⟩ := List.exists_mem_of_ne_nil specs several
    exact ⟨spec.id, contains_clusters_of_specs instanceId listed⟩
  clusterFiled := by
    intro clusterId cluster found
    obtain ⟨spec, -, named, rfl⟩ := exists_spec_of_lookup_of_specs found
    exact ⟨named, rfl⟩
  clusterPlaced := by
    intro clusterId cluster found
    obtain ⟨spec, listed, -, rfl⟩ := exists_spec_of_lookup_of_specs found
    exact placed spec listed
  tableFiled := by simp [ofSpecs]
  backupFiled := by simp [ofSpecs]
  backupRooted := by simp [ofSpecs]

namespace Coherent

variable {instanceId : String} {holdings : Holdings} (coherent : holdings.Coherent instanceId)

include coherent

/-- A further cluster of the instance, in a zone that accepts its key. -/
theorem with_cluster {cluster : Cluster} (own : cluster.instanceId = instanceId)
    (placed : Zone.Accepts cluster.zone cluster.key) :
    (holdings.withCluster cluster).Coherent instanceId where
  hasCluster := ⟨cluster.id, Std.ExtTreeMap.contains_insert_self⟩
  clusterFiled := forall_lookup_insert ⟨rfl, own⟩ coherent.clusterFiled
  clusterPlaced := forall_lookup_insert placed coherent.clusterPlaced
  tableFiled := coherent.tableFiled
  backupFiled := coherent.backupFiled
  backupRooted := by
    intro place backup found
    obtain ⟨inCluster, ofTable⟩ := coherent.backupRooted place backup found
    refine ⟨?_, ofTable⟩
    simp [Holdings.withCluster, Std.ExtTreeMap.contains_insert, inCluster]

/-- A table of the instance in a new state, or a further one. -/
theorem with_table {tableId : String} {state : TableState} (named : state.table.id = tableId)
    (own : state.table.instanceId = instanceId) :
    (holdings.withTable tableId state).Coherent instanceId where
  hasCluster := coherent.hasCluster
  clusterFiled := coherent.clusterFiled
  clusterPlaced := coherent.clusterPlaced
  tableFiled := forall_lookup_insert ⟨named, own⟩ coherent.tableFiled
  backupFiled := coherent.backupFiled
  backupRooted := by
    intro place backup found
    obtain ⟨inCluster, ofTable⟩ := coherent.backupRooted place backup found
    refine ⟨inCluster, ?_⟩
    simp [Holdings.withTable, Std.ExtTreeMap.contains_insert, ofTable]

/-- A table after one more read. -/
theorem after_read {tableId : String} {state : TableState}
    (found : holdings.tables[tableId]? = some state) :
    (holdings.withTable tableId state.afterRead).Coherent instanceId := by
  obtain ⟨named, own⟩ := coherent.tableFiled tableId state found
  rw [← state.table_after_read] at named own
  exact coherent.with_table named own

/-- A further backup, of a table that is there and in a cluster that is there. -/
theorem with_backup {backup : Backup}
    (inCluster : holdings.clusters.contains backup.clusterId = true)
    (ofTable : holdings.tables.contains backup.tableId = true) :
    (holdings.withBackup backup).Coherent instanceId where
  hasCluster := coherent.hasCluster
  clusterFiled := coherent.clusterFiled
  clusterPlaced := coherent.clusterPlaced
  tableFiled := coherent.tableFiled
  backupFiled := forall_lookup_insert rfl coherent.backupFiled
  backupRooted := forall_lookup_insert ⟨inCluster, ofTable⟩ coherent.backupRooted

/-- One backup fewer. -/
theorem without_backup (clusterId backupId : String) :
    (holdings.withoutBackup clusterId backupId).Coherent instanceId where
  hasCluster := coherent.hasCluster
  clusterFiled := coherent.clusterFiled
  clusterPlaced := coherent.clusterPlaced
  tableFiled := coherent.tableFiled
  backupFiled := forall_lookup_erase coherent.backupFiled
  backupRooted := forall_lookup_erase coherent.backupRooted

end Coherent

end Holdings

/-- A call keeps its instance in order, however it is answered. -/
theorem Handle.Serves.coherent {handle : Handle} {now : UInt64} {request : Request}
    {held after : Option Holdings} {result : Except Refusal request.Answer}
    (served : handle.Serves now request held result after)
    (before : ∀ holdings, held = some holdings → holdings.Coherent request.instanceId) :
    ∀ holdings, after = some holdings → holdings.Coherent request.instanceId := by
  cases served with
  | refused idle => exact before
  | instanceCreated several placed =>
    rintro _ ⟨⟩
    exact Holdings.coherent_of_specs _ several placed
  | instanceDeleted => exact nofun
  | clusterCreated placed free =>
    rintro _ ⟨⟩
    exact (before _ rfl).with_cluster rfl placed
  | clusterFound found => exact before
  | tableCreated free =>
    rintro _ ⟨⟩
    exact (before _ rfl).with_table rfl rfl
  | readRefused found left =>
    rintro _ ⟨⟩
    exact (before _ rfl).after_read found
  | readAnswered found spent =>
    rintro _ ⟨⟩
    exact (before _ rfl).after_read found
  | backupCreated later found kept free =>
    rintro _ ⟨⟩
    refine (before _ rfl).with_backup ?_ kept
    rw [Std.ExtTreeMap.contains_eq_isSome_getElem?]
    exact congrArg Option.isSome found
  | backupFound found => exact before
  | backupDeleted kept =>
    rintro _ ⟨⟩
    exact (before _ rfl).without_backup _ _

/-- An operation is served from what its instance holds, and is answered when it is served so. -/
theorem Operation.exists_served (operation : Operation) (plane : Plane) :
    ∃ result, (operation.perform plane).1.reply.isOk = result.isOk ∧
      operation.handle.Serves operation.now operation.request
        plane[operation.request.instanceId]? result
        (operation.perform plane).2[operation.request.instanceId]? := by
  obtain ⟨result, replied, served⟩ :=
    operation.handle.client_serves operation.now operation.request plane
  refine ⟨result, (congrArg Except.isOk replied).trans ?_, served⟩
  cases result <;> rfl

/-- An operation keeps the plane coherent. Only the instance that it addresses may change. -/
theorem Operation.perform_coherent (operation : Operation) {plane : Plane}
    (coherent : plane.Coherent) : (operation.perform plane).2.Coherent := by
  intro instanceId holdings found
  cases addressed : operation.addresses instanceId with
  | false =>
    rw [Operation.lookup_perform_of_not_addresses addressed] at found
    exact coherent instanceId holdings found
  | true =>
    have own : operation.request.instanceId = instanceId := by
      simpa [Operation.addresses] using addressed
    subst own
    obtain ⟨result, -, served⟩ := operation.exists_served plane
    exact served.coherent (coherent operation.request.instanceId) holdings found

namespace Plane

/-- So does a whole history. -/
theorem Coherent.history {plane : Plane} (coherent : plane.Coherent)
    (operations : List Operation) : (Plane.history operations plane).2.Coherent := by
  induction operations generalizing plane with
  | nil => exact coherent
  | cons operation rest inductionHypothesis =>
    exact inductionHypothesis (operation.perform_coherent coherent)

/-- A plane without instances is coherent. -/
theorem coherent_empty : Plane.empty.Coherent := by
  intro instanceId holdings found
  simp [empty] at found

/-- Whatever was asked of a plane that began empty, through whichever handles and in whichever
order, and however each call was answered, the plane is coherent. -/
theorem reachable_coherent (operations : List Operation) :
    (Plane.history operations .empty).2.Coherent :=
  coherent_empty.history operations

-- Backups are among what is reached: this one was taken before a second cluster was added.
example : (history
    [⟨.plain "p", 7, .createInstance "i" [⟨"c1", "a-b", 1, .ssd, none⟩]⟩,
      ⟨.plain "p", 8, .createTable "i" "t" ["cf"]⟩,
      ⟨.plain "p", 9, .createBackup "i" ⟨"c1", "b", "t", 10⟩⟩,
      ⟨.plain "p", 9, .createCluster "i" ⟨"c2", "a-c", 1, .hdd, none⟩⟩]
    .empty).2.hasBackup "i" "c1" "b" = true := by decide +kernel

end Plane

end CustomerKeys
