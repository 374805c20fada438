import CustomerKeys.Proofs.TableReads

/-!
# What an instance answers

The calls that create and look up resources, each with the answer it gets when it succeeds and the
holdings it leaves behind. Clusters whose placement is refused leave the holdings as they are. Reads
of a table's metadata have their own laws, and the refusals for resources that are missing or
already there are left out.
-/

namespace CustomerKeys

namespace Handle

variable (handle : Handle) (now : UInt64) (instanceId : String)

/-- An instance is not created when one of its clusters is refused. The first of them counts. -/
theorem single_create_instance_of_first_refused {before : List ClusterSpec} {spec : ClusterSpec}
    {refusal : Refusal} (accepted : ∀ other ∈ before, handle.placementRefusal other = none)
    (refused : handle.placementRefusal spec = some refusal) (rest : List ClusterSpec)
    (held : Option Holdings) :
    handle.single now (.createInstance instanceId (before ++ spec :: rest)) held =
      (.error refusal.toError, held) := by
  have first : (before ++ spec :: rest).findSome? handle.placementRefusal = some refusal := by
    rw [List.findSome?_append, List.findSome?_eq_none_iff.mpr accepted, Option.none_or]
    simp [refused]
  have nonempty : (before ++ spec :: rest).isEmpty = false := by simp
  simp only [single, serve, first, nonempty]
  rfl

/-- So it is not created when already its first cluster is refused. -/
theorem single_create_instance_of_refused {spec : ClusterSpec} {refusal : Refusal}
    (refused : handle.placementRefusal spec = some refusal) (rest : List ClusterSpec)
    (held : Option Holdings) :
    handle.single now (.createInstance instanceId (spec :: rest)) held =
      (.error refusal.toError, held) :=
  handle.single_create_instance_of_first_refused now instanceId (List.forall_mem_nil _) refused rest
    held

/-- An instance that does not exist is created with its clusters when none of them is refused. -/
theorem single_create_instance {specs : List ClusterSpec} (several : specs ≠ [])
    (placed : ∀ spec ∈ specs, handle.placementRefusal spec = none) :
    handle.single now (.createInstance instanceId specs) none =
      (.ok ⟨instanceId, specs.map ClusterSpec.id, now⟩, some (.ofSpecs instanceId specs)) := by
  have nothing : specs.findSome? handle.placementRefusal = none :=
    List.findSome?_eq_none_iff.mpr placed
  have nonempty : specs.isEmpty = false := by simpa using several
  simp only [single, serve, nothing, nonempty]
  rfl

variable {holdings : Holdings}

/-- An instance that exists is not created again, whatever clusters it would have. -/
theorem single_create_instance_of_taken {specs : List ClusterSpec} (several : specs ≠ [])
    (placed : ∀ spec ∈ specs, handle.placementRefusal spec = none) :
    handle.single now (.createInstance instanceId specs) (some holdings) =
      (.error (Refusal.instanceExists instanceId).toError, some holdings) := by
  have nothing : specs.findSome? handle.placementRefusal = none :=
    List.findSome?_eq_none_iff.mpr placed
  have nonempty : specs.isEmpty = false := by simpa using several
  simp only [single, serve, nothing, nonempty]
  rfl

/-- A cluster is looked up under its id. -/
theorem single_get_cluster {clusterId : String} {cluster : Cluster}
    (found : holdings.clusters[clusterId]? = some cluster) :
    handle.single now (.getCluster instanceId clusterId) (some holdings) =
      (.ok cluster, some holdings) := by
  simp only [single, serve, found]
  rfl

/-- A cluster whose id is free is created when it is not refused. -/
theorem single_create_cluster {spec : ClusterSpec} (placed : handle.placementRefusal spec = none)
    (free : holdings.clusters.contains spec.id = false) :
    handle.single now (.createCluster instanceId spec) (some holdings) =
      (.ok (.ofSpec instanceId spec),
        some { holdings with
          clusters := holdings.clusters.insert spec.id (.ofSpec instanceId spec) }) := by
  simp only [single, serve, placed, free]
  rfl

/-- A refused cluster is not created. -/
theorem single_create_cluster_of_refused {spec : ClusterSpec} {refusal : Refusal}
    (refused : handle.placementRefusal spec = some refusal) (held : Option Holdings) :
    handle.single now (.createCluster instanceId spec) held = (.error refusal.toError, held) := by
  simp only [single, serve, refused]
  rfl

/-- A cluster that is not refused for its placement can only be refused because its instance is
missing or its id is taken. -/
theorem single_create_cluster_fst_of_placed {spec : ClusterSpec}
    (placed : handle.placementRefusal spec = none) (held : Option Holdings) :
    (handle.single now (.createCluster instanceId spec) held).1 =
      match held with
      | none => .error (Refusal.instanceMissing instanceId).toError
      | some holdings =>
        if holdings.clusters.contains spec.id then
          .error (Refusal.clusterExists instanceId spec.id).toError
        else .ok (.ofSpec instanceId spec) := by
  simp only [single, serve, placed]
  cases held with
  | none => rfl
  | some holdings =>
    dsimp only
    split <;> rfl

/-- A table whose id is free is created with the failures that the handle asks for. -/
theorem single_create_table {tableId : String} (free : holdings.tables.contains tableId = false)
    (families : List String) :
    handle.single now (.createTable instanceId tableId families) (some holdings) =
      (.ok ⟨tableId, instanceId, families, now⟩,
        some (holdings.withTable tableId
          ⟨⟨tableId, instanceId, families, now⟩, 0, handle.transientFailures⟩)) := by
  simp only [single, serve, free]
  rfl

/-- A backup of a table that exists, into a cluster that exists, is created when its id is free and
it expires in the future. It reports the cluster's key from then on. -/
theorem single_create_backup {spec : BackupSpec} {cluster : Cluster} (later : now < spec.expireTime)
    (found : holdings.clusters[spec.clusterId]? = some cluster)
    (kept : holdings.tables.contains spec.tableId = true)
    (free : holdings.backups.contains (spec.clusterId, spec.backupId) = false) :
    let backup : Backup :=
      ⟨spec.backupId, spec.clusterId, spec.tableId, spec.expireTime, cluster.backupEncryption⟩
    handle.single now (.createBackup instanceId spec) (some holdings) =
      (.ok backup, some { holdings with
        backups := holdings.backups.insert (spec.clusterId, spec.backupId) backup }) := by
  have notYet : ¬ spec.expireTime ≤ now := UInt64.not_le.mpr later
  simp only [single, serve, notYet, found, kept, free]
  rfl

/-- A backup is looked up under its cluster and id. -/
theorem single_get_backup {clusterId backupId : String} {backup : Backup}
    (found : holdings.backups[(clusterId, backupId)]? = some backup) :
    handle.single now (.getBackup instanceId clusterId backupId) (some holdings) =
      (.ok backup, some holdings) := by
  simp only [single, serve, found]
  rfl

end Handle

end CustomerKeys
