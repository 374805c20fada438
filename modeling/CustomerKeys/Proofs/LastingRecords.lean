import CustomerKeys.Proofs.PlaneCalls
import CustomerKeys.Proofs.PlaneRecords
import CustomerKeys.Proofs.ReportedKeys
import Mathlib.Data.List.Nodup

/-!
# Clusters and backups do not change

What a look-up returns was settled when the record was made. A cluster keeps every field of the
specification that it was asked for with, and a backup keeps the metadata of the key that its
cluster had, whatever is asked of the plane in between, through whichever handles, and however often
tables are read. Only a deletion ends this: that of the backup itself, or that of the instance.

Of a list of clusters in which an id occurs twice, only one cluster comes to be. Such lists are left
out.
-/

namespace CustomerKeys

/-- The specifications of a new instance have made its clusters when no id occurs twice. -/
theorem Holdings.lookup_of_specs_of_nodup (instanceId : String) {specs : List ClusterSpec}
    (distinct : (specs.map ClusterSpec.id).Nodup) {spec : ClusterSpec} (listed : spec ∈ specs) :
    (ofSpecs instanceId specs).clusters[spec.id]? = some (.ofSpec instanceId spec) := by
  have present := contains_clusters_of_specs instanceId listed
  rw [Std.ExtTreeMap.contains_eq_isSome_getElem?] at present
  obtain ⟨cluster, found⟩ := Option.isSome_iff_exists.mp present
  obtain ⟨other, alsoListed, named, rfl⟩ := exists_spec_of_lookup_of_specs found
  obtain rfl := List.inj_on_of_nodup_map distinct alsoListed listed named
  exact found

namespace Handle

variable {handle : Handle} {now : UInt64} {instanceId : String} {held after : Option Holdings}

/-- An instance that is created holds its clusters and nothing else. -/
theorem Serves.instance_created {specs : List ClusterSpec} {created : Instance}
    (served : handle.Serves now (.createInstance instanceId specs) held (.ok created) after) :
    after = some (.ofSpecs instanceId specs) := by
  cases served with
  | instanceCreated several placed => rfl

/-- An instance that is created was not there, and all its clusters could stand in their zones. Its
clusters are reported as they were listed. -/
theorem Serves.instance_new {specs : List ClusterSpec} {created : Instance}
    (served : handle.Serves now (.createInstance instanceId specs) held (.ok created) after) :
    held = none ∧ specs ≠ [] ∧ (∀ spec ∈ specs, Zone.Accepts spec.zone spec.key) ∧
      created = ⟨instanceId, specs.map ClusterSpec.id, now⟩ := by
  cases served with
  | instanceCreated several placed => exact ⟨rfl, several, placed, rfl⟩

variable (handle now) {plane : Plane}

/-- A cluster that is there is what a look-up returns. -/
theorem client_get_cluster {clusterId : String} {cluster : Cluster}
    (found : plane.cluster? instanceId clusterId = some cluster) :
    (handle.client now (.getCluster instanceId clusterId) plane).1 = .ok cluster := by
  obtain ⟨holdings, present, inside⟩ := Plane.cluster?_eq_some_iff.mp found
  rw [client_fst]
  simp only [Request.instanceId, present]
  rw [handle.single_get_cluster now instanceId inside]

end Handle

namespace Plane

variable {handle : Handle} {now : UInt64} {instanceId : String} {plane : Plane}

/-- A created instance has the clusters of its list. -/
theorem cluster_after_create_instance {specs : List ClusterSpec} {created : Instance}
    (answered : (handle.client now (.createInstance instanceId specs) plane).1 = .ok created)
    (clusterId : String) :
    (handle.client now (.createInstance instanceId specs) plane).2.cluster? instanceId clusterId =
      (Holdings.ofSpecs instanceId specs).clusters[clusterId]? := by
  have left := (handle.serves_of_answered now answered).instance_created
  exact congrArg (Option.bind · _) left

/-- With distinct ids it has every cluster that it was created with. -/
theorem cluster_create_instance {specs : List ClusterSpec} {created : Instance}
    (answered : (handle.client now (.createInstance instanceId specs) plane).1 = .ok created)
    (distinct : (specs.map ClusterSpec.id).Nodup) {spec : ClusterSpec} (listed : spec ∈ specs) :
    (handle.client now (.createInstance instanceId specs) plane).2.cluster? instanceId spec.id =
      some (.ofSpec instanceId spec) := by
  rw [cluster_after_create_instance answered]
  exact Holdings.lookup_of_specs_of_nodup instanceId distinct listed

end Plane

end CustomerKeys
