import CustomerKeys.Proofs.LastingRecords
import CustomerKeys.Proofs.Placement

/-!
# What the creation of an instance reports

The answer to the creation of an instance lists the ids of its clusters. The list is read off the
specifications, and the clusters are filed from them one after the other, so the two need not agree.
They have the same ids, but an id that occurs twice in the list is one cluster only, and that is the
one of the last specification with the id.

A single cluster whose id is taken is refused when it is added to an instance. The list of a new
instance is not looked through for ids that occur twice. The creation then reports a cluster more
often than it is there, and of the specifications before the last one nothing is left. With distinct
ids an instance is what its creation reports.
-/

namespace CustomerKeys

/-- On a plane an instance is what its creation with some clusters reports: each cluster of it is
reported once, nothing else is, and a look-up through any handle returns each cluster as it was
asked for. -/
structure Plane.HasAsReported (plane : Plane) (instanceId : String) (specs : List ClusterSpec)
    (created : Instance) : Prop where
  once : created.clusters.Nodup
  sameClusters : ∀ clusterId : String,
    (plane.cluster? instanceId clusterId).isSome ↔ clusterId ∈ created.clusters
  asked : ∀ spec ∈ specs, ∀ (reader : Handle) (now : UInt64),
    (reader.client now (.getCluster instanceId spec.id) plane).1 = .ok (.ofSpec instanceId spec)

namespace Holdings

/-- A new instance has the clusters whose ids are listed. -/
theorem is_some_clusters_of_specs (instanceId clusterId : String) (specs : List ClusterSpec) :
    (ofSpecs instanceId specs).clusters[clusterId]?.isSome ↔
      clusterId ∈ specs.map ClusterSpec.id := by
  constructor
  · intro present
    obtain ⟨cluster, found⟩ := Option.isSome_iff_exists.mp present
    obtain ⟨spec, listed, named, -⟩ := exists_spec_of_lookup_of_specs found
    exact List.mem_map.mpr ⟨spec, listed, named⟩
  · intro reported
    obtain ⟨spec, listed, rfl⟩ := List.mem_map.mp reported
    rw [← Std.ExtTreeMap.contains_eq_isSome_getElem?]
    exact contains_clusters_of_specs instanceId listed

/-- The last specification with an id has made the cluster of that id. -/
theorem lookup_of_specs_of_last (instanceId : String) (before : List ClusterSpec)
    {spec : ClusterSpec} {rest : List ClusterSpec} (last : ∀ later ∈ rest, later.id ≠ spec.id) :
    (ofSpecs instanceId (before ++ spec :: rest)).clusters[spec.id]? =
      some (.ofSpec instanceId spec) := by
  have unlisted : rest.reverse.find? (·.id = spec.id) = none := by
    simpa [List.find?_eq_none] using last
  rw [lookup_clusters_of_specs]
  simp [List.find?_append, unlisted]

end Holdings

namespace Handle

variable (handle : Handle) (now : UInt64) (instanceId : String) (plane : Plane)
  (specs : List ClusterSpec)

/-- An instance is created when it is not there, some clusters are listed and all of them may stand
in their zones. -/
theorem client_create_instance_answers_iff :
    (∃ created, (handle.client now (.createInstance instanceId specs) plane).1 = .ok created) ↔
      specs ≠ [] ∧ (∀ spec ∈ specs, Zone.Accepts spec.zone spec.key) ∧
        plane.hasInstance instanceId = false := by
  constructor
  · rintro ⟨created, answered⟩
    obtain ⟨absent, several, placed, -⟩ := (handle.serves_of_answered now answered).instance_new
    refine ⟨several, placed, ?_⟩
    rw [plane.has_instance_eq]
    exact congrArg Option.isSome absent
  · rintro ⟨several, placed, absent⟩
    refine ⟨⟨instanceId, specs.map ClusterSpec.id, now⟩, ?_⟩
    rw [handle.client_create_instance_of_accepted now instanceId plane several placed, absent]
    rfl

variable {plane}

/-- A cluster that may stand in its zone is refused when its id is taken. -/
theorem client_create_cluster_of_taken {spec : ClusterSpec}
    (placed : Zone.Accepts spec.zone spec.key)
    (taken : (plane.cluster? instanceId spec.id).isSome) :
    (handle.client now (.createCluster instanceId spec) plane).1 =
      .error
        (.alreadyExists ("cluster " ++ instanceId ++ "/" ++ spec.id ++ " already exists")) := by
  obtain ⟨cluster, present⟩ := Option.isSome_iff_exists.mp taken
  obtain ⟨holdings, held, found⟩ := Plane.cluster?_eq_some_iff.mp present
  have contained : holdings.clusters.contains spec.id = true := by
    rw [Std.ExtTreeMap.contains_eq_isSome_getElem?, found]
    rfl
  rw [client_fst, handle.single_create_cluster_fst_of_placed now instanceId
    (placement_refusal_eq_none_iff.mpr placed)]
  simp only [Request.instanceId, held, contained]
  rfl

end Handle

namespace Plane

variable {handle : Handle} {now : UInt64} {instanceId : String} {plane : Plane}
  {specs : List ClusterSpec} {created : Instance}
  (answered : (handle.client now (.createInstance instanceId specs) plane).1 = .ok created)

include answered

/-- The ids that are reported are those of the clusters. -/
theorem is_some_cluster_create_instance (clusterId : String) :
    ((handle.client now (.createInstance instanceId specs) plane).2.cluster? instanceId
      clusterId).isSome ↔ clusterId ∈ created.clusters := by
  obtain ⟨-, -, -, rfl⟩ := (handle.serves_of_answered now answered).instance_new
  rw [cluster_after_create_instance answered]
  exact Holdings.is_some_clusters_of_specs instanceId clusterId specs

/-- With distinct ids, and only then, an instance is what its creation reports. -/
theorem has_as_reported_iff :
    (handle.client now (.createInstance instanceId specs) plane).2.HasAsReported instanceId specs
      created ↔ (specs.map ClusterSpec.id).Nodup := by
  obtain ⟨-, -, -, reported⟩ := (handle.serves_of_answered now answered).instance_new
  have listed : created.clusters = specs.map ClusterSpec.id := by rw [reported]
  constructor
  · intro stored
    rw [← listed]
    exact stored.once
  · intro distinct
    refine ⟨listed ▸ distinct, is_some_cluster_create_instance answered, ?_⟩
    intro spec inList reader later
    exact reader.client_get_cluster later (cluster_create_instance answered distinct inList)

omit answered

/-- Whether an instance is created does not depend on the ids of its clusters. If it is, it has a
cluster for every id that is reported and no others, and each one is what the last specification
with its id asked for. So it is what its creation reports exactly when no id is listed twice. A
cluster that is added under a reported id is refused, unlike one that is listed under it again. -/
theorem create_instance_reports_clusters (handle : Handle) (now : UInt64) (plane : Plane)
    (instanceId : String) (specs : List ClusterSpec) :
    ((∃ created, (handle.client now (.createInstance instanceId specs) plane).1 = .ok created) ↔
      specs ≠ [] ∧ (∀ spec ∈ specs, Zone.Accepts spec.zone spec.key) ∧
        plane.hasInstance instanceId = false) ∧
    ∀ created : Instance,
      (handle.client now (.createInstance instanceId specs) plane).1 = .ok created →
        let after := (handle.client now (.createInstance instanceId specs) plane).2
        (after.HasAsReported instanceId specs created ↔ (specs.map ClusterSpec.id).Nodup) ∧
        (∀ clusterId : String,
          (after.cluster? instanceId clusterId).isSome ↔ clusterId ∈ created.clusters) ∧
        (∀ (before rest : List ClusterSpec) (spec : ClusterSpec), specs = before ++ spec :: rest →
          (∀ later ∈ rest, later.id ≠ spec.id) → ∀ (reader : Handle) (moment : UInt64),
            (reader.client moment (.getCluster instanceId spec.id) after).1 =
              .ok (.ofSpec instanceId spec)) ∧
        ∀ spec : ClusterSpec, spec.id ∈ created.clusters → Zone.Accepts spec.zone spec.key →
          ∀ (adder : Handle) (moment : UInt64),
            (adder.client moment (.createCluster instanceId spec) after).1 = .error (.alreadyExists
              ("cluster " ++ instanceId ++ "/" ++ spec.id ++ " already exists")) := by
  refine ⟨handle.client_create_instance_answers_iff now instanceId plane specs, ?_⟩
  intro created answered after
  refine ⟨has_as_reported_iff answered, is_some_cluster_create_instance answered, ?_, ?_⟩
  · rintro before rest spec rfl last reader moment
    apply reader.client_get_cluster
    rw [cluster_after_create_instance answered]
    exact Holdings.lookup_of_specs_of_last instanceId before last
  · intro spec reported placed adder moment
    have taken := (is_some_cluster_create_instance answered spec.id).mpr reported
    exact adder.client_create_cluster_of_taken moment instanceId placed taken

/-- Two keyed clusters in one region, whose ids are distinct. -/
theorem distinct_clusters_as_reported :
    let key := "projects/p/locations/us-central1/keyRings/r/cryptoKeys/k"
    let handle : Handle := ⟨"p", 0, 0⟩
    let specs : List ClusterSpec :=
      [⟨"c1", "us-central1-b", 1, .ssd, some key⟩, ⟨"c2", "us-central1-c", 1, .hdd, some key⟩]
    ∃ created, (handle.client 7 (.createInstance "i" specs) .empty).1 = .ok created ∧
      (handle.client 7 (.createInstance "i" specs) .empty).2.HasAsReported "i" specs created := by
  intro key handle specs
  obtain ⟨created, answered⟩ : ∃ created,
      (handle.client 7 (.createInstance "i" specs) .empty).1 = .ok created := by
    simp only [specs, handle, key]
    exact ⟨_, rfl⟩
  obtain ⟨-, reports⟩ := create_instance_reports_clusters handle 7 .empty "i" specs
  obtain ⟨stored, -⟩ := reports created answered
  exact ⟨created, answered, stored.mpr (by decide)⟩

/-- A list that names one id twice is accepted. The id is reported twice, and the cluster that the
first specification asks for is not there. -/
theorem repeated_id_is_accepted :
    let key := "projects/p/locations/us-central1/keyRings/r/cryptoKeys/k"
    let handle : Handle := ⟨"p", 0, 0⟩
    let first : ClusterSpec := ⟨"c1", "us-central1-b", 1, .ssd, some key⟩
    let second : ClusterSpec := ⟨"c1", "us-central1-c", 1, .ssd, some key⟩
    let after := (handle.client 7 (.createInstance "i" [first, second]) .empty).2
    ∃ created, (handle.client 7 (.createInstance "i" [first, second]) .empty).1 = .ok created ∧
      created.clusters = ["c1", "c1"] ∧
      (handle.client 8 (.getCluster "i" "c1") after).1 = .ok (.ofSpec "i" second) ∧
      Cluster.ofSpec "i" second ≠ .ofSpec "i" first ∧
      ¬ after.HasAsReported "i" [first, second] created := by
  intro key handle first second after
  obtain ⟨created, answered, twice⟩ : ∃ created,
      (handle.client 7 (.createInstance "i" [first, second]) .empty).1 = .ok created ∧
        created.clusters = ["c1", "c1"] := by
    simp only [first, second, handle, key]
    exact ⟨_, rfl, rfl⟩
  have present : after.cluster? "i" "c1" = some (.ofSpec "i" second) := by
    have last : ∀ later ∈ ([] : List ClusterSpec), later.id ≠ second.id := List.forall_mem_nil _
    rw [cluster_after_create_instance answered]
    exact Holdings.lookup_of_specs_of_last "i" [first] last
  refine ⟨created, answered, twice, handle.client_get_cluster 8 present, by decide, ?_⟩
  intro stored
  have once := stored.once
  rw [twice] at once
  exact absurd once (by decide)

end Plane

end CustomerKeys
