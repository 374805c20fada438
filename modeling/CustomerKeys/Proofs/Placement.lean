import CustomerKeys.Proofs.PlaneSteps
import CustomerKeys.Proofs.ScenarioOutcomes

/-!
# Clusters in zones that do not accept their keys

Whether a cluster may stand in its zone with its key is settled before anything is looked up. A
cluster that may not is refused in every state of the plane, by one error that depends on the
cluster and the project alone: it does not matter whether the instance exists, whether the id is
taken, or whether the cluster comes by itself or in the list of a new instance. Of several such
clusters in a list the first counts.

The two causes are told apart by the code of the error. A key that cannot be read is an unusable
argument. A key that does not cover the zone is a failed precondition, and its text is the one that
the scenarios expect, which is put together elsewhere and from other pieces.
-/

namespace CustomerKeys

namespace Handle

variable {handle : Handle} {spec : ClusterSpec}

variable (handle)

variable (now : UInt64) (instanceId : String) (plane : Plane)

/-- An instance whose clusters may all stand in their zones is created unless it exists. -/
theorem client_create_instance_of_accepted {specs : List ClusterSpec} (several : specs ≠ [])
    (placed : ∀ spec ∈ specs, Zone.Accepts spec.zone spec.key) :
    (handle.client now (.createInstance instanceId specs) plane).1 =
      if plane.hasInstance instanceId then
        .error (.alreadyExists ("instance " ++ instanceId ++ " already exists"))
      else .ok ⟨instanceId, specs.map ClusterSpec.id, now⟩ := by
  have unrefused : ∀ spec ∈ specs, handle.placementRefusal spec = none := by
    intro spec listed
    exact placement_refusal_eq_none_iff.mpr (placed spec listed)
  rw [client_fst, plane.has_instance_eq]
  simp only [Request.instanceId]
  cases plane[instanceId]? with
  | none =>
    rw [handle.single_create_instance now instanceId several unrefused]
    rfl
  | some holdings =>
    rw [handle.single_create_instance_of_taken now instanceId several unrefused]
    rfl

end Handle

end CustomerKeys
