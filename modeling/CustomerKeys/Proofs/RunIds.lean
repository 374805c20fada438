import CustomerKeys.Proofs.KeyGrammar
import CustomerKeys.Scenario.Basic
import Mathlib.Data.List.Nodup

/-!
# The ids of different runs

A run is known by its scenario and the time at which it starts. Under one stem its instance id tells
both. Read from the end, the id has a tag of two characters, a dash, and the digits of the time; the
stem stands in front of all that can differ, so it may itself end in digits or dashes.

A cluster has the id of its instance with a mark of three characters behind it. Clusters can
therefore share an id only if they have the same mark in instances with the same id. However many
runs are started, no two of them have an instance or a cluster in common, as long as no scenario is
started twice at one time.
-/

namespace CustomerKeys

/-- The tags of the scenarios tell them apart. -/
theorem Scenario.tag_injective {first second : Scenario} (same : first.tag = second.tag) :
    first = second := by
  cases first <;> cases second <;> first | rfl | exact absurd same (by decide)

/-- All tags have one length. -/
theorem Scenario.length_tag (scenario : Scenario) : scenario.tag.toList.length = 2 := by
  cases scenario <;> rfl

namespace ScenarioIds

variable {stem : String} {first second : Scenario} {firstEpoch secondEpoch : UInt64}

/-- The instance id of a run tells its scenario and its time. -/
theorem instance_id_of_run_inj :
    (ofRun stem first firstEpoch).instanceId = (ofRun stem second secondEpoch).instanceId ↔
      first = second ∧ firstEpoch = secondEpoch := by
  constructor
  · intro same
    have characters := congrArg String.toList same
    simp only [ofRun, String.toList_append] at characters
    obtain ⟨front, tags⟩ := List.append_inj' characters
      (first.length_tag.trans second.length_tag.symm)
    -- In front of the tags there are the stem, the digits and the dash.
    have digits := List.append_cancel_left (List.append_cancel_right front)
    have times := to_string_nat_injective (String.toList_inj.mp digits)
    exact ⟨Scenario.tag_injective (String.toList_inj.mp tags), UInt64.toNat_inj.mp times⟩
  · rintro ⟨rfl, rfl⟩
    rfl

/-- The ids of the three clusters that a run may ask for. -/
def clusterIds (ids : ScenarioIds) : List String :=
  [ids.clusterId, ids.secondClusterId, ids.rejectedClusterId]

/-- What stands behind the instance id in the id of a cluster. -/
def clusterMarks : List String := ["-c1", "-c2", "-c3"]

/-- The ids of the clusters are the instance id with each of the marks. -/
theorem cluster_ids_of_run (stem : String) (scenario : Scenario) (epoch : UInt64) :
    (ofRun stem scenario epoch).clusterIds =
      clusterMarks.map ((ofRun stem scenario epoch).instanceId ++ ·) := rfl

/-- A marked id can be taken apart, since all marks have one length. -/
theorem append_mark_inj {instanceId other mark otherMark : String} (marked : mark ∈ clusterMarks)
    (otherMarked : otherMark ∈ clusterMarks) :
    instanceId ++ mark = other ++ otherMark ↔ instanceId = other ∧ mark = otherMark := by
  have width : ∀ mark ∈ clusterMarks, mark.toList.length = 3 := by decide
  constructor
  · intro same
    have characters := congrArg String.toList same
    simp only [String.toList_append] at characters
    obtain ⟨ids, marks⟩ := List.append_inj' characters
      ((width mark marked).trans (width otherMark otherMarked).symm)
    exact ⟨String.toList_inj.mp ids, String.toList_inj.mp marks⟩
  · rintro ⟨rfl, rfl⟩
    rfl

/-- The clusters of one run have different ids. -/
theorem nodup_cluster_ids (stem : String) (scenario : Scenario) (epoch : UInt64) :
    (ofRun stem scenario epoch).clusterIds.Nodup := by
  rw [cluster_ids_of_run]
  apply List.Nodup.map_on
  · intro mark marked other otherMarked same
    exact ((append_mark_inj marked otherMarked).mp same).2
  · decide

/-- So the first two differ. -/
theorem cluster_id_ne_second_cluster_id (stem : String) (scenario : Scenario) (epoch : UInt64) :
    (ofRun stem scenario epoch).clusterId ≠ (ofRun stem scenario epoch).secondClusterId := by
  have distinct := nodup_cluster_ids stem scenario epoch
  exact (List.pairwise_cons.mp distinct).1 _ List.mem_cons_self

/-- Two runs have no cluster id in common exactly when they are different runs. -/
theorem disjoint_cluster_ids_iff :
    (ofRun stem first firstEpoch).clusterIds.Disjoint (ofRun stem second secondEpoch).clusterIds ↔
      (first, firstEpoch) ≠ (second, secondEpoch) := by
  rw [ne_eq, Prod.mk.injEq, ← @instance_id_of_run_inj stem, cluster_ids_of_run,
    cluster_ids_of_run]
  constructor
  · intro apart same
    rw [same] at apart
    exact apart (List.mem_map_of_mem List.mem_cons_self) (List.mem_map_of_mem List.mem_cons_self)
  · intro differ id listed otherListed
    obtain ⟨mark, marked, rfl⟩ := List.mem_map.mp listed
    obtain ⟨otherMark, otherMarked, same⟩ := List.mem_map.mp otherListed
    exact differ ((append_mark_inj otherMarked marked).mp same).1.symm

/-- Ids of different runs never collide, whatever their common stem is. The instance ids of two runs
are the same exactly when scenario and time are. Of all the cluster ids of any number of runs no two
are the same exactly when no run is listed twice. -/
theorem runs_share_no_ids (stem : String) :
    (∀ (first second : Scenario) (firstEpoch secondEpoch : UInt64),
      (ofRun stem first firstEpoch).instanceId = (ofRun stem second secondEpoch).instanceId ↔
        first = second ∧ firstEpoch = secondEpoch) ∧
    ∀ runs : List (Scenario × UInt64),
      (runs.flatMap fun run => (ofRun stem run.1 run.2).clusterIds).Nodup ↔ runs.Nodup := by
  constructor
  · intro first second firstEpoch secondEpoch
    exact instance_id_of_run_inj
  · intro runs
    rw [List.nodup_flatMap]
    have within : ∀ run ∈ runs, (ofRun stem run.1 run.2).clusterIds.Nodup :=
      fun run _ => nodup_cluster_ids stem run.1 run.2
    rw [and_iff_right within]
    exact List.Pairwise.iff fun _ _ => disjoint_cluster_ids_iff

/-- The stem has to be the same. Stems that end in digits give one id to runs at different times. -/
example : (ofRun "it-7" .table 17).instanceId = (ofRun "it-71" .table 7).instanceId := by decide

end ScenarioIds

end CustomerKeys
