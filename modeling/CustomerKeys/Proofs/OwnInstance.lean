import CustomerKeys.Proofs.PlaneSteps
import CustomerKeys.Proofs.ScenarioCalls

/-!
# What a run does to instances that it did not create

The ids of a run are its own, and the teardown goes by them alone: it does not ask which creations
have succeeded. Every instance under another id is kept as it was. Whatever stands under the id of
the run is gone at the end, an instance that was there before and made the run fail included.
-/

namespace CustomerKeys

/-- Everything that a plane had before is there afterwards, unchanged: each instance with all that
it holds, its backups among that. -/
def Plane.Keeps (after before : Plane) : Prop :=
  ∀ (instanceId : String) (holdings : Holdings), before[instanceId]? = some holdings →
    after[instanceId]? = some holdings

/-- A plane without one of the instances keeps everything exactly when it never had that instance.
-/
theorem Plane.keeps_iff_of_removed {after before : Plane} {instanceId : String}
    (removed : after[instanceId]? = none)
    (others : ∀ other ≠ instanceId, after[other]? = before[other]?) :
    after.Keeps before ↔ before.hasInstance instanceId = false := by
  have known := before.has_instance_eq instanceId
  constructor
  · intro keeps
    cases held : before[instanceId]? with
    | none => simp [known, held]
    | some holdings => exact absurd (removed.symm.trans (keeps instanceId holdings held)) nofun
  · intro fresh other holdings held
    by_cases own : other = instanceId
    · subst own
      simp [known, held] at fresh
    · exact (others other own).trans held

/-- An instance that is there cannot be created again. -/
theorem Handle.Serves.create_instance_refused {handle : Handle} {now : UInt64} {instanceId : String}
    {specs : List ClusterSpec} {holdings : Holdings} {result : Except Refusal Instance}
    {after : Option Holdings}
    (served : handle.Serves now (.createInstance instanceId specs) (some holdings) result after) :
    ∃ refusal, result = .error refusal := by
  cases served with
  | refused idle => exact ⟨_, rfl⟩

/-- Every scenario begins with the creation of its instance, and demands that it succeeds. -/
theorem Scenario.exists_body_eq (scenario : Scenario) (settings : Settings) (schedule : Schedule)
    (now : UInt64) (ids : ScenarioIds) :
    ∃ specs answered, scenario.body settings schedule now ids =
      expectAnswer .nothing (.createInstance ids.instanceId specs) answered := by
  cases scenario with
  | instanceCluster => exact ⟨_, _, rfl⟩
  | table => exact ⟨_, _, rfl⟩
  | backup => exact ⟨_, _, rfl⟩

namespace Harness

/-- A run whose id is occupied is refused its instance. It fails, and makes no call after that one
but the deletions of its teardown. -/
theorem run_with_ids_of_occupied (harness : Harness) (handle : Handle) {plane : Plane}
    (readings : Nat → UInt64) (now : UInt64) (scenario : Scenario) {ids : ScenarioIds}
    {holdings : Holdings} (occupied : plane[ids.instanceId]? = some holdings) :
    let run := (harness.runWithIds now scenario ids).run handle.clocked (plane, readings)
    ∃ error specs backupReply instanceReply,
      run.outcome = .ok (report scenario ids (.fail .nothing (.admin error))) ∧
      run.calls = .called (.createInstance ids.instanceId specs) (.error error) ::
        ids.teardownCalls backupReply instanceReply := by
  intro run
  obtain ⟨specs, answered, body⟩ :=
    scenario.exists_body_eq harness.settings harness.schedule now ids
  let request : Request := .createInstance ids.instanceId specs
  let after := (handle.clocked request (plane, readings)).2
  have served := handle.serves (readings 0) request plane[ids.instanceId]?
  rw [occupied] at served
  obtain ⟨refusal, refused⟩ := served.create_instance_refused
  have replied : handle.clocked request (plane, readings) = (.error refusal.toError, after) := by
    refine Prod.ext ?_ rfl
    simp only [Handle.clocked, Handle.client_fst, Handle.single, request, Request.instanceId,
      occupied]
    rw [refused]
    rfl
  have ran : (scenario.body harness.settings harness.schedule now ids).run handle.clocked
      (plane, readings) = ⟨.ok (.fail .nothing (.admin refusal.toError)), after,
        [.called request (.error refusal.toError)]⟩ := by
    rw [body, Scenario.expectAnswer, Script.run_attempt_refused handle.clocked replied]
    rfl
  have ended := congrArg Run.outcome ran
  obtain ⟨backupReply, instanceReply, calls⟩ :=
    harness.calls_run_with_ids now scenario ids handle.clocked ended
  refine ⟨refusal.toError, specs, backupReply, instanceReply, ?_, ?_⟩
  · exact congrArg Run.outcome (harness.run_run_with_ids now scenario ids handle.clocked ended)
  · rw [calls, ran]
    rfl

section

variable (harness : Harness) (fits : harness.schedule.Fits) (handle : Handle) (plane : Plane)
  (readings : Nat → UInt64) (now : UInt64) (scenario : Scenario) (ids : ScenarioIds)

include fits

/-- No instance is left under the id of a run, whoever created it: the last call deletes it. -/
theorem lookup_run_with_ids_own :
    ((harness.runWithIds now scenario ids).run handle.clocked
      (plane, readings)).state.1[ids.instanceId]? = none := by
  have confined := Scenario.body_confined harness.settings ids scenario fits now
  obtain ⟨outcome, ended⟩ := confined.exists_value handle.clocked (plane, readings)
  rw [harness.run_run_with_ids now scenario ids handle.clocked ended]
  simp only [Handle.clocked, handle.client_snd, handle.single_delete_instance]
  exact Plane.lookup_put_self _ _ _

/-- A run on any plane, under any ids, through any handle and however the clock moves. Instances
under other ids are kept as they were, and none is left under the id of the run. So everything that
the plane had is kept exactly when it had no instance under that id. -/
theorem run_with_ids_removes_own_instance :
    let after := ((harness.runWithIds now scenario ids).run handle.clocked
      (plane, readings)).state.1
    (∀ other ≠ ids.instanceId, after[other]? = plane[other]?) ∧
      after[ids.instanceId]? = none ∧
      (after.Keeps plane ↔ plane.hasInstance ids.instanceId = false) := by
  intro after
  have confined := harness.run_with_ids_confined fits now scenario ids
  have others : ∀ other ≠ ids.instanceId, after[other]? = plane[other]? := by
    intro other different
    exact confined.run_clocked_of_ne handle plane readings different
  have removed : after[ids.instanceId]? = none :=
    harness.lookup_run_with_ids_own fits handle plane readings now scenario ids
  exact ⟨others, removed, Plane.keeps_iff_of_removed removed others⟩

end

/-- A run beside another instance: that one is kept, and the plane is as it was. -/
theorem run_beside_other_instance :
    let key := "projects/p/locations/us-central1/keyRings/r/cryptoKeys/k"
    let harness : Harness := ⟨Settings.scaffold "p" key, .usual⟩
    let plane := Plane.empty.put "kept" (some (.ofSpecs "kept" [⟨"c", "a-b", 1, .ssd, none⟩]))
    let ids := ScenarioIds.ofRun "cmek-it-" .backup 7
    harness.schedule.Fits ∧ ((harness.runWithIds 7 .backup ids).run (Handle.clocked ⟨"p", 0, 0⟩)
      (plane, fun place => 7 + .ofNat place)).state.1.Keeps plane := by
  intro key harness plane ids
  have fits : harness.schedule.Fits := by decide
  have free : plane.hasInstance ids.instanceId = false := by decide
  obtain ⟨-, -, keeps⟩ := harness.run_with_ids_removes_own_instance fits ⟨"p", 0, 0⟩ plane
    (fun place => 7 + .ofNat place) 7 .backup ids
  exact ⟨fits, keeps.mpr free⟩

/-- An instance that already has the id of a run makes the run fail at its first call, and is
deleted by its teardown. -/
theorem occupying_instance_is_removed :
    let key := "projects/p/locations/us-central1/keyRings/r/cryptoKeys/k"
    let harness : Harness := ⟨Settings.scaffold "p" key, .usual⟩
    let ids := ScenarioIds.ofRun "cmek-it-" .table 7
    let squatter : Holdings :=
      .ofSpecs ids.instanceId [⟨"squatter", "us-central1-b", 1, .ssd, none⟩]
    let plane := Plane.empty.put ids.instanceId (some squatter)
    let run := (harness.runWithIds 7 .table ids).run (Handle.plain "p").clocked
      (plane, fun place => 7 + .ofNat place)
    Harness.ofSettings (.scaffold "p" key) 7 = .ok harness ∧ harness.schedule.Fits ∧
      (∃ report, run.outcome = .ok report ∧ report.passed = false) ∧
      plane[ids.instanceId]? = some squatter ∧ ¬ run.state.1.Keeps plane := by
  intro key harness ids squatter plane run
  have fits : harness.schedule.Fits := by decide
  have held : plane[ids.instanceId]? = some squatter := Plane.lookup_put_self _ _ _
  obtain ⟨error, -, -, -, ended, -⟩ :=
    harness.run_with_ids_of_occupied (Handle.plain "p") (fun place => 7 + .ofNat place) 7 .table
      held
  have readsKey : KeyName.parse key = .ok ⟨"p", "us-central1", "r", "k"⟩ :=
    KeyName.parse_eq_ok_iff.mpr ⟨by decide, by decide⟩
  have accepted : Harness.ofSettings (.scaffold "p" key) 7 = .ok harness :=
    Harness.of_settings_scaffold (by decide) readsKey (by decide)
  refine ⟨accepted, fits, ⟨_, ended, rfl⟩, held, ?_⟩
  intro keeps
  have removed := harness.lookup_run_with_ids_own fits (Handle.plain "p") plane
    (fun place => 7 + .ofNat place) 7 .table ids
  exact absurd (removed.symm.trans (keeps _ _ held)) nofun

end Harness

end CustomerKeys
