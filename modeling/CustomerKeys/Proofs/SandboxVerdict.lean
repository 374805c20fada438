import CustomerKeys.Proofs.AcceptedSettings
import CustomerKeys.Proofs.RunIds
import CustomerKeys.Proofs.ScenarioOutcomes
import CustomerKeys.Proofs.Teardown

/-!
# The verdict of a run on the sandbox plane

Accepted settings leave two things open: whether the key lies in the region of the zones, and
whether a table's reads come to an end in time. The verdict of a run depends on these and on nothing
else, neither on what the plane holds besides nor on how the ids were chosen. `sandbox_verdict` says
so as one equivalence, together with the number of polls that a table reports.

The clock is taken to stand still during a run, and the handle to serve the configured project.
-/

namespace CustomerKeys

/-- Sound settings whose key lies in their region have their zones placed as they are meant. -/
theorem Settings.Sound.placed {settings : Settings} {now : UInt64} {name : KeyName}
    {region : String} (sound : settings.Sound now name region) (inRegion : region = name.location) :
    settings.Placed name where
  readsKey := sound.readsKey
  primary := sound.covers_primary_iff.mpr inRegion
  sibling := sound.covers_sibling_iff.mpr inRegion
  foreign := sound.covers_foreign_eq_false inRegion

/-- A verdict is a pass exactly when nothing failed. -/
theorem Outcome.verdict_eq_passed_iff {outcome : Outcome} :
    outcome.verdict = .passed ↔ outcome.failure = none := by
  unfold verdict
  split
  · rename_i passed
    simp [passed]
  · rename_i failed
    simp [failed]

/-- The configured key lies in the region of the primary zone. -/
def Settings.KeyInRegion (settings : Settings) : Prop :=
  ∃ name, KeyName.parse settings.key = .ok name ∧
    Zone.region settings.primaryZone = .ok name.location

/-- The key of sound settings has one location, and their primary zone one region. -/
theorem Settings.Sound.key_in_region_iff {settings : Settings} {now : UInt64} {name : KeyName}
    {region : String} (sound : settings.Sound now name region) :
    settings.KeyInRegion ↔ region = name.location := by
  constructor
  · rintro ⟨again, readsKey, primary⟩
    obtain rfl := Except.ok.inj (sound.readsKey.symm.trans readsKey)
    exact Except.ok.inj (sound.primary.symm.trans primary)
  · intro inRegion
    exact ⟨name, sound.readsKey, inRegion ▸ sound.primary⟩

/-- What the body of a scenario comes to on an instance that does not exist yet. -/
theorem Scenario.outcome_body {settings : Settings} {now : UInt64} {name : KeyName}
    {region : String} (sound : settings.Sound now name region) (handle : Handle)
    (own : handle.project = settings.project) {schedule : Schedule} (fits : schedule.Fits)
    (few : schedule.attempts + 1 < UInt32.size) (scenario : Scenario) {ids : ScenarioIds}
    (apart : ids.clusterId ≠ ids.secondClusterId) :
    ∃ outcome, ((scenario.body settings schedule now ids).run (handle.single now) none).outcome =
        .ok outcome ∧
      (outcome.failure = none ↔ region = name.location ∧ (scenario = .table →
        if settings.waitForKeyStatus then
          handle.transientFailures.toNat + handle.convergenceReads.toNat < schedule.attempts
        else handle.transientFailures.toNat = 0)) ∧
      (outcome.failure = none → scenario = .table → outcome.findings.pollAttempts =
        if settings.waitForKeyStatus then
          some (.ofNat (handle.transientFailures.toNat + handle.convergenceReads.toNat + 1))
        else none) := by
  by_cases inRegion : region = name.location
  · have placed := sound.placed inRegion
    cases scenario with
    | instanceCluster =>
      obtain ⟨found, ended⟩ := outcome_cluster_script handle now placed own apart
      exact ⟨_, ended, iff_of_true rfl ⟨inRegion, nofun⟩, fun _ => nofun⟩
    | table =>
      obtain ⟨outcome, ended, passes, polled⟩ := outcome_table_checks handle now
        ⟨ids.tableId, ids.instanceId, [scenarioFamily], now⟩ handle.transientFailures
        (Holdings.filed_of_specs _ _) (size_table_specs settings apart)
        (lookup_table_specs settings apart) rfl sound.readsKey fits few
      refine ⟨outcome, (outcome_table_script handle now placed schedule ids).trans ended, ?_, ?_⟩
      · simpa [inRegion] using passes
      · exact fun passed _ => polled passed
    | backup =>
      obtain ⟨found, ended⟩ :=
        outcome_backup_script handle now placed ids sound.hasLifetime sound.expires
      exact ⟨_, ended, iff_of_true rfl ⟨inRegion, nofun⟩, fun _ => nofun⟩
  · have outside : name.covers settings.primaryZone = false := by
      apply Bool.eq_false_iff.mpr
      intro covered
      exact inRegion (sound.covers_primary_iff.mp covered)
    obtain ⟨error, ended⟩ := outcome_body_of_not_covers handle now sound.readsKey outside scenario
      schedule ids none
    exact ⟨_, ended, iff_of_false nofun fun both => inRegion both.1, nofun⟩

namespace Harness

/-- The verdict of a run on the sandbox plane. A harness of accepted settings always reports when it
runs through a handle of the configured project under an instance id that is free. It reports a pass
exactly when the key lies in the region of the primary zone and, for a table, when the failures and
unconverged answers of the handle together are fewer than the waits or, without a wait, when there
are no failures. A table that passed after a wait was polled once more than that; without a wait no
polls are reported.

What the plane holds besides plays no part, since a run is confined to its own instance. Fewer than
2³¹ waits keep the counters of the table from wrapping. -/
theorem sandbox_verdict {settings : Settings} {now : UInt64} {harness : Harness}
    (accepted : Harness.ofSettings settings now = .ok harness)
    (few : settings.backoff.length < 2147483648) (fits : harness.schedule.Fits) (handle : Handle)
    (own : handle.project = settings.project) (plane : Plane) (scenario : Scenario) (stem : String)
    (epoch : UInt64)
    (fresh : plane.hasInstance (ScenarioIds.ofRun stem scenario epoch).instanceId = false) :
    ∃ report, ((harness.runWithIds now scenario (.ofRun stem scenario epoch)).run
        (handle.client now) plane).outcome = .ok report ∧
      (report.verdict = .passed ↔ settings.KeyInRegion ∧ (scenario = .table →
        if settings.waitForKeyStatus then
          handle.transientFailures.toNat + handle.convergenceReads.toNat < settings.backoff.length
        else handle.transientFailures.toNat = 0)) ∧
      (report.verdict = .passed → scenario = .table →
        report.findings.pollAttempts.map UInt64.toNat = if settings.waitForKeyStatus then
          some (handle.transientFailures.toNat + handle.convergenceReads.toNat + 1)
        else none) := by
  obtain ⟨⟨name, region, sound⟩, rfl, scheduled⟩ := of_settings_eq_ok_iff.mp accepted
  have counted := Settings.attempts_of_schedule scheduled
  have small : harness.schedule.attempts + 1 < UInt32.size := by
    simp only [UInt32.size]
    omega
  have confined := Scenario.body_confined harness.settings (.ofRun stem scenario epoch) scenario
    fits now
  obtain ⟨outcome, alone, passes, polled⟩ := Scenario.outcome_body sound handle own fits small
    scenario (ScenarioIds.cluster_id_ne_second_cluster_id stem scenario epoch)
  have ended : ((scenario.body harness.settings harness.schedule now
      (.ofRun stem scenario epoch)).run (handle.client now) plane).outcome = .ok outcome := by
    rw [confined.run_client, Plane.lookup_eq_none_of_has_instance fresh]
    exact alone
  refine ⟨report scenario (.ofRun stem scenario epoch) outcome, ?_, ?_, ?_⟩
  · rw [harness.run_run_with_ids now scenario _ (handle.client now) ended]
  · rw [report, Outcome.verdict_eq_passed_iff, passes, sound.key_in_region_iff, counted]
  · intro passed table
    have failures := handle.transientFailures.toNat_lt
    have reads := handle.convergenceReads.toNat_lt
    have bounded : handle.transientFailures.toNat + handle.convergenceReads.toNat + 1 <
        UInt64.size := by
      simp only [UInt64.size]
      omega
    change outcome.findings.pollAttempts.map UInt64.toNat = _
    rw [polled (Outcome.verdict_eq_passed_iff.mp passed) table]
    split
    · exact congrArg some (UInt64.toNat_ofNat_of_lt' bounded)
    · rfl

/-- Six polls see a table through three failures and two unconverged answers, beside an instance
that stays. -/
theorem waiting_table_verdict :
    let key := "projects/p/locations/us-central1/keyRings/r/cryptoKeys/k"
    let settings := { Settings.scaffold "p" key with waitForKeyStatus := true }
    let harness : Harness := ⟨settings, .usual⟩
    let handle : Handle := ⟨"p", 2, 3⟩
    let plane := Plane.empty.put "kept" (some (.ofSpecs "kept" [⟨"c", "a-b", 1, .ssd, none⟩]))
    let ids := ScenarioIds.ofRun "cmek-it-" .table 7
    Harness.ofSettings settings 7 = .ok harness ∧ settings.backoff.length < 2147483648 ∧
      harness.schedule.Fits ∧ handle.project = settings.project ∧
      plane.hasInstance ids.instanceId = false ∧
      ∃ report, ((harness.runWithIds 7 .table ids).run (handle.client 7) plane).outcome =
          .ok report ∧
        report.verdict = .passed ∧ report.findings.pollAttempts.map UInt64.toNat = some 6 := by
  intro key settings harness handle plane ids
  have pieces : key.toList.splitOn '/' = ["projects".toList, "p".toList, "locations".toList,
      "us-central1".toList, "keyRings".toList, "r".toList, "cryptoKeys".toList, "k".toList] := by
    decide
  have readsKey : KeyName.parse key = .ok ⟨"p", "us-central1", "r", "k"⟩ := by
    rw [KeyName.parse, pieces]
    rfl
  have sound := Settings.sound_scaffold (by decide : "p" ≠ "") readsKey true
    (by decide : (timeAfter? 7 Settings.usualBackupLifetime).isSome)
  have scheduled : settings.schedule = .ok harness.schedule := rfl
  have accepted := of_settings_eq_ok_iff.mpr ⟨⟨_, _, sound⟩, rfl, scheduled⟩
  have few : settings.backoff.length < 2147483648 := by decide
  have fits : harness.schedule.Fits := by decide
  have own : handle.project = settings.project := rfl
  have fresh : plane.hasInstance ids.instanceId = false := by decide
  obtain ⟨report, ended, passes, polled⟩ :=
    sandbox_verdict accepted few fits handle own plane .table "cmek-it-" 7 fresh
  have passed : report.verdict = .passed :=
    passes.mpr ⟨sound.key_in_region_iff.mpr rfl, fun _ => by decide⟩
  exact ⟨accepted, few, fits, own, fresh, report, ended, passed, polled passed rfl⟩

end Harness

end CustomerKeys
