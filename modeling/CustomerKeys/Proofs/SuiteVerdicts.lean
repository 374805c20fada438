import CustomerKeys.Proofs.SandboxVerdict
import CustomerKeys.Proofs.Suite

/-!
# The verdicts of a suite on a plane of its own

A suite runs different scenarios at the same time on a plane that is empty at first. In every
interleaving each of them reports what it reports alone, so there is one list of reports, in the
order of the scenarios, and whether a report has passed depends on the settings and on the counters
of the handle.

All reports have passed exactly when the key lies in the region of the primary zone and, if tables
are among the scenarios, the reads of a table come to an end in time.
-/

namespace CustomerKeys

/-- What settings and the counters of a handle must meet for all of some scenarios to pass. -/
def Settings.AllPass (settings : Settings) (handle : Handle) (scenarios : List Scenario) : Prop :=
  settings.KeyInRegion ∧ (.table ∈ scenarios →
    if settings.waitForKeyStatus then
      handle.transientFailures.toNat + handle.convergenceReads.toNat < settings.backoff.length
    else handle.transientFailures.toNat = 0)

/-- Scenarios all pass when each of them does. -/
theorem Settings.all_pass_iff_forall {settings : Settings} {handle : Handle}
    {scenarios : List Scenario} (several : scenarios ≠ []) :
    settings.AllPass handle scenarios ↔
      ∀ scenario ∈ scenarios, settings.AllPass handle [scenario] := by
  constructor
  · rintro ⟨inRegion, enough⟩ scenario listed
    exact ⟨inRegion, fun table => enough (List.mem_singleton.mp table ▸ listed)⟩
  · intro each
    obtain ⟨first, listed⟩ := List.exists_mem_of_ne_nil scenarios several
    refine ⟨(each first listed).1, fun table => ?_⟩
    exact (each .table table).2 List.mem_cons_self

/-- How many of some reports tell of a failed run, by what their verdicts say. -/
def Report.failures (reports : List Report) : Nat :=
  reports.countP fun report => report.verdict ≠ .passed

/-- Of reports that are judged one by one, none tells of a failed run exactly when all scenarios
pass. -/
theorem Report.failures_eq_zero_iff {settings : Settings} {handle : Handle}
    {reports : List Report} (several : reports ≠ [])
    (judged : ∀ report ∈ reports,
      (report.verdict = .passed ↔ settings.AllPass handle [report.scenario])) :
    failures reports = 0 ↔ settings.AllPass handle (reports.map Report.scenario) := by
  rw [failures, List.countP_eq_zero, Settings.all_pass_iff_forall (by simpa using several),
    List.forall_mem_map]
  refine forall₂_congr fun report listed => ?_
  rw [← judged report listed]
  simp

namespace Harness

/-- The lone run of a scenario on an instance that does not exist yet ends with a report, which has
passed exactly when the scenario should, and leaves no instance. -/
theorem exists_judged_report {settings : Settings} {now : UInt64} {harness : Harness}
    (accepted : Harness.ofSettings settings now = .ok harness)
    (few : settings.backoff.length < 2147483648) (fits : harness.schedule.Fits) (handle : Handle)
    (own : handle.project = settings.project) (start : Start) :
    ∃ report : Report, (report.scenario = start.scenario ∧
        (report.verdict = .passed ↔ settings.AllPass handle [start.scenario])) ∧
      ∃ events, (harness.started now start).run (handle.single now) none =
        ⟨.ok report, none, events⟩ := by
  obtain ⟨⟨name, region, sound⟩, rfl, scheduled⟩ := of_settings_eq_ok_iff.mp accepted
  have counted := Settings.attempts_of_schedule scheduled
  have small : harness.schedule.attempts + 1 < UInt32.size := by
    simp only [UInt32.size]
    omega
  have apart := ScenarioIds.cluster_id_ne_second_cluster_id harness.settings.idStem start.scenario
    start.epoch
  obtain ⟨outcome, ended, passes, -⟩ :=
    Scenario.outcome_body sound handle own fits small start.scenario apart
  have whole := harness.run_run_with_ids now start.scenario (harness.idsAt start)
    (handle.single now)
    ended
  simp only [handle.single_delete_instance] at whole
  refine ⟨report start.scenario (harness.idsAt start) outcome, ⟨rfl, ?_⟩, _, whole⟩
  have passed : (report start.scenario (harness.idsAt start) outcome).verdict = .passed ↔
      outcome.failure = none := Outcome.verdict_eq_passed_iff
  rw [passed, passes, Settings.AllPass, sound.key_in_region_iff, List.mem_singleton, counted]
  simp only [eq_comm]

/-- The suite of different scenarios on a plane of its own has one report for each scenario, in
order, whatever the interleaving. -/
theorem exists_suite_reports {settings : Settings} {now : UInt64} {harness : Harness}
    (accepted : Harness.ofSettings settings now = .ok harness)
    (few : settings.backoff.length < 2147483648) (fits : harness.schedule.Fits) (handle : Handle)
    (own : handle.project = settings.project) {scenarios : List Scenario}
    (distinct : scenarios.Nodup) :
    ∃ reports : List Report, reports.map Report.scenario = scenarios ∧
      (∀ report ∈ reports,
        (report.verdict = .passed ↔ settings.AllPass handle [report.scenario])) ∧
      harness.Undisturbed handle now .empty (scenarios.map (⟨·, now⟩)) reports ∧
      (harness.runSuite (handle.client now) now 1 scenarios .empty).1 = reports := by
  obtain ⟨expected, judged⟩ :=
    Classical.skolem.mp (harness.exists_judged_report accepted few fits handle own)
  have alone (start : Start) : ∃ events, (harness.started now start).run (handle.single now)
      Plane.empty[harness.address start]? = ⟨.ok (expected start), none, events⟩ :=
    (judged start).2
  let starts : List Start := scenarios.map (⟨·, now⟩)
  have started : starts.map Start.scenario = scenarios := by
    simp [starts, Function.comp_def]
  have undisturbed := harness.undisturbed handle now fits .empty (started.symm ▸ distinct)
    (fun _ _ => rfl) alone
  obtain ⟨count, last, walk, found⟩ :=
    harness.run_suite_walks (handle.client now) now 1 scenarios .empty []
  refine ⟨starts.map expected, ?_, ?_, undisturbed,
    (undisturbed.collects count last _ _ walk found).1⟩
  · rw [List.map_map]
    exact (List.map_congr_left fun start _ => (judged start).1.1).trans started
  · intro report listed
    obtain ⟨start, -, rfl⟩ := List.mem_map.mp listed
    rw [(judged start).1.1]
    exact (judged start).1.2

end Harness

end CustomerKeys
