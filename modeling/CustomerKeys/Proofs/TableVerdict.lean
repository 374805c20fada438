import CustomerKeys.Proofs.KeyConfusion
import CustomerKeys.Proofs.SandboxVerdict

/-!
# The verdict of a table run against any client

A table run asks for its instance and its table, waits if it is told to, and looks at the table once
more. Whatever the client is, the verdict depends only on how these are answered: `TableTold` says
that nothing stands in the way of the last look, and `ReportExpected` what it has to show. A pass
carries the metadata that was judged, the number of entries and the polls of the wait.

A script succeeds with certain findings exactly when each of its calls is answered and the last
judgement accepts. There is one equivalence for each way a script is put together, and the theorem
on the whole run follows them from the first call to the last.
-/

namespace CustomerKeys

variable {σ : Type}

/-- The script comes to its end without a failure, having found this. -/
def Script.Succeeds (script : Script Outcome) (client : Client σ) (state : σ) (found : Findings) :
    Prop :=
  (script.run client state).outcome = .ok (.success found)

namespace Scenario

section Steps

variable (client : Client σ) (state : σ)

/-- Succeeding is one way to end. -/
theorem succeeds_iff_ends {script : Script Outcome} {seen : Findings} :
    script.Succeeds client state seen ↔ script.Ends client state (· = .success seen) := by
  simp [Script.Succeeds, Script.Ends]

/-- A script that has ended succeeds with the findings of its outcome. -/
theorem done_succeeds_iff {outcome : Outcome} {seen : Findings} :
    (Script.done outcome).Succeeds client state seen ↔ outcome = .success seen :=
  (succeeds_iff_ends client state).trans (Script.done_ends_iff client)

/-- A call that must succeed is answered, and what follows the answer succeeds. -/
theorem expect_answer_succeeds_iff {found : Findings} {request : Request}
    {answered : request.Answer → Script Outcome} {seen : Findings} :
    (expectAnswer found request answered).Succeeds client state seen ↔
      ∃ answer, (client request state).1 = .ok answer ∧
        (answered answer).Succeeds client (client request state).2 seen := by
  simp only [succeeds_iff_ends]
  exact expect_answer_ends_iff client fun _ => nofun

/-- A part that is bound comes to a value, and what follows the value succeeds. -/
theorem bind_succeeds_iff {α : Type} {script : Script α} {rest : α → Script Outcome}
    {seen : Findings} : (script.bind rest).Succeeds client state seen ↔
      ∃ value, (script.run client state).outcome = .ok value ∧
        (rest value).Succeeds client (script.run client state).state seen := by
  simp only [succeeds_iff_ends]
  exact Script.bind_ends_iff client

end Steps

variable {settings : Settings} {ids : ScenarioIds}

/-- What the judgement of an expected report finds. -/
theorem findings_judge_report (found : Findings) {report : EncryptionReport}
    {encryption : Encryption} (expected : ReportExpected settings ids report)
    (listed : report[ids.clusterId]? = some [encryption]) :
    (judgeReport settings ids found report).findings =
      { found with clusterEntries := some 2, encryption := some encryption } := by
  simp only [judgeReport, expected.1, ne_eq, not_true_eq_false, if_false]
  split
  · rename_i clusterId entries odd
    obtain ⟨kept, several⟩ := listed_of_find? odd
    exact absurd (expected.2.1 clusterId entries kept) several
  · simp only [listed]
    rfl

/-- The judgement of a report accepts exactly the expected ones, and keeps the metadata of the first
cluster and the number of entries. -/
theorem judge_report_eq_success_iff {found seen : Findings} {report : EncryptionReport} :
    judgeReport settings ids found report = .success seen ↔
      ReportExpected settings ids report ∧
        ∃ encryption, report[ids.clusterId]? = some [encryption] ∧
          seen = { found with clusterEntries := some 2, encryption := some encryption } := by
  constructor
  · intro judged
    have expected : ReportExpected settings ids report :=
      judge_report_passes_iff.mp (congrArg Outcome.failure judged)
    obtain ⟨encryption, listed, -⟩ := expected.2.2
    have kept := findings_judge_report found expected listed
    exact ⟨expected, encryption, listed, (congrArg Outcome.findings judged).symm.trans kept⟩
  · rintro ⟨expected, encryption, listed, rfl⟩
    have kept := findings_judge_report found expected listed
    have passes : (judgeReport settings ids found report).failure = none :=
      judge_report_passes_iff.mpr expected
    calc judgeReport settings ids found report
        = ⟨(judgeReport settings ids found report).findings,
            (judgeReport settings ids found report).failure⟩ := rfl
      _ = _ := by rw [kept, passes]; rfl

section TableRun

variable (settings : Settings) (schedule : Schedule) (ids : ScenarioIds) (client : Client σ)
  (state : σ)

/-- The reply to the creation of the instance, and the client after it. -/
def instanceReply : Except AdminError Instance × σ :=
  client (.createInstance ids.instanceId (tableSpecs settings ids)) state

/-- The reply to the creation of the table. -/
def tableReply : Except AdminError Table × σ :=
  client (.createTable ids.instanceId ids.tableId [scenarioFamily])
    (instanceReply settings ids client state).2

/-- The wait, as it goes when it comes after the creation of the table. -/
def tableWait : Run σ (Except ConvergenceError Convergence) :=
  (Watch.script ⟨ids.instanceId, ids.tableId, ids.clusterId⟩ schedule).run client
    (tableReply settings ids client state).2

/-- The reply to the last look at the table. It is taken after the wait, if there is one. -/
def lastReply : Except AdminError EncryptionReport × σ :=
  client (.getEncryption ids.instanceId ids.tableId)
    (if settings.waitForKeyStatus then (tableWait settings schedule ids client state).state
      else (tableReply settings ids client state).2)

/-- The wait, if there is one, is successful after so many polls. Without a wait there are none. -/
def Polled (polls : Option Nat) : Prop :=
  if settings.waitForKeyStatus then
    ∃ convergence, (tableWait settings schedule ids client state).outcome = .ok (.ok convergence) ∧
      polls = some convergence.attempts
  else polls = none

/-- What a table run is told when nothing stops it before the last look: the instance and the table
are made, the wait comes to its end, and the report is answered. -/
structure TableTold (polls : Option Nat) (report : EncryptionReport) : Prop where
  created : ∃ made, (instanceReply settings ids client state).1 = .ok made
  tabled : ∃ table, (tableReply settings ids client state).1 = .ok table
  polled : Polled settings schedule ids client state polls
  reported : (lastReply settings schedule ids client state).1 = .ok report

/-- The findings of a table run that passes. -/
def tableFindings (polls : Option Nat) (encryption : Encryption) : Findings where
  encryption := some encryption
  clusterEntries := some 2
  pollAttempts := polls.map UInt64.ofNat
  rejection := none

variable {settings schedule ids client state}

/-- Polls are counted exactly when there is a wait. -/
theorem Polled.is_some_eq {polls : Option Nat}
    (polled : Polled settings schedule ids client state polls) :
    polls.isSome = settings.waitForKeyStatus := by
  unfold Polled at polled
  split at polled
  · rename_i waits
    obtain ⟨convergence, -, rfl⟩ := polled
    exact waits.symm
  · rename_i waits
    subst polled
    exact (Bool.eq_false_iff.mpr waits).symm

/-- A client leaves no choice in what it tells. -/
theorem TableTold.unique {polls again : Option Nat} {report other : EncryptionReport}
    (told : TableTold settings schedule ids client state polls report)
    (retold : TableTold settings schedule ids client state again other) :
    again = polls ∧ other = report := by
  refine ⟨?_, Except.ok.inj (retold.reported.symm.trans told.reported)⟩
  have first := told.polled
  have second := retold.polled
  unfold Polled at first second
  split at first
  · rename_i waits
    rw [if_pos waits] at second
    obtain ⟨convergence, ended, rfl⟩ := first
    obtain ⟨same, endedAgain, rfl⟩ := second
    rw [Except.ok.inj (Except.ok.inj (endedAgain.symm.trans ended))]
  · rename_i waits
    rw [if_neg waits] at second
    exact second.trans first.symm

/-- The last look at a table succeeds when it is answered with an expected report. -/
theorem inspect_table_succeeds_iff (polls : Option Nat) {seen : Findings} :
    (inspectTable settings ids { Findings.nothing with
        pollAttempts := polls.map UInt64.ofNat }).Succeeds client state seen ↔
      ∃ report, (client (.getEncryption ids.instanceId ids.tableId) state).1 = .ok report ∧
        ReportExpected settings ids report ∧ ∃ encryption,
          report[ids.clusterId]? = some [encryption] ∧ seen = tableFindings polls encryption := by
  unfold inspectTable
  simp only [expect_answer_succeeds_iff, done_succeeds_iff, judge_report_eq_success_iff]
  rfl

/-- What a table run does after its creations succeeds when the wait does, if there is one, and the
last look is answered with an expected report. -/
theorem table_checks_succeeds_iff {seen : Findings} :
    (tableChecks settings schedule ids).Succeeds client (tableReply settings ids client state).2
        seen ↔
      ∃ polls report, Polled settings schedule ids client state polls ∧
        (lastReply settings schedule ids client state).1 = .ok report ∧
        ReportExpected settings ids report ∧ ∃ encryption,
          report[ids.clusterId]? = some [encryption] ∧ seen = tableFindings polls encryption := by
  by_cases waits : settings.waitForKeyStatus = true
  · rw [tableChecks, if_pos waits, bind_succeeds_iff]
    simp only [Polled, lastReply, if_pos waits]
    constructor
    · rintro ⟨result, ended, succeeds⟩
      cases result with
      | error error => cases Except.ok.inj succeeds
      | ok convergence =>
        obtain ⟨report, answered, judged⟩ :=
          (inspect_table_succeeds_iff (some convergence.attempts)).mp succeeds
        exact ⟨_, report, ⟨convergence, ended, rfl⟩, answered, judged⟩
    · rintro ⟨_, report, ⟨convergence, ended, rfl⟩, answered, judged⟩
      exact ⟨_, ended, (inspect_table_succeeds_iff (some convergence.attempts)).mpr
        ⟨report, answered, judged⟩⟩
  · rw [tableChecks, if_neg waits]
    simp only [Polled, lastReply, if_neg waits]
    constructor
    · intro succeeds
      obtain ⟨report, answered, judged⟩ := (inspect_table_succeeds_iff none).mp succeeds
      exact ⟨none, report, rfl, answered, judged⟩
    · rintro ⟨_, report, rfl, answered, judged⟩
      exact (inspect_table_succeeds_iff none).mpr ⟨report, answered, judged⟩

/-- A table run succeeds when nothing stops it and the last look shows what is expected. -/
theorem table_script_succeeds_iff {seen : Findings} :
    (tableScript settings schedule ids).Succeeds client state seen ↔
      ∃ polls report, TableTold settings schedule ids client state polls report ∧
        ReportExpected settings ids report ∧ ∃ encryption,
          report[ids.clusterId]? = some [encryption] ∧ seen = tableFindings polls encryption := by
  have creation : (tableScript settings schedule ids).Succeeds client state seen ↔
      ∃ made, (instanceReply settings ids client state).1 = .ok made ∧
        ∃ table, (tableReply settings ids client state).1 = .ok table ∧
          (tableChecks settings schedule ids).Succeeds client
            (tableReply settings ids client state).2 seen :=
    (expect_answer_succeeds_iff client state).trans <|
      exists_congr fun _ => and_congr_right' (expect_answer_succeeds_iff client _)
  rw [creation, table_checks_succeeds_iff]
  constructor
  · rintro ⟨made, created, table, tabled, polls, report, polled, reported, judged⟩
    exact ⟨polls, report, ⟨⟨made, created⟩, ⟨table, tabled⟩, polled, reported⟩, judged⟩
  · rintro ⟨polls, report, ⟨⟨made, created⟩, ⟨table, tabled⟩, polled, reported⟩, judged⟩
    exact ⟨made, created, table, tabled, polls, report, polled, reported, judged⟩

end TableRun

end Scenario

namespace Harness

/-- The verdict of a table run, whatever the client. With a schedule whose waits add up the run
always reports. It reports a pass exactly when the creations are answered, the wait is successful,
and the look after it is answered with two entries of one item each, of which the one for the first
cluster is managed by the customer and has converged under the configured key or, without a wait, is
still transient. A pass reports that very item, the two entries, the polls if there was a wait, and
no rejection. -/
theorem table_verdict_exact (harness : Harness) (fits : harness.schedule.Fits) (now : UInt64)
    (ids : ScenarioIds) (client : Client σ) (state : σ) :
    ∃ report, ((harness.runWithIds now .table ids).run client state).outcome = .ok report ∧
      (report.verdict = .passed ↔ ∃ polls told,
        Scenario.TableTold harness.settings harness.schedule ids client state polls told ∧
        Scenario.ReportExpected harness.settings ids told) ∧
      (report.verdict = .passed → ∃ polls told encryption,
        Scenario.TableTold harness.settings harness.schedule ids client state polls told ∧
        told[ids.clusterId]? = some [encryption] ∧
        report.findings = ⟨some encryption, some 2, polls.map UInt64.ofNat, none⟩ ∧
        report.findings.pollAttempts.isSome = harness.settings.waitForKeyStatus) := by
  obtain ⟨outcome, ended⟩ :=
    (Scenario.table_script_confined harness.settings ids fits).exists_value client state
  have succeeds {seen : Findings} : outcome = .success seen ↔
      (Scenario.tableScript harness.settings harness.schedule ids).Succeeds client state seen := by
    rw [Script.Succeeds, ended, Except.ok.injEq]
  have passes : (report .table ids outcome).verdict = .passed ↔
      outcome = .success outcome.findings := by
    rw [report, Outcome.verdict_eq_passed_iff]
    constructor
    · intro unfailed
      exact congrArg (Outcome.mk outcome.findings) unfailed
    · intro success
      exact congrArg Outcome.failure success
  refine ⟨report .table ids outcome, ?_, ?_, ?_⟩
  · rw [harness.run_run_with_ids now .table ids client ended]
  · constructor
    · intro passed
      obtain ⟨polls, told, whole, expected, -⟩ :=
        Scenario.table_script_succeeds_iff.mp (succeeds.mp (passes.mp passed))
      exact ⟨polls, told, whole, expected⟩
    · rintro ⟨polls, told, whole, expected⟩
      obtain ⟨encryption, listed, -⟩ := expected.2.2
      have success := succeeds.mpr (Scenario.table_script_succeeds_iff.mpr
        ⟨polls, told, whole, expected, encryption, listed, rfl⟩)
      rw [success] at passes ⊢
      exact passes.mpr rfl
  · intro passed
    obtain ⟨polls, told, whole, expected, encryption, listed, found⟩ :=
      Scenario.table_script_succeeds_iff.mp (succeeds.mp (passes.mp passed))
    refine ⟨polls, told, encryption, whole, listed, found, ?_⟩
    rw [← whole.polled.is_some_eq]
    calc outcome.findings.pollAttempts.isSome
        = (polls.map UInt64.ofNat).isSome := by rw [found]; rfl
      _ = polls.isSome := Option.isSome_map ..

/-- A client that protects everything by one version of the configured key is waited for with one
poll, and the run passes with its metadata. -/
theorem protected_table_verdict :
    let key := "projects/p/locations/us-central1/keyRings/r/cryptoKeys/k"
    let version := key ++ "/cryptoKeyVersions/1"
    let harness : Harness := ⟨{ Settings.scaffold "p" key with waitForKeyStatus := true }, .usual⟩
    let ids := ScenarioIds.ofRun "cmek-it-" .table 7
    harness.schedule.Fits ∧ ∃ report,
      ((harness.runWithIds 7 .table ids).run (Client.protecting ids.clusterId version) ()).outcome =
        .ok report ∧ report.verdict = .passed ∧
      report.findings = ⟨some (.converged version), some 2, some 1, none⟩ := by
  intro key version harness ids
  let client := Client.protecting ids.clusterId version
  let watch : Watch := ⟨ids.instanceId, ids.tableId, ids.clusterId⟩
  have fits : harness.schedule.Fits := by decide
  have listed := lookup_uniform_report ids.clusterId version
  have owned : (Encryption.converged version).hasVersionOf harness.settings.key = true := by decide
  have shown : watch.Shows (client.reply watch.request 0 ()) [.converged version] :=
    ⟨uniformReport ids.clusterId version, rfl, listed⟩
  obtain ⟨waited, -, run⟩ := watch.run_script_decisive client fits harness.schedule.attempts_pos
    (fun place early => absurd early (Nat.not_lt_zero place)) shown (.inr ⟨_, rfl, rfl⟩)
  have told : Scenario.TableTold harness.settings harness.schedule ids client () (some 1)
      (uniformReport ids.clusterId version) :=
    ⟨⟨_, rfl⟩, ⟨_, rfl⟩, ⟨_, congrArg Run.outcome run, rfl⟩, rfl⟩
  obtain ⟨report, ended, passes, found⟩ := table_verdict_exact harness fits 7 ids client ()
  have passed := passes.mpr ⟨_, _, told, Scenario.report_expected_uniform_report owned⟩
  refine ⟨fits, report, ended, passed, ?_⟩
  obtain ⟨polls, other, encryption, retold, entry, findings, -⟩ := found passed
  obtain ⟨rfl, rfl⟩ := told.unique retold
  obtain ⟨same, -⟩ := List.cons.inj (Option.some.inj (entry.symm.trans listed))
  rw [findings, same]
  rfl

end Harness

end CustomerKeys
