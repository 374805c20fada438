import CustomerKeys.Proofs.TableVerdict
import Mathlib.Data.Finset.Card

/-!
# Which clusters a table run takes for its own

A table run creates an instance with two clusters and expects one entry for each of them when it
looks at the table. It judges the entry of the first cluster, and for the second it only counts. So
a run can pass on a report of the first cluster and any other one, whatever the second cluster of
the instance is called, and on no report of other clusters.

What a passing run was told names both its clusters exactly when the second one is among the
entries, which the run does not check. Nothing is known of a cluster that takes its place.
-/

namespace CustomerKeys

/-- A client that creates what it is asked for and has the same report on every table. -/
def Client.reporting (report : EncryptionReport) : Client Unit := fun request state =>
  match request with
  | .getEncryption .. => (.ok report, state)
  | request => Client.protecting "" "" request state

/-- The ids under which a report has entries. -/
def EncryptionReport.clusterIds (report : EncryptionReport) : Finset String :=
  report.keys.toFinset

namespace EncryptionReport

variable {report : EncryptionReport}

/-- A report names the clusters for which it has entries. -/
theorem mem_cluster_ids {clusterId : String} :
    clusterId ∈ report.clusterIds ↔ ∃ entries, report[clusterId]? = some entries := by
  rw [clusterIds, List.mem_toFinset, Std.ExtTreeMap.mem_keys,
    Std.ExtTreeMap.mem_iff_isSome_getElem?, Option.isSome_iff_exists]

/-- There are as many ids as entries. -/
theorem card_cluster_ids : report.clusterIds.card = report.size := by
  rw [clusterIds, List.toFinset_card_of_nodup Std.ExtTreeMap.nodup_keys,
    Std.ExtTreeMap.length_keys]

/-- The ids of a report on two clusters. -/
theorem cluster_ids_pair_report (first second : String) (encryption : Encryption) :
    clusterIds (pairReport first second encryption) = {first, second} := by
  ext clusterId
  rw [clusterIds, List.mem_toFinset, Std.ExtTreeMap.mem_keys]
  simp [pairReport, @eq_comm _ _ clusterId]

end EncryptionReport

/-- A set of two ids has one besides a known one. -/
theorem exists_other_of_card {clusterIds : Finset String} {clusterId : String}
    (inside : clusterId ∈ clusterIds) (two : clusterIds.card = 2) :
    ∃ other ≠ clusterId, clusterIds = {clusterId, other} := by
  obtain ⟨first, second, apart, rfl⟩ := Finset.card_eq_two.mp two
  obtain rfl | same := Finset.mem_insert.mp inside
  · exact ⟨second, apart.symm, rfl⟩
  · obtain rfl := Finset.mem_singleton.mp same
    exact ⟨first, apart, Finset.pair_comm first clusterId⟩

namespace Scenario

variable {settings : Settings} {ids : ScenarioIds}

/-- The clusters of an expected report are two, and the first cluster of the run is one of them. -/
theorem ReportExpected.cluster_ids {report : EncryptionReport}
    (expected : ReportExpected settings ids report) :
    ids.clusterId ∈ report.clusterIds ∧ report.clusterIds.card = 2 := by
  obtain ⟨two, -, encryption, listed, -⟩ := expected
  exact ⟨EncryptionReport.mem_cluster_ids.mpr ⟨_, listed⟩,
    EncryptionReport.card_cluster_ids.trans two⟩

/-- A client that always has the same report is waited for with one poll when the report is final
for the first cluster, and then tells that report. -/
theorem exists_table_told_reporting {report : EncryptionReport} {encryption : Encryption}
    (listed : report[ids.clusterId]? = some [encryption]) (good : encryption.status.code = .ok)
    (settings : Settings) (schedule : Schedule) :
    ∃ polls, TableTold settings schedule ids (Client.reporting report) () polls report := by
  let watch : Watch := ⟨ids.instanceId, ids.tableId, ids.clusterId⟩
  have shown : watch.Shows (Client.reporting report watch.request ()).1 [encryption] :=
    ⟨report, rfl, listed⟩
  have run := watch.run_follow_decisive (Client.reporting report) schedule 0 .zero shown
    (.inr ⟨encryption, rfl, good⟩)
  have polled : ∃ polls, Polled settings schedule ids (Client.reporting report) () polls := by
    unfold Polled
    split
    · exact ⟨some 1, _, congrArg Run.outcome run, rfl⟩
    · exact ⟨none, rfl⟩
  obtain ⟨polls, polled⟩ := polled
  exact ⟨polls, ⟨_, rfl⟩, ⟨_, rfl⟩, polled, rfl⟩

end Scenario

namespace Harness

/-- Some client makes a table run pass whose last look is told of these clusters and no others. -/
def CanPassReporting (harness : Harness) (now : UInt64) (ids : ScenarioIds)
    (clusterIds : Finset String) : Prop :=
  ∃ (σ : Type) (client : Client σ) (state : σ) (report : Report) (polls : Option Nat)
      (told : EncryptionReport),
    ((harness.runWithIds now .table ids).run client state).outcome = .ok report ∧
    report.verdict = .passed ∧
    Scenario.TableTold harness.settings harness.schedule ids client state polls told ∧
    told.clusterIds = clusterIds

variable (harness : Harness) (now : UInt64) (ids : ScenarioIds) {σ : Type} {client : Client σ}
  {state : σ}

/-- A table run that passes was told an expected report. -/
theorem exists_told_of_passed {report : Report}
    (ended : ((harness.runWithIds now .table ids).run client state).outcome = .ok report)
    (passed : report.verdict = .passed) :
    ∃ polls told, Scenario.TableTold harness.settings harness.schedule ids client state polls told ∧
      Scenario.ReportExpected harness.settings ids told := by
  obtain ⟨outcome, came, rfl⟩ := harness.exists_outcome_of_report now .table ids ended
  have success : outcome = .success outcome.findings :=
    congrArg (Outcome.mk outcome.findings) (Outcome.verdict_eq_passed_iff.mp passed)
  obtain ⟨polls, told, whole, expected, -⟩ :=
    Scenario.table_script_succeeds_iff.mp (came.trans (congrArg Except.ok success))
  exact ⟨polls, told, whole, expected⟩

/-- A table run that is told an expected report passes. -/
theorem exists_passed_of_told {polls : Option Nat} {told : EncryptionReport}
    (whole : Scenario.TableTold harness.settings harness.schedule ids client state polls told)
    (expected : Scenario.ReportExpected harness.settings ids told) :
    ∃ report, ((harness.runWithIds now .table ids).run client state).outcome = .ok report ∧
      report.verdict = .passed := by
  obtain ⟨encryption, listed, -⟩ := expected.2.2
  have succeeds : (Scenario.tableScript harness.settings harness.schedule ids).Succeeds client state
      (Scenario.tableFindings polls encryption) :=
    Scenario.table_script_succeeds_iff.mpr ⟨polls, told, whole, expected, encryption, listed, rfl⟩
  refine ⟨report .table ids (.success (Scenario.tableFindings polls encryption)), ?_, rfl⟩
  rw [harness.run_run_with_ids now .table ids client succeeds]

/-- A run can pass on a report of its first cluster and any other one. -/
theorem can_pass_reporting_pair {other : String} (apart : other ≠ ids.clusterId) :
    harness.CanPassReporting now ids {ids.clusterId, other} := by
  let version := harness.settings.key ++ "/cryptoKeyVersions/1"
  let report := pairReport ids.clusterId other (.converged version)
  have owned : (Encryption.converged version).hasVersionOf harness.settings.key = true := by
    have begins : harness.settings.key.toList <+: version.toList := by
      rw [String.toList_append]
      exact List.prefix_append _ _
    exact List.isPrefixOf_iff_prefix.mpr begins
  have listed : report[ids.clusterId]? = some [.converged version] := lookup_pair_report
  obtain ⟨polls, whole⟩ :=
    Scenario.exists_table_told_reporting listed rfl harness.settings harness.schedule
  obtain ⟨reported, ended, passed⟩ := harness.exists_passed_of_told now ids whole
    (Scenario.report_expected_pair_report apart owned)
  exact ⟨Unit, _, (), reported, polls, report, ended, passed, whole,
    EncryptionReport.cluster_ids_pair_report ..⟩

/-- A table run counts its clusters and knows only the first of them. There is a client that makes
it pass on a report of certain clusters exactly when the first cluster of the run is one of them and
they are two. So whatever the client, a run that passes was told of the two clusters that it created
exactly when these are different and the second one was reported. -/
theorem passed_table_names_first_cluster :
    (∀ clusterIds : Finset String, harness.CanPassReporting now ids clusterIds ↔
      ids.clusterId ∈ clusterIds ∧ clusterIds.card = 2) ∧
    ∀ clusterIds : Finset String, harness.CanPassReporting now ids clusterIds →
      (clusterIds = {ids.clusterId, ids.secondClusterId} ↔
        ids.secondClusterId ≠ ids.clusterId ∧ ids.secondClusterId ∈ clusterIds) := by
  have named (clusterIds : Finset String) (passes : harness.CanPassReporting now ids clusterIds) :
      ids.clusterId ∈ clusterIds ∧ clusterIds.card = 2 := by
    obtain ⟨σ, client, state, report, polls, told, ended, passed, whole, rfl⟩ := passes
    obtain ⟨again, retold, rewhole, expected⟩ :=
      harness.exists_told_of_passed now ids ended passed
    obtain ⟨-, rfl⟩ := whole.unique rewhole
    exact expected.cluster_ids
  refine ⟨?_, ?_⟩
  · intro clusterIds
    refine ⟨named clusterIds, ?_⟩
    rintro ⟨inside, two⟩
    obtain ⟨other, apart, rfl⟩ := exists_other_of_card inside two
    exact harness.can_pass_reporting_pair now ids apart
  · intro clusterIds passes
    obtain ⟨inside, two⟩ := named clusterIds passes
    obtain ⟨other, apart, rfl⟩ := exists_other_of_card inside two
    constructor
    · intro same
      have listed : other ∈ ({ids.clusterId, ids.secondClusterId} : Finset String) := by
        simp [← same]
      have second : other = ids.secondClusterId := by simpa [apart] using listed
      exact ⟨second ▸ apart, by simp [second]⟩
    · rintro ⟨different, reported⟩
      have second : ids.secondClusterId = other := by simpa [different] using reported
      rw [second]

/-- A run can pass when both its clusters are reported, but not on the first one alone and not on
others without it. -/
theorem both_created_clusters_pass :
    let key := "projects/p/locations/us-central1/keyRings/r/cryptoKeys/k"
    let harness : Harness := ⟨Settings.scaffold "p" key, .usual⟩
    let ids := ScenarioIds.ofRun "cmek-it-" .table 7
    harness.CanPassReporting 7 ids {ids.clusterId, ids.secondClusterId} ∧
      ¬ harness.CanPassReporting 7 ids {ids.clusterId} ∧
      ¬ harness.CanPassReporting 7 ids {ids.secondClusterId, "stranger"} := by
  intro key harness ids
  obtain ⟨passes_iff, -⟩ := harness.passed_table_names_first_cluster 7 ids
  refine ⟨(passes_iff _).mpr (by decide), ?_, ?_⟩
  · intro passes
    exact absurd ((passes_iff _).mp passes).2 (by decide)
  · intro passes
    exact absurd ((passes_iff _).mp passes).1 (by decide)

/-- A run with the settings of a scaffold passes on a report in which a cluster that nobody created
stands in for the second one. -/
theorem stranger_stands_in_for_second_cluster :
    let key := "projects/p/locations/us-central1/keyRings/r/cryptoKeys/k"
    let harness : Harness := ⟨Settings.scaffold "p" key, .usual⟩
    let ids := ScenarioIds.ofRun "cmek-it-" .table 7
    Harness.ofSettings (.scaffold "p" key) 7 = .ok harness ∧
      harness.CanPassReporting 7 ids {ids.clusterId, "stranger"} ∧
      ({ids.clusterId, "stranger"} : Finset String) ≠ {ids.clusterId, ids.secondClusterId} := by
  intro key harness ids
  have readsKey : KeyName.parse key = .ok ⟨"p", "us-central1", "r", "k"⟩ :=
    KeyName.parse_eq_ok_iff.mpr ⟨by decide, by decide⟩
  have accepted : Harness.ofSettings (.scaffold "p" key) 7 = .ok harness :=
    Harness.of_settings_scaffold (by decide) readsKey (by decide)
  refine ⟨accepted, harness.can_pass_reporting_pair 7 ids (by decide), by decide⟩

end Harness

end CustomerKeys
