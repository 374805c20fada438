import CustomerKeys.Command.Session
import CustomerKeys.Proofs.Arguments
import CustomerKeys.Proofs.LayeredOverrides
import CustomerKeys.Proofs.PrintedReports
import CustomerKeys.Proofs.SuiteVerdicts
import CustomerKeys.Proofs.WrittenSettings

/-!
# From the first settings to the end of a run

The settings that `init` prints are read back by `run` as they were. What may still change them on
the way are the override variables and the switch for waiting, neither of which touches the
schedule. So a run on printed settings gets as far as its suite whenever these changes are accepted,
prints one report for each selected scenario, and its exit code says whether all of them have
passed.

The clock stands still during a session, but it may have moved on between the two.
-/

namespace CustomerKeys

/-- What a selection stands for: all scenarios in their order, or the one that it names. -/
inductive Scenario.Selects : String → List Scenario → Prop
  | all : Selects "all" [.instanceCluster, .table, .backup]
  | instanceCluster : Selects "instance-cluster" [.instanceCluster]
  | table : Selects "table" [.table]
  | backup : Selects "backup" [.backup]

namespace Scenario.Selects

variable {selection : String} {selected : List Scenario} (selects : Selects selection selected)

include selects

/-- A selection is understood. -/
theorem select?_eq : select? selection = some selected := by
  cases selects <;> rfl

/-- Something is selected. -/
theorem nonempty : selected ≠ [] := by
  cases selects <;> exact List.cons_ne_nil _ _

/-- No scenario is selected twice. -/
theorem distinct : selected.Nodup := by
  cases selects <;> decide

end Scenario.Selects

namespace Settings

/-- The settings to start from are accepted for every project and every key that can be read. -/
theorem validate_scaffold_iff {project key : String} {now : UInt64}
    (early : (timeAfter? now usualBackupLifetime).isSome) :
    (scaffold project key).validate now = .ok () ↔
      project ≠ "" ∧ ∃ name, KeyName.parse key = .ok name := by
  rw [validate_eq_ok_iff]
  constructor
  · rintro ⟨name, region, sound⟩
    exact ⟨sound.hasProject, name, sound.readsKey⟩
  · rintro ⟨hasProject, name, readsKey⟩
    exact ⟨name, _, sound_scaffold hasProject readsKey false early⟩

/-- The settings to start from can always be written. -/
theorem exists_to_toml_scaffold (project key : String) :
    ∃ text, (scaffold project key).toToml = .ok text := by
  have waits : Schedule.usualSeconds.all (fun seconds => seconds.toNat < signedBound) := by decide
  have lifetime : usualBackupLifetime.toNat < signedBound := by decide
  refine exists_to_toml (fun seconds listed => ?_) lifetime
  exact of_decide_eq_true (List.all_eq_true.mp waits seconds listed)

/-- Settings with the usual waits ask for the usual schedule. -/
theorem schedule_of_usual {settings : Settings} {schedule : Schedule}
    (usual : settings.backoff = Schedule.usualSeconds)
    (scheduled : settings.schedule = .ok schedule) : schedule = .usual := by
  obtain ⟨-, steps⟩ := schedule_eq_ok_iff.mp scheduled
  rw [usual] at steps
  obtain ⟨_, nonempty⟩ := schedule
  subst steps
  rfl

end Settings

namespace Command

/-- The settings of a run once the switch for waiting has been applied. -/
def RunOptions.effective (options : RunOptions) (settings : Settings) : Settings :=
  { settings with waitForKeyStatus := options.waitForKeyStatus || settings.waitForKeyStatus }

/-- How the plane of a run reports. -/
def RunOptions.handle (options : RunOptions) (settings : Settings) : Handle :=
  ⟨settings.project, options.convergenceReads, options.transientFailures⟩

namespace InitOptions

variable (options : InitOptions) {now : UInt64}

/-- `init` prints the settings to start from when they are accepted. -/
theorem exit_of_validate
    (accepted : (Settings.scaffold options.project options.key).validate now = .ok ()) :
    ∃ text, (Settings.scaffold options.project options.key).toToml = .ok text ∧
      options.exit now = .success text := by
  obtain ⟨text, written⟩ := Settings.exists_to_toml_scaffold options.project options.key
  refine ⟨text, written, ?_⟩
  simp only [exit, accepted, written]

/-- `init` succeeds exactly when they are. -/
theorem code_exit_iff : (options.exit now).code = 0 ↔
    (Settings.scaffold options.project options.key).validate now = .ok () := by
  constructor
  · intro succeeded
    cases checked : (Settings.scaffold options.project options.key).validate now with
    | ok _ => rfl
    | error fault =>
      simp only [exit, checked] at succeeded
      cases succeeded
  · intro accepted
    obtain ⟨text, -, ended⟩ := options.exit_of_validate accepted
    rw [ended]
    rfl

variable {surroundings : Surroundings} {arguments : List String}
  (asked : Invocation.read arguments = .ok (.init options))

include asked

/-- A session that is asked for settings prints them and does nothing else. -/
theorem session_eq_exit : session surroundings arguments = options.exit surroundings.now := by
  simp only [session, asked]

/-- So it succeeds exactly when the settings to start from are accepted. -/
theorem code_session_iff : (session surroundings arguments).code = 0 ↔
    (Settings.scaffold options.project options.key).validate surroundings.now = .ok () := by
  rw [options.session_eq_exit asked]
  exact options.code_exit_iff

/-- What it prints then is read back as these settings. -/
theorem of_toml_output (succeeded : (session surroundings arguments).code = 0) :
    Settings.ofToml (session surroundings arguments).output =
      .ok (.scaffold options.project options.key) := by
  obtain ⟨text, written, ended⟩ :=
    options.exit_of_validate ((options.code_session_iff asked).mp succeeded)
  rw [options.session_eq_exit asked, ended]
  exact Settings.of_toml_of_to_toml written

end InitOptions

namespace RunOptions

variable (options : RunOptions)

/-- A run is prepared when its settings are loaded, the changes to them accepted and the selection
understood. -/
theorem prepare_eq_ok {surroundings : Surroundings} {settings changed : Settings}
    {selected : List Scenario} {harness : Harness}
    (loads : options.loaded surroundings = .ok settings)
    (accepted : settings.overridden surroundings.environment = .ok changed)
    (selects : Scenario.Selects options.selection selected)
    (made : Harness.ofSettings (options.effective changed) surroundings.now = .ok harness) :
    options.prepare surroundings =
      .ok ⟨harness, selected, options.handle (options.effective changed)⟩ := by
  have validated : Harness.ofSettings { changed with
      waitForKeyStatus := options.waitForKeyStatus || changed.waitForKeyStatus }
      surroundings.now = .ok harness := made
  simp only [prepare, loads, accepted, selects.select?_eq, validated, bind, Except.bind,
    map_error_ok]
  rfl

/-- The reports of a run are printed in the way that was asked for. -/
theorem printed_shown (reports : List Report) :
    Report.Printed reports options.json (options.shown reports) := by
  cases asked : options.json with
  | false =>
    have shown : options.shown reports = String.join (reports.map fun report =>
        report.summary ++ "\n") := by
      simp only [RunOptions.shown, asked, Bool.false_eq_true, if_false]
    rw [shown]
    refine .lines (List.forall₂_map_right_iff.mpr (List.forall₂_same.mpr fun report _ => ?_))
    exact report.shows_summary
  | true =>
    have shown : options.shown reports =
        Json.pretty (Encode.list Report.encode reports) ++ "\n" := by
      simp only [RunOptions.shown, asked, if_true]
      rfl
    obtain ⟨document, parsed, holds⟩ := Report.exists_parse_pretty reports
    rw [shown]
    exact .json parsed holds

/-- A run without failures ends with what is printed of its reports and no complaint. -/
theorem exit_of_no_failures {reports : List Report} (none : Report.failures reports = 0) :
    options.exit reports = ⟨0, options.shown reports, ""⟩ := by
  have counted : (reports.countP fun report => !report.passed) = 0 := by
    simpa [Report.failures, Report.passed] using none
  exact if_pos counted

/-- A run with failures ends with the same and complains how many of its runs have failed. -/
theorem exit_of_failures {reports : List Report} (some : Report.failures reports ≠ 0) :
    options.exit reports = ⟨1, options.shown reports, "Error: " ++
      (toString (Report.failures reports) ++ " of " ++ toString reports.length ++
        " scenarios failed") ++ "\n"⟩ := by
  have counted : (reports.countP fun report => !report.passed) = Report.failures reports := by
    simp [Report.failures, Report.passed]
  rw [← counted] at some ⊢
  exact if_neg some

/-- A run that gets as far as its suite: the job that is prepared, with the settings and the handle
that were asked for, the reports that the suite comes to in every interleaving, and how the session
ends with them. There is one report for each selected scenario, passed exactly when that scenario
should pass. The session prints these reports. It succeeds exactly when all selected scenarios pass,
and complains otherwise how many of them have failed. -/
structure Completes (surroundings : Surroundings) (settings : Settings) (selected : List Scenario)
    (job : Job) (reports : List Report) (ending : Exit) : Prop where
  prepared : options.prepare surroundings = .ok job
  settled : job.harness.settings = settings
  chosen : job.scenarios = selected
  handled : job.handle = options.handle settings
  ordered : reports.map Report.scenario = selected
  judged : ∀ report ∈ reports,
    (report.verdict = .passed ↔ settings.AllPass (options.handle settings) [report.scenario])
  undisturbed : job.harness.Undisturbed job.handle surroundings.now .empty
    (selected.map (⟨·, surroundings.now⟩)) reports
  prints : Report.Printed reports options.json ending.output
  succeeds : ending.code = 0 ↔ settings.AllPass (options.handle settings) selected
  quiet : ending.code = 0 → ending.complaint = ""
  fails : ending.code ≠ 0 → ending.code = 1 ∧ ending.complaint =
    "Error: " ++ toString (Report.failures reports) ++ " of " ++ toString selected.length ++
      " scenarios failed\n"

/-- Whatever the reports are, a run ends with what is printed of them, and its code and its
complaint go by the number of failures. -/
theorem exit_cases (reports : List Report) :
    Report.Printed reports options.json (options.exit reports).output ∧
    ((options.exit reports).code = 0 ↔ Report.failures reports = 0) ∧
    ((options.exit reports).code = 0 → (options.exit reports).complaint = "") ∧
    ((options.exit reports).code ≠ 0 → (options.exit reports).code = 1 ∧
      (options.exit reports).complaint = "Error: " ++ toString (Report.failures reports) ++
        " of " ++ toString reports.length ++ " scenarios failed\n") := by
  have printed := options.printed_shown reports
  by_cases none : Report.failures reports = 0
  · rw [options.exit_of_no_failures none]
    exact ⟨printed, iff_of_true rfl none, fun _ => rfl, fun failed => absurd rfl failed⟩
  · have ending : " scenarios failed\n" = " scenarios failed" ++ "\n" := rfl
    rw [options.exit_of_failures none]
    refine ⟨printed, iff_of_false (Ne.symm UInt32.zero_ne_one) none, nofun, fun _ => ⟨rfl, ?_⟩⟩
    rw [ending]
    simp only [String.append_assoc]

/-- A run completes when its settings are loaded with the usual waits, the changes to them are
accepted, the selection is understood and the outcome is valid. -/
theorem exists_completes {surroundings : Surroundings} {settings changed : Settings}
    {selected : List Scenario} (loads : options.loaded surroundings = .ok settings)
    (usual : settings.backoff = Schedule.usualSeconds)
    (accepted : settings.overridden surroundings.environment = .ok changed)
    (selects : Scenario.Selects options.selection selected)
    (valid : (options.effective changed).validate surroundings.now = .ok ()) :
    ∃ job reports, options.Completes surroundings (options.effective changed) selected job reports
      (options.exit (job.reports surroundings.now)) := by
  let effective := options.effective changed
  have waits : effective.backoff = Schedule.usualSeconds :=
    (Settings.overridden_eq_ok_iff_follows.mp accepted).2.backoff.trans usual
  obtain ⟨name, region, sound⟩ := Settings.validate_eq_ok_iff.mp valid
  obtain ⟨schedule, scheduled⟩ := sound.exists_schedule
  have made : Harness.ofSettings effective surroundings.now = .ok ⟨effective, schedule⟩ :=
    Harness.of_settings_eq_ok_iff.mpr ⟨⟨name, region, sound⟩, rfl, scheduled⟩
  have few : effective.backoff.length < 2147483648 := by
    rw [waits]
    decide
  have fits : schedule.Fits := by
    rw [Settings.schedule_of_usual waits scheduled]
    decide
  let job : Job := ⟨⟨effective, schedule⟩, selected, options.handle effective⟩
  have prepared : options.prepare surroundings = .ok job :=
    options.prepare_eq_ok loads accepted selects made
  obtain ⟨reports, ordered, judged, undisturbed, suite⟩ :=
    Harness.exists_suite_reports made few fits job.handle rfl selects.distinct
  have reported : job.reports surroundings.now = reports := suite
  have several : reports ≠ [] := fun none => selects.nonempty (ordered ▸ none ▸ rfl)
  have total : reports.length = selected.length := by rw [← ordered, List.length_map]
  obtain ⟨prints, succeeds, quiet, fails⟩ := options.exit_cases reports
  rw [Report.failures_eq_zero_iff several judged, ordered] at succeeds
  rw [total] at fails
  have completes : options.Completes surroundings effective selected job reports
      (options.exit reports) :=
    ⟨prepared, rfl, rfl, rfl, ordered, judged, undisturbed, prints, succeeds, quiet, fails⟩
  exact ⟨job, reports, reported.symm ▸ completes⟩

end RunOptions

/-- The key of the sandbox is in `us-central1`. -/
theorem parse_sandbox_key :
    KeyName.parse sandboxKey = .ok ⟨"cmek-sandbox", "us-central1", "cmek-it", "cmek-it-key"⟩ :=
  have written :
      KeyName.render ⟨"cmek-sandbox", "us-central1", "cmek-it", "cmek-it-key"⟩ = sandboxKey := by
    decide
  written ▸ KeyName.parse_render (by decide)

/-- From the first settings to the exit code of a run. `init` succeeds for exactly those projects
and keys that are there and can be read. What it prints, put into a file, can be run: whenever the
override variables and the switch for waiting are accepted and leave valid settings, and whatever is
selected, the session completes with one report for each selected scenario, and its exit code says
whether all of them have passed.

Only `init` needs a clock that is not too close to its end. The first waits of the printed settings
always add up, since nothing on the way changes the schedule. -/
theorem session_on_printed_settings {first : Surroundings} {initial : List String}
    {project key : String} (asked : Invocation.read initial = .ok (.init ⟨project, key⟩))
    (early : (timeAfter? first.now Settings.usualBackupLifetime).isSome) :
    ((session first initial).code = 0 ↔ project ≠ "" ∧ ∃ name, KeyName.parse key = .ok name) ∧
    ((session first initial).code = 0 →
      ∀ (surroundings : Surroundings) (arguments : List String) (options : RunOptions)
        (path : String) (changed : Settings) (selected : List Scenario),
        Invocation.read arguments = .ok (.run options) → options.settingsPath = some path →
        surroundings.file path = .ok (session first initial).output.toUTF8 →
        (Settings.scaffold project key).overridden surroundings.environment = .ok changed →
        (options.effective changed).validate surroundings.now = .ok () →
        Scenario.Selects options.selection selected →
        ∃ job reports, options.Completes surroundings (options.effective changed) selected job
          reports (session surroundings arguments)) := by
  have printed : session first initial = InitOptions.exit ⟨project, key⟩ first.now :=
    InitOptions.session_eq_exit _ asked
  have succeeds : (session first initial).code = 0 ↔
      (Settings.scaffold project key).validate first.now = .ok () :=
    InitOptions.code_session_iff _ asked
  refine ⟨succeeds.trans (Settings.validate_scaffold_iff early), ?_⟩
  intro succeeded surroundings arguments options path changed selected run located content accepted
    valid selects
  obtain ⟨text, written, ended⟩ :=
    InitOptions.exit_of_validate ⟨project, key⟩ (succeeds.mp succeeded)
  have loads : options.loaded surroundings = .ok (Settings.scaffold project key) := by
    have file : surroundings.file path = .ok text.toUTF8 := by
      rw [content, printed, ended]
      rfl
    have read := Settings.of_file_of_to_toml written path
    simp only [RunOptions.loaded, located, file, read, map_error_ok]
  obtain ⟨job, reports, completes⟩ := options.exists_completes loads rfl accepted selects valid
  have ran : session surroundings arguments = options.exit (job.reports surroundings.now) := by
    simp only [session, run, completes.prepared]
  exact ⟨job, reports, ran ▸ completes⟩

/-- Settings of the sandbox that are printed, put into a file and run with a wait that the
environment asks for. The schedule sees all three scenarios through three failures and two
unconverged answers. -/
theorem sandbox_session_completes :
    let init : InitOptions := ⟨sandboxProject, sandboxKey⟩
    let options : RunOptions := ⟨some "settings.toml", "all", false, 2, 3, true, false⟩
    let first : Surroundings := ⟨7, fun _ => .error .missing, fun _ => none⟩
    let printed := session first init.arguments
    let surroundings : Surroundings := ⟨9, fun _ => .ok printed.output.toUTF8,
      fun name => if name = "CMEK_WAIT_FOR_KEY_STATUS" then some " Yes" else none⟩
    let settings := { Settings.scaffold sandboxProject sandboxKey with waitForKeyStatus := true }
    printed.code = 0 ∧
      ∃ job reports, options.Completes surroundings settings
          [.instanceCluster, .table, .backup] job reports
          (session surroundings options.arguments) ∧
        (session surroundings options.arguments).code = 0 := by
  intro init options first printed surroundings settings
  have asked : Invocation.read init.arguments = .ok (.init init) := init.read_arguments
  have early : (timeAfter? first.now Settings.usualBackupLifetime).isSome := by decide
  obtain ⟨succeeds, completes⟩ := session_on_printed_settings asked early
  have succeeded : printed.code = 0 := succeeds.mpr ⟨by decide, _, parse_sandbox_key⟩
  have run : Invocation.read options.arguments = .ok (.run options) :=
    RunOptions.read_arguments (by decide)
  have accepted : (Settings.scaffold sandboxProject sandboxKey).overridden
      surroundings.environment = .ok settings := by
    have yes : Settings.booleanOf? " Yes" = some true := by decide
    simp [Settings.overridden, surroundings, settings, yes]
  have sound := Settings.sound_scaffold (by decide : sandboxProject ≠ "") parse_sandbox_key true
    (by decide : (timeAfter? surroundings.now Settings.usualBackupLifetime).isSome)
  have valid := Settings.validate_eq_ok_iff.mpr ⟨_, _, sound⟩
  obtain ⟨job, reports, completed⟩ := completes succeeded surroundings options.arguments options
    "settings.toml" settings _ run rfl rfl accepted valid .all
  refine ⟨succeeded, job, reports, completed, completed.succeeds.mpr ⟨?_, fun _ => ?_⟩⟩
  · exact sound.key_in_region_iff.mpr rfl
  · exact (by decide : 3 + 2 < 8)

end Command

end CustomerKeys
