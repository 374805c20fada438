import CustomerKeys.Proofs.KeyVersions
import CustomerKeys.Proofs.ScenarioCalls

/-!
# The metadata on which a run passes

A table or a backup is judged by the last thing that is read before the teardown. A run that passes
has therefore been shown acceptable metadata there, whatever client answered it, whether or not the
schedule fits, and whatever went before. Metadata that is accepted names a version of the configured
key or of one that extends it.
-/

namespace CustomerKeys

/-- A script that ends well only right after a call with a reply of a certain kind. It may abort, or
end with a failure, at any time. -/
inductive Script.EndsOn (good : Event → Prop) : Script Outcome → Prop
  | failed (outcome : Outcome) (bad : outcome.failure ≠ none) : EndsOn good (.done outcome)
  | abort (cause : Abort) : EndsOn good (.abort cause)
  | sleep (duration : Duration) {next : Script Outcome} (rest : EndsOn good next) :
    EndsOn good (.sleep duration next)
  | call (request : Request) {next : request.Reply → Script Outcome}
    (rest : ∀ reply, EndsOn good (next reply)) : EndsOn good (.call request next)
  | last (request : Request) {next : request.Reply → Script Outcome}
    (ends : ∀ reply, ∃ outcome, next reply = .done outcome ∧
      (outcome.failure = none → good (.called request reply))) : EndsOn good (.call request next)

namespace Script.EndsOn

variable {σ α : Type} {good : Event → Prop}

/-- What comes before does not matter. -/
theorem bind (script : Script α) {next : α → Script Outcome}
    (rest : ∀ value, (next value).EndsOn good) : (script.bind next).EndsOn good := by
  induction script with
  | done value => exact rest value
  | abort cause => exact .abort cause
  | sleep duration _ inductionHypothesis => exact .sleep duration inductionHypothesis
  | call request _ inductionHypothesis => exact .call request inductionHypothesis

/-- The last call of a run that ends well has a reply of the right kind. -/
theorem calls_run {script : Script Outcome} (endsOn : script.EndsOn good) (client : Client σ)
    (state : σ) {outcome : Outcome} (ended : (script.run client state).outcome = .ok outcome)
    (passed : outcome.failure = none) :
    ∃ before call, (script.run client state).calls = before ++ [call] ∧ good call := by
  induction endsOn generalizing state with
  | failed failure bad =>
    obtain rfl := Except.ok.inj ended
    exact absurd passed bad
  | abort cause => cases ended
  | sleep duration _ inductionHypothesis => exact inductionHypothesis state ended
  | call request _ inductionHypothesis =>
    obtain ⟨before, call, calls, shown⟩ := inductionHypothesis _ _ ended
    refine ⟨.called request (client request state).1 :: before, call, ?_, shown⟩
    rw [Script.run_call, Run.calls_preceded_called, calls, List.cons_append]
  | @last request next ends =>
    obtain ⟨final, done, accepted⟩ := ends (client request state).1
    rw [Script.run_call, done] at ended ⊢
    obtain rfl := Except.ok.inj ended
    exact ⟨[], _, rfl, accepted passed⟩

end Script.EndsOn

namespace Scenario

/-- The metadata that a call shows, if it is the read that a scenario judges: the only item for the
first cluster in a report on the table, or the metadata of the backup. -/
inductive Shows (ids : ScenarioIds) : Scenario → Event → Encryption → Prop
  | table {report : EncryptionReport} {encryption : Encryption}
    (found : report[ids.clusterId]? = some [encryption]) :
    Shows ids .table (.called (.getEncryption ids.instanceId ids.tableId) (.ok report)) encryption
  | backup (backup : Backup) :
    Shows ids .backup (.called (.getBackup ids.instanceId ids.clusterId ids.backupId) (.ok backup))
      backup.encryption

/-- The metadata that a scenario accepts. The cluster scenario looks at none. -/
def Accepts (scenario : Scenario) (settings : Settings) (encryption : Encryption) : Prop :=
  match scenario with
  | .instanceCluster => False
  | .table => EncryptionExpected settings encryption
  | .backup => encryption.isPinnedUntracked settings.key = true

/-- The call shows acceptable metadata. -/
def ShowsAccepted (scenario : Scenario) (settings : Settings) (ids : ScenarioIds)
    (call : Event) : Prop :=
  ∃ encryption, scenario.Shows ids call encryption ∧ scenario.Accepts settings encryption

variable {settings : Settings} {ids : ScenarioIds} {good : Event → Prop}

/-- A call that must succeed, before a script that ends so. -/
theorem expect_answer_ends_on {found : Findings} {request : Request}
    {answered : request.Answer → Script Outcome}
    (rest : ∀ answer, (answered answer).EndsOn good) :
    (expectAnswer found request answered).EndsOn good := by
  refine .call request fun reply => ?_
  cases reply with
  | ok answer => exact rest answer
  | error error => exact .failed _ (Option.some_ne_none _)

/-- A call whose answer is judged last. -/
theorem expect_answer_ends_on_judged {found : Findings} {request : Request}
    {judge : request.Answer → Outcome}
    (accepted : ∀ answer, (judge answer).failure = none → good (.called request (.ok answer))) :
    (expectAnswer found request fun answer => .done (judge answer)).EndsOn good := by
  refine .last request fun reply => ?_
  cases reply with
  | ok answer => exact ⟨_, rfl, accepted answer⟩
  | error error => exact ⟨_, rfl, nofun⟩

/-- The last read of a table ends well only after it was answered with metadata that is accepted. -/
theorem inspect_table_ends_on (found : Findings) :
    (inspectTable settings ids found).EndsOn (table.ShowsAccepted settings ids) := by
  refine expect_answer_ends_on_judged fun report passes => ?_
  obtain ⟨-, -, encryption, listed, expected⟩ := judge_report_passes_iff.mp passes
  exact ⟨encryption, .table listed, expected⟩

/-- So does the table scenario, with and without a wait, because that read is its last call in both.
-/
theorem table_script_ends_on (schedule : Schedule) :
    (tableScript settings schedule ids).EndsOn (table.ShowsAccepted settings ids) := by
  refine expect_answer_ends_on fun _ => expect_answer_ends_on fun _ => ?_
  split
  · refine .bind _ fun result => ?_
    cases result with
    | error error => exact .failed _ (Option.some_ne_none _)
    | ok convergence => exact inspect_table_ends_on _
  · exact inspect_table_ends_on _

/-- The backup scenario ends well only after its look-up has shown a backup with metadata that is
accepted. -/
theorem backup_script_ends_on (now : UInt64) :
    (backupScript settings now ids).EndsOn (backup.ShowsAccepted settings ids) := by
  refine expect_answer_ends_on fun _ => expect_answer_ends_on fun _ => ?_
  split
  · exact .failed _ (Option.some_ne_none _)
  · refine expect_answer_ends_on fun _ => expect_answer_ends_on_judged fun backup passes => ?_
    exact ⟨backup.encryption, .backup backup, judge_backup_passes_iff.mp passes⟩

/-- The body of a scenario that looks at metadata ends well only after acceptable metadata. -/
theorem body_ends_on (scenario : Scenario) (looks : scenario ≠ .instanceCluster)
    (schedule : Schedule) (now : UInt64) :
    (scenario.body settings schedule now ids).EndsOn (scenario.ShowsAccepted settings ids) := by
  cases scenario with
  | instanceCluster => exact absurd rfl looks
  | table => exact table_script_ends_on schedule
  | backup => exact backup_script_ends_on now

/-- Accepted metadata with a version of another key is metadata of a key that extends the configured
one. -/
theorem Accepts.extends {scenario : Scenario} {encryption : Encryption}
    (accepted : scenario.Accepts settings encryption) {otherText : String} {name other : KeyName}
    (readsKey : KeyName.parse settings.key = .ok name)
    (readsOther : KeyName.parse otherText = .ok other) {number : UInt32}
    (shown : encryption.keyVersion = other.version number) : other.Extends name := by
  have owned : encryption.hasVersionOf settings.key = true := by
    cases scenario with
    | instanceCluster => exact accepted.elim
    | table =>
      obtain ⟨-, converged | ⟨-, transient⟩⟩ := accepted
      · exact (Encryption.key_status_eq_converged_iff.mp converged).2.1
      · have unversioned := (Encryption.key_status_eq_transient_iff.mp transient).2.1
        exact absurd (shown.symm.trans unversioned) (other.version_ne_empty number)
    | backup =>
      obtain ⟨-, -, -, owned⟩ := Encryption.is_pinned_untracked_iff.mp accepted
      exact owned
  exact (Encryption.has_version_of_iff_extends readsKey readsOther shown).mp owned

end Scenario

/-- A call shows only one thing. -/
theorem Scenario.Shows.unique {scenario : Scenario} {ids : ScenarioIds} {call : Event}
    {encryption other : Encryption} (first : scenario.Shows ids call encryption)
    (second : scenario.Shows ids call other) : encryption = other := by
  cases first with
  | table found =>
    cases second with
    | table otherFound =>
      obtain ⟨same, -⟩ := List.cons.inj (Option.some.inj (found.symm.trans otherFound))
      exact same
  | backup backup =>
    cases second
    rfl

/-- The last call of a run before its teardown shows some metadata. -/
def Run.ShowsLast {σ : Type} (run : Run σ Report) (scenario : Scenario) (ids : ScenarioIds)
    (encryption : Encryption) : Prop :=
  ∃ before call backupReply instanceReply,
    run.calls = before ++ call :: ids.teardownCalls backupReply instanceReply ∧
      scenario.Shows ids call encryption

/-- So does a run as a whole. -/
theorem Run.ShowsLast.unique {σ : Type} {run : Run σ Report} {scenario : Scenario}
    {ids : ScenarioIds} {encryption other : Encryption}
    (first : run.ShowsLast scenario ids encryption) (second : run.ShowsLast scenario ids other) :
    encryption = other := by
  obtain ⟨before, call, backupReply, instanceReply, calls, shown⟩ := first
  obtain ⟨otherBefore, otherCall, otherBackupReply, otherInstanceReply, otherCalls, otherShown⟩ :=
    second
  obtain ⟨-, ends⟩ := List.append_inj' (calls.symm.trans otherCalls) rfl
  obtain ⟨rfl, -⟩ := List.cons.inj ends
  exact shown.unique otherShown

namespace Harness

variable {σ : Type} (harness : Harness) (now : UInt64) (scenario : Scenario) (ids : ScenarioIds)

/-- A run that ends with a report has a body that came to an outcome, which is the one reported. -/
theorem exists_outcome_of_report {client : Client σ} {state : σ} {reported : Report}
    (ended : ((harness.runWithIds now scenario ids).run client state).outcome = .ok reported) :
    ∃ outcome, ((scenario.body harness.settings harness.schedule now ids).run client
      state).outcome = .ok outcome ∧ reported = report scenario ids outcome := by
  cases came : ((scenario.body harness.settings harness.schedule now ids).run client state).outcome
    with
  | ok outcome =>
    rw [harness.run_run_with_ids now scenario ids client came] at ended
    exact ⟨outcome, rfl, (Except.ok.inj ended).symm⟩
  | error cause =>
    rw [runWithIds, Script.run_bind, Run.followed, came] at ended
    cases ended

/-- A run that passes was last shown metadata that its scenario accepts. -/
theorem exists_shown_of_passed (looks : scenario ≠ .instanceCluster) {client : Client σ} {state : σ}
    {reported : Report}
    (ended : ((harness.runWithIds now scenario ids).run client state).outcome = .ok reported)
    (passed : reported.passed = true) :
    ∃ encryption, ((harness.runWithIds now scenario ids).run client state).ShowsLast scenario ids
      encryption ∧ scenario.Accepts harness.settings encryption := by
  obtain ⟨outcome, came, rfl⟩ := harness.exists_outcome_of_report now scenario ids ended
  rw [passed_report, Option.isNone_iff_eq_none] at passed
  obtain ⟨before, call, body, encryption, shown, accepted⟩ :=
    (scenario.body_ends_on looks harness.schedule now).calls_run client state came passed
  obtain ⟨backupReply, instanceReply, calls⟩ :=
    harness.calls_run_with_ids now scenario ids client came
  refine ⟨encryption, ⟨before, call, backupReply, instanceReply, ?_, shown⟩, accepted⟩
  rw [calls, body, List.append_assoc, List.singleton_append]

/-- Whatever a passing run was last shown is acceptable. -/
theorem accepts_of_shows_last {client : Client σ} {state : σ} {reported : Report}
    (ended : ((harness.runWithIds now scenario ids).run client state).outcome = .ok reported)
    (passed : reported.passed = true) {encryption : Encryption}
    (shown : ((harness.runWithIds now scenario ids).run client state).ShowsLast scenario ids
      encryption) :
    scenario.Accepts harness.settings encryption := by
  have looks : scenario ≠ .instanceCluster := by
    rintro rfl
    obtain ⟨_, _, _, _, _, shows⟩ := shown
    cases shows
  obtain ⟨other, otherShown, accepted⟩ :=
    harness.exists_shown_of_passed now scenario ids looks ended passed
  exact shown.unique otherShown ▸ accepted

end Harness

end CustomerKeys
