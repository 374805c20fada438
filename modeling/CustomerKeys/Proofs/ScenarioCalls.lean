import CustomerKeys.Proofs.CallTraces
import CustomerKeys.Proofs.Judgements
import CustomerKeys.Proofs.SandboxVerdict

/-!
# The calls of a scenario

Each scenario has a plan: the calls it makes in order, and the replies with which it is content. The
plans are written down apart from the scripts; what they demand of the last reply is what the
judgement of the scenario accepts. A wait is one stage of its plan, with as many attempts as the
schedule allows.

The law of calls holds against every client, one that contradicts itself included. The calls before
the teardown obey the plan and are cut right after the first reply that makes the scenario fail. The
teardown deletes the backup and then the instance, each once, and what it is answered has no part in
the report. Only the schedule's waits must add up, and the backup must have an expiry.
-/

namespace CustomerKeys

/-- The call deletes something: a backup or an instance. No script of a scenario makes such a call
before its teardown. -/
def Request.deletes : Request → Bool
  | .deleteInstance .. => true
  | .deleteBackup .. => true
  | _ => false

/-- A call that is made once and must be answered, with an answer of which something is demanded. -/
def Stage.answer (request : Request) (demanded : request.Answer → Prop) : Stage :=
  .once request fun reply => ∃ answer, reply = .ok answer ∧ demanded answer

namespace Tracker

/-- A tracker has several attempts left exactly when the next one is not the last. -/
theorem one_lt_remaining_iff (tracker : Tracker) :
    1 < tracker.remaining ↔ tracker.attempts + 1 < tracker.schedule.steps.length := by
  unfold remaining Schedule.attempts
  omega

end Tracker

namespace Watch

/-- The polls of a wait, until the status of the cluster is `OK`. A reply that decides nothing calls
for another poll. -/
def polls (watch : Watch) (attempts : Nat) : Stage where
  request := .getEncryption watch.instanceId watch.tableId
  attempts := attempts
  accepts reply := ∃ encryption, watch.Shows reply [encryption] ∧ encryption.status.code = .ok
  retries reply := ¬ watch.Decisive reply

variable (watch : Watch)

/-- An accepted reply is observed as `OK`. -/
theorem observe_of_accepted {attempts : Nat} {reply : watch.request.Reply}
    (good : (watch.polls attempts).accepts reply) :
    watch.observe reply = .ok (.status .ok) := by
  obtain ⟨encryption, ⟨report, rfl, found⟩, ok⟩ := good
  simp [observe, found, ok]

/-- A decisive reply that is not accepted ends the wait with an error. -/
theorem observe_of_rejected {attempts : Nat} {reply : watch.request.Reply}
    (bad : ¬ (watch.polls attempts).accepts reply) (decisive : watch.Decisive reply) :
    ∃ count, watch.observe reply = .error count := by
  obtain ⟨entries, ⟨report, rfl, found⟩, several | ⟨encryption, rfl, ok⟩⟩ := decisive
  · match entries, several with
    | [], _ => exact ⟨0, by simp [observe, found]⟩
    | first :: second :: others, _ => exact ⟨_, by simp [observe, found]; rfl⟩
  · exact absurd ⟨encryption, ⟨report, rfl, found⟩, ok⟩ bad

/-- A wait in progress, with what follows it, performs a plan that begins with its polls. It goes on
with the rest of the plan when it has succeeded, and must not go on when it has failed. The
additions of waits do not fail because the time waited is the sum of the entries already slept. -/
theorem follow_performs {schedule : Schedule} (fits : schedule.Fits)
    {rest : Except ConvergenceError Convergence → Script Outcome} {stages : List Stage}
    (succeeds : ∀ convergence, (rest (.ok convergence)).Performs stages)
    (fails : ∀ error, ∃ outcome, rest (.error error) = .done outcome ∧ outcome.failure ≠ none)
    (tracker : Tracker) (waited : Duration) (scheduled : tracker.schedule = schedule)
    (pending : tracker.phase = .pending)
    (summed : Duration.total? (schedule.steps.take tracker.attempts) = some waited) :
    ((watch.follow tracker waited).bind rest).Performs
      (watch.polls tracker.remaining :: stages) := by
  induction measured : tracker.remaining using Nat.strongRecOn generalizing tracker waited with
  | ind remaining inductionHypothesis =>
    rw [follow, Script.bind]
    refine @Script.Performs.call (watch.polls remaining) stages _ ?_ ?_ ?_
    · intro reply good
      simp only [watch.observe_of_accepted good]
      split
      · exact succeeds _
      · rename_i gaveUp
        cases (Tracker.step_ok pending).symm.trans gaveUp
      · rename_i slept
        cases (Tracker.step_ok pending).symm.trans slept
    · intro reply _ again
      obtain ⟨undecided, left⟩ := again
      obtain ⟨observation, observed, other⟩ := watch.observe_of_not_decisive undecided
      subst scheduled
      have several : 1 < tracker.remaining := measured.symm ▸ left
      have early := tracker.one_lt_remaining_iff.mp several
      have inside : tracker.attempts < tracker.schedule.steps.length := Nat.lt_of_succ_lt early
      have stepped := Tracker.step_early pending other early (List.getElem?_eq_getElem inside)
      simp only [observed]
      split
      · rename_i finished
        cases stepped.symm.trans finished
      · rename_i gaveUp
        cases stepped.symm.trans gaveUp
      · rename_i delay after slept
        obtain ⟨sameDelay, rfl⟩ := Prod.mk.inj (stepped.symm.trans slept)
        obtain rfl := Action.sleep.inj sameDelay
        obtain ⟨longer, added, extended⟩ := fits.exists_add?_waited early summed
        have fewer : (tracker.advance .pending).remaining = remaining - 1 := by
          rw [← measured]
          exact Nat.sub_add_eq _ _ 1
        rw [added, Script.bind]
        refine .sleep _ ?_
        exact inductionHypothesis (remaining - 1) (Nat.sub_lt (Nat.zero_lt_of_lt left) Nat.one_pos)
          _ longer rfl rfl extended fewer
    · intro reply bad final
      by_cases decisive : watch.Decisive reply
      · obtain ⟨count, observed⟩ := watch.observe_of_rejected bad decisive
        simp only [observed]
        exact fails _
      · obtain ⟨observation, observed, other⟩ := watch.observe_of_not_decisive decisive
        have last : ¬ 1 < tracker.remaining := fun several =>
          final ⟨decisive, (measured ▸ several : 1 < remaining)⟩
        have stepped := Tracker.step_late pending other (mt tracker.one_lt_remaining_iff.mpr last)
        simp only [observed]
        split
        · rename_i finished
          cases stepped.symm.trans finished
        · exact fails _
        · rename_i slept
          cases stepped.symm.trans slept

/-- A whole wait with what follows it performs a plan that begins with the polls that the schedule
allows. -/
theorem script_performs {schedule : Schedule} (fits : schedule.Fits)
    {rest : Except ConvergenceError Convergence → Script Outcome} {stages : List Stage}
    (succeeds : ∀ convergence, (rest (.ok convergence)).Performs stages)
    (fails : ∀ error, ∃ outcome, rest (.error error) = .done outcome ∧ outcome.failure ≠ none) :
    ((watch.script schedule).bind rest).Performs (watch.polls schedule.attempts :: stages) :=
  watch.follow_performs fits succeeds fails _ _ rfl rfl (total?_take_zero schedule)

end Watch

namespace Scenario

/-- The calls of the cluster scenario. The instance is created with one cluster in the primary zone,
a second one is added in the sibling zone, and both are looked up and must report the configured
key. A third one, in the foreign zone, must be refused in the way that is expected. -/
def clusterStages (settings : Settings) (ids : ScenarioIds) : List Stage :=
  [.answer (.createInstance ids.instanceId
      [⟨ids.clusterId, settings.primaryZone, settings.serveNodes, settings.storage,
        some settings.key⟩]) fun _ => True,
    .answer (.getCluster ids.instanceId ids.clusterId) fun cluster : Cluster =>
      cluster.key = some settings.key,
    .answer (.createCluster ids.instanceId
      ⟨ids.secondClusterId, settings.siblingZone, settings.serveNodes, settings.storage,
        some settings.key⟩) fun _ => True,
    .answer (.getCluster ids.instanceId ids.secondClusterId) fun cluster : Cluster =>
      cluster.key = some settings.key,
    .once (.createCluster ids.instanceId
      ⟨ids.rejectedClusterId, settings.foreignZone, settings.serveNodes, settings.storage,
        some settings.key⟩) (RefusalExpected settings)]

/-- The calls of the table scenario. The instance is created with a cluster in the primary zone and
one in the sibling zone, and gets a table with one column family. With a wait, the metadata of the
table is polled before it is read. -/
def tableStages (settings : Settings) (schedule : Schedule) (ids : ScenarioIds) : List Stage :=
  let watch : Watch := ⟨ids.instanceId, ids.tableId, ids.clusterId⟩
  [.answer (.createInstance ids.instanceId
      [⟨ids.clusterId, settings.primaryZone, settings.serveNodes, settings.storage,
        some settings.key⟩,
      ⟨ids.secondClusterId, settings.siblingZone, settings.serveNodes, settings.storage,
        some settings.key⟩]) fun _ => True,
    .answer (.createTable ids.instanceId ids.tableId ["cf"]) fun _ => True] ++
  (if settings.waitForKeyStatus then [watch.polls schedule.attempts] else []) ++
  [.answer (.getEncryption ids.instanceId ids.tableId) (ReportExpected settings ids)]

/-- The calls of the backup scenario. The instance is created with a cluster in the primary zone and
gets a table, which is backed up in that cluster until the given time. The backup is looked up and
must be pinned to a version of the configured key. -/
def backupStages (settings : Settings) (expireTime : UInt64) (ids : ScenarioIds) : List Stage :=
  [.answer (.createInstance ids.instanceId
      [⟨ids.clusterId, settings.primaryZone, settings.serveNodes, settings.storage,
        some settings.key⟩]) fun _ => True,
    .answer (.createTable ids.instanceId ids.tableId ["cf"]) fun _ => True,
    .answer (.createBackup ids.instanceId ⟨ids.clusterId, ids.backupId, ids.tableId, expireTime⟩)
      fun _ => True,
    .answer (.getBackup ids.instanceId ids.clusterId ids.backupId) fun backup : Backup =>
      backup.encryption.isPinnedUntracked settings.key = true]

/-- The plan of a scenario: the calls that it makes when every reply is as it should be, each with
what is demanded of its reply. -/
def stages (scenario : Scenario) (settings : Settings) (schedule : Schedule) (expireTime : UInt64)
    (ids : ScenarioIds) : List Stage :=
  match scenario with
  | .instanceCluster => clusterStages settings ids
  | .table => tableStages settings schedule ids
  | .backup => backupStages settings expireTime ids

/-- Every stage of a plan has an attempt, asks about the instance of its ids and deletes nothing. -/
theorem stages_sound (scenario : Scenario) (settings : Settings) (schedule : Schedule)
    (expireTime : UInt64) (ids : ScenarioIds) :
    ∀ stage ∈ scenario.stages settings schedule expireTime ids,
      1 ≤ stage.attempts ∧ stage.request.instanceId = ids.instanceId ∧
        stage.request.deletes = false := by
  have allowed : 1 ≤ schedule.attempts := List.length_pos_iff.mpr schedule.nonempty
  cases scenario with
  | instanceCluster =>
    simp [stages, clusterStages, Stage.answer, Stage.once, Request.instanceId, Request.deletes]
  | table =>
    cases waits : settings.waitForKeyStatus with
    | false =>
      simp [stages, tableStages, waits, Stage.answer, Stage.once, Request.instanceId,
        Request.deletes]
    | true =>
      simp [stages, tableStages, waits, Stage.answer, Stage.once, Watch.polls,
        Request.instanceId, Request.deletes, allowed]
  | backup =>
    simp [stages, backupStages, Stage.answer, Stage.once, Request.instanceId, Request.deletes]

section

variable {found : Findings} {request : Request} {rest : List Stage}
  {answered : request.Answer → Script Outcome} {demanded : request.Answer → Prop}

/-- A call that must succeed performs a stage that demands its answer. -/
theorem expect_answer_performs
    (goesOn : ∀ answer, demanded answer → (answered answer).Performs rest)
    (fails : ∀ answer, ¬ demanded answer →
      ∃ outcome, answered answer = .done outcome ∧ outcome.failure ≠ none) :
    (expectAnswer found request answered).Performs (.answer request demanded :: rest) := by
  refine .once ?_ ?_
  · rintro _ ⟨answer, rfl, good⟩
    exact goesOn answer good
  · intro reply bad
    cases reply with
    | error error => exact ⟨_, rfl, Option.some_ne_none _⟩
    | ok answer => exact fails answer fun good => bad ⟨answer, rfl, good⟩

/-- A call of which only an answer is demanded. -/
theorem expect_answer_performs_any (goesOn : ∀ answer, (answered answer).Performs rest) :
    (expectAnswer found request answered).Performs (.answer request (fun _ => True) :: rest) :=
  expect_answer_performs (fun answer _ => goesOn answer) fun _ bad => absurd trivial bad

/-- A call whose answer is judged, after which the script ends. -/
theorem expect_answer_performs_judged {judge : request.Answer → Outcome}
    (judged : ∀ answer, (judge answer).failure = none ↔ demanded answer) :
    (expectAnswer found request fun answer => .done (judge answer)).Performs
      [.answer request demanded] :=
  expect_answer_performs (fun answer good => .done _ ((judged answer).mpr good))
    fun answer bad => ⟨_, rfl, mt (judged answer).mp bad⟩

end

variable (settings : Settings) (ids : ScenarioIds)

/-- A look-up of a cluster performs a stage that demands the configured key of its answer, followed
by the plan of what comes next. -/
theorem expect_cluster_key_performs {clusterId : String} {next : Script Outcome} {rest : List Stage}
    (goesOn : next.Performs rest) :
    (expectClusterKey settings ids clusterId next).Performs
      (.answer (.getCluster ids.instanceId clusterId) (fun cluster : Cluster =>
        cluster.key = some settings.key) :: rest) := by
  refine expect_answer_performs (fun cluster keyed => ?_) fun cluster other => ?_
  · rw [if_pos keyed]
    exact goesOn
  · exact ⟨_, if_neg other, Option.some_ne_none _⟩

/-- The cluster scenario performs its plan: four calls that must be answered, two of them with the
key, and one whose refusal is judged. -/
theorem cluster_script_performs :
    (clusterScript settings ids).Performs (clusterStages settings ids) := by
  refine expect_answer_performs_any fun _ => ?_
  refine expect_cluster_key_performs settings ids ?_
  refine expect_answer_performs_any fun _ => ?_
  refine expect_cluster_key_performs settings ids ?_
  exact .once (fun reply good => .done _ (judge_rejection_passes_iff.mpr good))
    fun reply bad => ⟨_, rfl, mt judge_rejection_passes_iff.mp bad⟩

/-- The last read of a table performs a single stage that demands the report which is expected. -/
theorem inspect_table_performs (found : Findings) :
    (inspectTable settings ids found).Performs
      [.answer (.getEncryption ids.instanceId ids.tableId) (ReportExpected settings ids)] :=
  expect_answer_performs_judged fun _ => judge_report_passes_iff

/-- The table scenario performs its plan, with the polls of a wait between the creation of the table
and the last read, when there is a wait. -/
theorem table_script_performs {schedule : Schedule} (fits : schedule.Fits) :
    (tableScript settings schedule ids).Performs (tableStages settings schedule ids) := by
  refine expect_answer_performs_any fun _ => ?_
  refine expect_answer_performs_any fun _ => ?_
  split
  · exact Watch.script_performs _ fits (fun convergence => inspect_table_performs settings ids _)
      fun error => ⟨_, rfl, Option.some_ne_none _⟩
  · exact inspect_table_performs settings ids _

/-- The backup scenario performs its plan. That the time at which the backup expires can be computed
is known here, so the script has no other end before it. -/
theorem backup_script_performs {now expireTime : UInt64}
    (expires : timeAfter? now settings.backupLifetime = some expireTime) :
    (backupScript settings now ids).Performs (backupStages settings expireTime ids) := by
  refine expect_answer_performs_any fun _ => ?_
  refine expect_answer_performs_any fun _ => ?_
  simp only [expires]
  refine expect_answer_performs_any fun _ => ?_
  exact expect_answer_performs_judged fun _ => judge_backup_passes_iff

/-- The body of every scenario performs its plan. -/
theorem body_performs (scenario : Scenario) {schedule : Schedule} (fits : schedule.Fits)
    {now expireTime : UInt64}
    (expires : timeAfter? now settings.backupLifetime = some expireTime) :
    (scenario.body settings schedule now ids).Performs
      (scenario.stages settings schedule expireTime ids) := by
  cases scenario with
  | instanceCluster => exact cluster_script_performs settings ids
  | table => exact table_script_performs settings ids fits
  | backup => exact backup_script_performs settings ids expires

end Scenario

/-- The calls of a teardown, with what they are answered. -/
def ScenarioIds.teardownCalls (ids : ScenarioIds)
    (backupReply instanceReply : Except AdminError Unit) : List Event :=
  [.called (.deleteBackup ids.instanceId ids.clusterId ids.backupId) backupReply,
    .called (.deleteInstance ids.instanceId) instanceReply]

namespace Harness

variable {σ : Type} (harness : Harness) (now : UInt64) (scenario : Scenario) (ids : ScenarioIds)

/-- A report has passed exactly when the body came to its end without a failure. -/
theorem passed_report (outcome : Outcome) :
    (report scenario ids outcome).passed = outcome.failure.isNone := by
  rw [Bool.eq_iff_iff]
  simp [report, Report.passed, Outcome.verdict_eq_passed_iff]

/-- The calls of a run are those of its body and then the teardown's. -/
theorem calls_run_with_ids (client : Client σ) {state : σ} {outcome : Outcome}
    (ended : ((scenario.body harness.settings harness.schedule now ids).run client state).outcome =
      .ok outcome) :
    ∃ backupReply instanceReply, ((harness.runWithIds now scenario ids).run client state).calls =
      ((scenario.body harness.settings harness.schedule now ids).run client state).calls ++
        ids.teardownCalls backupReply instanceReply := by
  rw [harness.run_run_with_ids now scenario ids client ended]
  exact ⟨_, _, List.filter_append _ _⟩

/-- The law of calls. Whatever client answers, a run ends with a report; its calls are those of a
body and then the two deletions of the teardown. The calls of the body go through the plan of the
scenario and are cut after the first reply that makes it fail, which is when the report says so.
They stay with the instance and delete nothing. The replies to the deletions make no difference: any
run with the same calls before the teardown ends with the same report. -/
theorem calls_follow_plan (fits : harness.schedule.Fits) {expireTime : UInt64}
    (expires : timeAfter? now harness.settings.backupLifetime = some expireTime)
    (client : Client σ) (state : σ) :
    let plan := scenario.stages harness.settings harness.schedule expireTime ids
    let script := harness.runWithIds now scenario ids
    ∃ (report : Report) (body : List Event) (backupReply instanceReply : Except AdminError Unit),
      (script.run client state).outcome = .ok report ∧
      (script.run client state).calls = body ++ ids.teardownCalls backupReply instanceReply ∧
      Stage.Trace plan body report.passed ∧
      (∃ requests, Stage.Unrolls plan requests ∧ body.filterMap Event.request? <+: requests ∧
        (report.passed = true → body.filterMap Event.request? = requests)) ∧
      (∀ call ∈ body, ∃ request, call.request? = some request ∧
        request.instanceId = ids.instanceId ∧ request.deletes = false) ∧
      ∀ {τ : Type} (other : Client τ) (start : τ)
        (otherBackupReply otherInstanceReply : Except AdminError Unit),
        (script.run other start).calls =
          body ++ ids.teardownCalls otherBackupReply otherInstanceReply →
        (script.run other start).outcome = .ok report := by
  intro plan script
  have performs := Scenario.body_performs harness.settings ids scenario fits expires
  have sound := Scenario.stages_sound scenario harness.settings harness.schedule expireTime ids
  obtain ⟨outcome, ended, trace⟩ := performs.run_traced client state
  obtain ⟨backupReply, instanceReply, calls⟩ :=
    harness.calls_run_with_ids now scenario ids client ended
  refine ⟨report scenario ids outcome, _, backupReply, instanceReply, ?_, calls, ?_, ?_, ?_, ?_⟩
  · rw [harness.run_run_with_ids now scenario ids client ended]
  · rw [passed_report]
    exact trace
  · rw [passed_report]
    exact trace.exists_unrolls fun stage listed => (sound stage listed).1
  · intro call made
    obtain ⟨stage, listed, asked⟩ := trace.request_mem call made
    exact ⟨stage.request, asked, (sound stage listed).2⟩
  · intro τ other start otherBackupReply otherInstanceReply same
    obtain ⟨otherOutcome, otherEnded, -⟩ := performs.run_traced other start
    obtain ⟨_, _, otherCalls⟩ := harness.calls_run_with_ids now scenario ids other otherEnded
    have bodies := (List.append_inj' (otherCalls.symm.trans same) rfl).1
    have alike := Script.outcome_eq_of_calls_eq _ other client bodies
    rw [harness.run_run_with_ids now scenario ids other (alike.trans ended)]

/-- A client that counts the calls that it is asked. It creates what it is asked to create, shows
the key as pending in its third and fourth reply and as converged in its fifth, and refuses the read
after that. When the backup is to be deleted, it is missing. -/
def refusingSixth (clusterId version : String) : Client Nat := fun request count =>
  (match request with
    | .createInstance instanceId specs => .ok ⟨instanceId, specs.map ClusterSpec.id, 7⟩
    | .createTable instanceId tableId families => .ok ⟨tableId, instanceId, families, 7⟩
    | .getEncryption _ _ =>
      if count < 4 then .ok (.ofList [(clusterId, [Encryption.pending])])
      else if count < 5 then .ok (.ofList [(clusterId, [Encryption.converged version])])
      else .error (.unavailable "try again later")
    | .deleteInstance _ => .ok ()
    | .deleteBackup .. => .error (.notFound "no backup")
    | _ => .error (.unavailable "not asked for"), count + 1)

/-- Against it a table run with a wait creates an instance and a table, polls three times, and fails
with the read after the wait. It is torn down all the same, although the backup cannot be deleted.
-/
theorem calls_of_late_refusal :
    let key := "projects/p/locations/us-central1/keyRings/r/cryptoKeys/k"
    let harness : Harness :=
      ⟨{ Settings.scaffold "p" key with waitForKeyStatus := true }, .usual⟩
    let ids := ScenarioIds.ofRun "cmek-it-" .table 7
    let client := refusingSixth "cmek-it-7-tb-c1" (key ++ "/cryptoKeyVersions/1")
    let run := (harness.runWithIds 7 .table ids).run client 0
    ∃ (report : Report) (body : List Event) (backupReply instanceReply : Except AdminError Unit),
      run.outcome = .ok report ∧ run.calls = body ++ ids.teardownCalls backupReply instanceReply ∧
      Stage.Trace (Scenario.table.stages harness.settings harness.schedule 21607 ids) body
        report.passed ∧
      report.passed = false ∧
      run.calls.filterMap Event.request? =
        [.createInstance "cmek-it-7-tb"
          [⟨"cmek-it-7-tb-c1", "us-central1-b", 1, .ssd, some key⟩,
            ⟨"cmek-it-7-tb-c2", "us-central1-c", 1, .ssd, some key⟩],
        .createTable "cmek-it-7-tb" "test-table-for-cmek-it" ["cf"],
        .getEncryption "cmek-it-7-tb" "test-table-for-cmek-it",
        .getEncryption "cmek-it-7-tb" "test-table-for-cmek-it",
        .getEncryption "cmek-it-7-tb" "test-table-for-cmek-it",
        .getEncryption "cmek-it-7-tb" "test-table-for-cmek-it",
        .deleteBackup "cmek-it-7-tb" "cmek-it-7-tb-c1" "test-table-for-cmek-it-backup",
        .deleteInstance "cmek-it-7-tb"] := by
  intro key harness ids client run
  have fits : harness.schedule.Fits := by decide
  have expires : timeAfter? 7 harness.settings.backupLifetime = some 21607 := by decide
  let watch : Watch := ⟨ids.instanceId, ids.tableId, ids.clusterId⟩
  have pending (place : Nat) (early : place < 2) :
      watch.Shows (client.reply watch.request place 2) [Encryption.pending] := by
    match place, early with
    | 0, _ => exact ⟨_, rfl, by decide⟩
    | 1, _ => exact ⟨_, rfl, by decide⟩
  have undecided (place : Nat) (early : place < 2) :
      ¬ watch.Decisive (client.reply watch.request place 2) :=
    mt (pending place early).decisive_iff.mp Watch.not_final_pending
  have shown : watch.Shows (client.reply watch.request 2 2)
      [Encryption.converged (key ++ "/cryptoKeyVersions/1")] := ⟨_, rfl, by decide⟩
  obtain ⟨waited, -, waits⟩ := watch.run_script_decisive client fits (by decide) undecided shown
    (.inr ⟨_, rfl, rfl⟩)
  -- The body is two calls that create, the wait, and the read that is refused.
  let script := Scenario.table.body harness.settings harness.schedule 7 ids
  let outcome := Outcome.fail { Findings.nothing with pollAttempts := some 3 }
    (.admin (.unavailable "try again later"))
  obtain ⟨state, events, failed, asked⟩ : ∃ (state : Nat) (events : List Event),
      script.run client 0 = ⟨.ok outcome, state, events⟩ ∧
      (events.filter (·.request?.isSome)).filterMap Event.request? =
        .createInstance ids.instanceId [⟨ids.clusterId, "us-central1-b", 1, .ssd, some key⟩,
          ⟨ids.secondClusterId, "us-central1-c", 1, .ssd, some key⟩] ::
        .createTable ids.instanceId ids.tableId ["cf"] :: List.replicate 4 watch.request := by
    simp only [script, Scenario.body, Scenario.tableScript, Scenario.expectAnswer]
    rw [Script.run_attempt_answered client rfl, Script.run_attempt_answered client rfl, if_pos rfl,
      Script.run_bind, waits]
    exact ⟨_, _, rfl, rfl⟩
  obtain ⟨report, body, backupReply, instanceReply, ended, calls, trace, -⟩ :=
    harness.calls_follow_plan 7 .table ids fits expires client 0
  have whole : run = _ := harness.run_run_with_ids 7 .table ids client (congrArg Run.outcome failed)
  have unsuccessful : report.passed = false := by
    obtain rfl := Except.ok.inj (ended.symm.trans (congrArg Run.outcome whole))
    rfl
  refine ⟨report, body, backupReply, instanceReply, ended, calls, trace, unsuccessful, ?_⟩
  rw [whole, failed, Run.calls, List.filter_append, List.filterMap_append, asked]
  rfl

end Harness

end CustomerKeys
