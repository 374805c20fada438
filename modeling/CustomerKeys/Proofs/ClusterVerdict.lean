import CustomerKeys.Proofs.KeyConfusion

/-!
# The verdict of a cluster run against any client

A cluster run asks for an instance with one cluster, looks at it, adds a second cluster, looks at
that, and asks for a third one in a zone that the key does not cover. The third call is made only
when the ones before it have gone well, which `ForeignReached` states on their replies. From there
the reply to the third call decides alone: a pass is a refusal as a failed precondition, in either
form of the error, whose text contains the one that is expected.

The text of such a refusal is the one finding of a cluster run. It is kept whether or not it is the
expected one, and no other end of a run has it.
-/

namespace CustomerKeys

variable {σ : Type}

namespace Scenario

/-- The reply to a look at a cluster that shows the configured key. -/
def ShowsKey (settings : Settings) (reply : Except AdminError Cluster) : Prop :=
  ∃ cluster, reply = .ok cluster ∧ cluster.key = some settings.key

/-- The reply refuses a cluster as a failed precondition and reads like this in full. The error may
have its own form or the general one with the code. -/
inductive RefusedAs : Except AdminError Cluster → String → Prop
  | ownForm (detail : String) :
    RefusedAs (.error (.failedPrecondition detail)) (AdminError.failedPrecondition detail).message
  | generalForm (detail : String) :
    RefusedAs (.error (.api .failedPrecondition detail))
      (AdminError.api .failedPrecondition detail).message

/-- Ways to end that no failure before the last call is one of. -/
structure ExcludesEarlyFailures (holds : Outcome → Prop) : Prop where
  admin : ∀ error, ¬ holds (.fail .nothing (.admin error))
  assertion : ∀ mismatch, ¬ holds (.fail .nothing (.assertion mismatch))

/-- The two forms are those errors that have the code. -/
theorem refused_as_iff {reply : Except AdminError Cluster} {text : String} :
    RefusedAs reply text ↔
      ∃ error, reply = .error error ∧ error.isFailedPrecondition = true ∧ error.message = text := by
  constructor
  · intro refused
    cases refused with
    | ownForm detail => exact ⟨_, rfl, rfl, rfl⟩
    | generalForm detail => exact ⟨_, rfl, rfl, rfl⟩
  · rintro ⟨error, rfl, precondition, rfl⟩
    have coded : error.code = .failedPrecondition := of_decide_eq_true precondition
    cases error with
    | failedPrecondition detail => exact .ownForm detail
    | api code detail =>
      obtain rfl : code = .failedPrecondition := coded
      exact .generalForm detail
    | notFound detail => cases coded
    | alreadyExists detail => cases coded
    | unavailable detail => cases coded

section Judgement

variable {settings : Settings} {reply : Except AdminError Cluster}

/-- A refusal with the expected text in it is what passes. -/
theorem judge_rejection_passes_iff_refused_as :
    (judgeRejection settings reply).failure = none ↔ ∃ text, RefusedAs reply text ∧
      (expectedRejection settings.project settings.key settings.foreignZone).toList <:+:
        text.toList := by
  rw [judge_rejection_passes_iff]
  simp only [refused_as_iff, RefusalExpected, occursIn, stands_in_iff_is_infix]
  constructor
  · rintro ⟨error, refused, precondition, contained⟩
    exact ⟨_, ⟨error, refused, precondition, rfl⟩, contained⟩
  · rintro ⟨_, ⟨error, refused, precondition, rfl⟩, contained⟩
    exact ⟨error, refused, precondition, contained⟩

/-- The text of a refusal is kept, and nothing else is found. -/
theorem rejection_judge_rejection_iff {text : String} :
    (judgeRejection settings reply).findings.rejection = some text ↔ RefusedAs reply text := by
  rw [refused_as_iff]
  unfold judgeRejection
  cases reply with
  | ok cluster => simp [Outcome.fail, Findings.nothing]
  | error error =>
    by_cases precondition : error.isFailedPrecondition = true
    · simp only [precondition, if_true]
      split
      · simp [Outcome.success, precondition]
      · simp [Outcome.fail, precondition]
    · simp [Outcome.fail, Findings.nothing, precondition]

end Judgement

section ClusterRun

variable (settings : Settings) (ids : ScenarioIds) (client : Client σ) (state : σ)

/-- The reply to the creation of the instance with the first cluster, and the client after it. -/
def creationReply : Except AdminError Instance × σ :=
  client (.createInstance ids.instanceId [settings.clusterSpec ids.clusterId settings.primaryZone])
    state

/-- The reply to the look at the first cluster. -/
def firstLook : Except AdminError Cluster × σ :=
  client (.getCluster ids.instanceId ids.clusterId) (creationReply settings ids client state).2

/-- The reply to the creation of the second cluster. -/
def additionReply : Except AdminError Cluster × σ :=
  client (.createCluster ids.instanceId
    (settings.clusterSpec ids.secondClusterId settings.siblingZone))
    (firstLook settings ids client state).2

/-- The reply to the look at the second cluster. -/
def secondLook : Except AdminError Cluster × σ :=
  client (.getCluster ids.instanceId ids.secondClusterId)
    (additionReply settings ids client state).2

/-- The reply to the creation of a cluster in the foreign zone. -/
def foreignReply : Except AdminError Cluster × σ :=
  client (.createCluster ids.instanceId
    (settings.clusterSpec ids.rejectedClusterId settings.foreignZone))
    (secondLook settings ids client state).2

/-- A cluster run comes to its last call: the instance and its second cluster are created, and both
clusters show the configured key. -/
structure ForeignReached : Prop where
  created : ∃ made, (creationReply settings ids client state).1 = .ok made
  firstKeyed : ShowsKey settings (firstLook settings ids client state).1
  added : ∃ cluster, (additionReply settings ids client state).1 = .ok cluster
  secondKeyed : ShowsKey settings (secondLook settings ids client state).1

variable {settings ids client state} {holds : Outcome → Prop}

/-- A look at a cluster is passed when it shows the configured key. -/
theorem expect_cluster_key_ends_iff (excludes : ExcludesEarlyFailures holds) {clusterId : String}
    {next : Script Outcome} :
    (expectClusterKey settings ids clusterId next).Ends client state holds ↔
      ShowsKey settings (client (.getCluster ids.instanceId clusterId) state).1 ∧
        next.Ends client (client (.getCluster ids.instanceId clusterId) state).2 holds := by
  refine (expect_answer_ends_iff client excludes.admin).trans ?_
  constructor
  · rintro ⟨cluster, answered, ends⟩
    split at ends
    · rename_i keyed
      exact ⟨⟨cluster, answered, keyed⟩, ends⟩
    · exact absurd ((Script.done_ends_iff client).mp ends) (excludes.assertion _)
  · rintro ⟨⟨cluster, answered, keyed⟩, ends⟩
    refine ⟨cluster, answered, ?_⟩
    rw [if_pos keyed]
    exact ends

/-- A cluster run ends in a way that excludes earlier failures exactly when it comes to its last
call and the reply to that is judged so. -/
theorem cluster_script_ends_iff (excludes : ExcludesEarlyFailures holds) :
    (clusterScript settings ids).Ends client state holds ↔
      ForeignReached settings ids client state ∧
        holds (judgeRejection settings (foreignReply settings ids client state).1) := by
  have steps : (clusterScript settings ids).Ends client state holds ↔
      ∃ made, (creationReply settings ids client state).1 = .ok made ∧
        ShowsKey settings (firstLook settings ids client state).1 ∧
        ∃ cluster, (additionReply settings ids client state).1 = .ok cluster ∧
          ShowsKey settings (secondLook settings ids client state).1 ∧
          holds (judgeRejection settings (foreignReply settings ids client state).1) := by
    refine (expect_answer_ends_iff client excludes.admin).trans ?_
    refine exists_congr fun made => and_congr_right' ?_
    refine (expect_cluster_key_ends_iff excludes).trans (and_congr_right' ?_)
    refine (expect_answer_ends_iff client excludes.admin).trans ?_
    refine exists_congr fun cluster => and_congr_right' ?_
    refine (expect_cluster_key_ends_iff excludes).trans (and_congr_right' ?_)
    exact (Script.call_ends_iff client).trans (Script.done_ends_iff client)
  rw [steps]
  constructor
  · rintro ⟨made, created, firstKeyed, cluster, added, secondKeyed, judged⟩
    exact ⟨⟨⟨made, created⟩, firstKeyed, ⟨cluster, added⟩, secondKeyed⟩, judged⟩
  · rintro ⟨⟨⟨made, created⟩, firstKeyed, ⟨cluster, added⟩, secondKeyed⟩, judged⟩
    exact ⟨made, created, firstKeyed, cluster, added, secondKeyed, judged⟩

/-- Passing is no failure. -/
theorem excludes_passing : ExcludesEarlyFailures fun outcome => outcome.failure = none :=
  ⟨fun _ => nofun, fun _ => nofun⟩

/-- A failure before the last call has not found a refusal. -/
theorem excludes_rejection (text : String) :
    ExcludesEarlyFailures fun outcome => outcome.findings.rejection = some text :=
  ⟨fun _ => nofun, fun _ => nofun⟩

/-- It is not about a cluster that was accepted either. -/
theorem excludes_accepted (cluster : Cluster) (key : String) :
    ExcludesEarlyFailures fun outcome => outcome = .fail .nothing (.accepted cluster key) :=
  ⟨fun _ => nofun, fun _ => nofun⟩

end ClusterRun

end Scenario

/-- The expected text begins with the code and the first field. -/
theorem expected_rejection_begins (project key zone : String) :
    "FAILED_PRECONDITION: Error in field 'cluster' : ".toList <+:
      (expectedRejection project key zone).toList := by
  unfold expectedRejection
  rw [String.append_assoc, String.append_assoc, String.append_assoc, String.toList_append]
  exact List.prefix_append _ _

/-- A client that has every cluster under one key and refuses to create the one with a certain id.
-/
def Client.refusing (key refusedId : String) (refusal : AdminError) : Client Unit :=
  fun request state =>
    match request with
    | .getCluster instanceId clusterId =>
      (.ok (.ofSpec instanceId ⟨clusterId, "us-central1-b", 1, .ssd, some key⟩), state)
    | .createCluster instanceId spec =>
      (if spec.id = refusedId then .error refusal else .ok (.ofSpec instanceId spec), state)
    | request => Client.protecting "" "" request state

namespace Harness

/-- The verdict of a cluster run, whatever the client and whatever the schedule. The run always
reports. It reports a pass exactly when the instance and the second cluster are created, both
clusters show the configured key, and the cluster in the foreign zone is refused as a failed
precondition with the expected text in the text of the refusal. That text is reported exactly when
there is such a refusal, expected or not. When the cluster in the foreign zone is created instead,
the run has failed and says so. -/
theorem cluster_verdict_exact (harness : Harness) (now : UInt64) (ids : ScenarioIds)
    (client : Client σ) (state : σ) :
    let reached := Scenario.ForeignReached harness.settings ids client state
    let reply := (Scenario.foreignReply harness.settings ids client state).1
    let expected := expectedRejection harness.settings.project harness.settings.key
      harness.settings.foreignZone
    ∃ report, ((harness.runWithIds now .instanceCluster ids).run client state).outcome =
        .ok report ∧
      (report.verdict = .passed ↔ reached ∧
        ∃ text, Scenario.RefusedAs reply text ∧ expected.toList <:+: text.toList) ∧
      (∀ text, report.findings.rejection = some text ↔ reached ∧ Scenario.RefusedAs reply text) ∧
      (∀ cluster, reached → reply = .ok cluster →
        report.verdict = .failed (Failure.accepted cluster harness.settings.key).message) := by
  intro reached reply expected
  obtain ⟨outcome, ended⟩ :=
    (Scenario.cluster_script_confined harness.settings ids).exists_value client state
  have ends {holds : Outcome → Prop} (excludes : Scenario.ExcludesEarlyFailures holds) :
      holds outcome ↔ reached ∧ holds (Scenario.judgeRejection harness.settings reply) := by
    rw [← Scenario.cluster_script_ends_iff excludes, Script.Ends, ended]
    simp
  refine ⟨report .instanceCluster ids outcome, ?_, ?_, ?_, ?_⟩
  · rw [harness.run_run_with_ids now .instanceCluster ids client ended]
  · refine Outcome.verdict_eq_passed_iff.trans ?_
    rw [ends Scenario.excludes_passing, Scenario.judge_rejection_passes_iff_refused_as]
  · intro text
    refine (ends (Scenario.excludes_rejection text)).trans ?_
    rw [Scenario.rejection_judge_rejection_iff]
  · intro cluster comes accepted
    have failed : outcome = .fail .nothing (.accepted cluster harness.settings.key) := by
      rw [ends (Scenario.excludes_accepted cluster harness.settings.key), accepted]
      exact ⟨comes, rfl⟩
    rw [failed]
    rfl

/-- A refusal in the general form passes when the expected text stands somewhere in it. One in its
own form with another text does not pass, and its text is reported. -/
theorem refusals_in_either_form :
    let key := "projects/p/locations/us-central1/keyRings/r/cryptoKeys/k"
    let harness : Harness := ⟨Settings.scaffold "p" key, .usual⟩
    let ids := ScenarioIds.ofRun "cmek-it-" .instanceCluster 7
    let run (refusal : AdminError) := (harness.runWithIds 7 .instanceCluster ids).run
      (Client.refusing key ids.rejectedClusterId refusal) ()
    let expected := expectedRejection "p" key harness.settings.foreignZone
    (∃ report, (run (.api .failedPrecondition ("relayed: " ++ expected))).outcome = .ok report ∧
      report.verdict = .passed) ∧
    ∃ report, (run (.failedPrecondition "over quota")).outcome = .ok report ∧
      report.verdict ≠ .passed ∧
      report.findings.rejection = some (AdminError.failedPrecondition "over quota").message := by
  intro key harness ids run expected
  have reached (refusal : AdminError) : Scenario.ForeignReached harness.settings ids
      (Client.refusing key ids.rejectedClusterId refusal) () :=
    ⟨⟨_, rfl⟩, ⟨_, rfl, rfl⟩, ⟨_, rfl⟩, ⟨_, rfl, rfl⟩⟩
  refine ⟨?_, ?_⟩
  · obtain ⟨report, ended, passes, -⟩ := cluster_verdict_exact harness 7 ids
      (Client.refusing key ids.rejectedClusterId
        (.api .failedPrecondition ("relayed: " ++ expected))) ()
    have last : expected.toList <:+
        ("FAILED_PRECONDITION" ++ ": " ++ ("relayed: " ++ expected)).toList := by
      simp only [String.toList_append, ← List.append_assoc]
      exact List.suffix_append _ _
    exact ⟨report, ended, passes.mpr ⟨reached _, _, .generalForm _, last.isInfix⟩⟩
  · obtain ⟨report, ended, passes, rejection, -⟩ := cluster_verdict_exact harness 7 ids
      (Client.refusing key ids.rejectedClusterId (.failedPrecondition "over quota")) ()
    have kept := (rejection _).mpr ⟨reached _, .ownForm "over quota"⟩
    refine ⟨report, ended, ?_, kept⟩
    intro passed
    obtain ⟨-, text, refused, contained⟩ := passes.mp passed
    have same := ((rejection text).mpr ⟨reached _, refused⟩).symm.trans kept
    obtain rfl := Option.some.inj same
    -- Already the opening of the expected text is longer than the text of this refusal.
    have opening := expected_rejection_begins "p" key harness.settings.foreignZone
    exact absurd (opening.isInfix.trans contained).length_le (by decide)

end Harness

end CustomerKeys
