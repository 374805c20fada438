import CustomerKeys.Proofs.Confinement
import CustomerKeys.Proofs.Polling
import CustomerKeys.Scenario.Run

/-!
# What is left of a run

Every scenario stays with the instance of its ids, and with a schedule whose waits add up it comes
to an end against any client. The teardown then follows, whatever the end was, and its last call
leaves no instance behind. A run under an id that was free therefore gives the plane back as it was:
the other instances were never touched, and the scenario's own is gone with everything it held.

Runs under an id that was taken are left out. There the teardown deletes what the run did not make.
-/

namespace CustomerKeys

variable {σ : Type}

/-- A tracker that asks for a wait is pending with attempts left, and asks for the entry at its
place. -/
theorem Tracker.step_sleep {tracker next : Tracker} {observation : Observation} {delay : Duration}
    (slept : tracker.step observation = (.sleep delay, next)) :
    tracker.attempts + 1 < tracker.schedule.steps.length ∧
      tracker.schedule.steps[tracker.attempts]? = some delay ∧
        next = ⟨tracker.schedule, tracker.attempts + 1, .pending⟩ := by
  unfold step at slept
  split at slept
  · simp at slept
  · simp at slept
  · split at slept
    · simp at slept
    · split at slept
      · rename_i early
        obtain ⟨sameDelay, sameNext⟩ := Prod.mk.inj slept
        have inside : tracker.attempts < tracker.schedule.steps.length := Nat.lt_of_succ_lt early
        refine ⟨early, ?_, sameNext.symm⟩
        rw [List.getElem?_eq_getElem inside, Action.sleep.inj sameDelay]
      · simp at slept

namespace Watch

variable (watch : Watch)

/-- A wait in progress stays with its instance. It ends, because the attempts left decrease, and no
addition of waits fails, because the time waited is the sum of the entries already slept. -/
theorem follow_confined {schedule : Schedule} (fits : schedule.Fits) (tracker : Tracker)
    (waited : Duration) (scheduled : tracker.schedule = schedule)
    (summed : Duration.total? (schedule.steps.take tracker.attempts) = some waited) :
    (watch.follow tracker waited).Confined watch.instanceId := by
  induction measured : tracker.remaining using Nat.strongRecOn generalizing tracker waited with
  | ind remaining inductionHypothesis =>
    rw [follow]
    refine .call _ rfl fun reply => ?_
    split
    · exact .done _
    · split
      · exact .done _
      · exact .done _
      · rename_i delay after slept
        have fewer := Tracker.remaining_lt_of_sleep slept
        obtain ⟨early, scheduledDelay, rfl⟩ := Tracker.step_sleep slept
        obtain ⟨inside, rfl⟩ := List.getElem?_eq_some_iff.mp scheduledDelay
        subst scheduled
        obtain ⟨longer, added, extended⟩ := fits.exists_add?_waited early summed
        refine .sleep _ ?_
        rw [added]
        exact inductionHypothesis _ (measured ▸ fewer) _ _ rfl extended rfl

/-- A whole wait stays with its instance. -/
theorem script_confined {schedule : Schedule} (fits : schedule.Fits) :
    (watch.script schedule).Confined watch.instanceId :=
  watch.follow_confined fits _ _ rfl (total?_take_zero schedule)

end Watch

namespace Scenario

variable (settings : Settings) (ids : ScenarioIds)

/-- A call that must succeed, with a confined continuation. -/
theorem expect_answer_confined {found : Findings} {request : Request}
    {answered : request.Answer → Script Outcome} (addressed : request.instanceId = ids.instanceId)
    (rest : ∀ answer, (answered answer).Confined ids.instanceId) :
    (expectAnswer found request answered).Confined ids.instanceId :=
  .attempt addressed (fun _ => .done _) rest

/-- A look-up of a cluster stays with the instance, whatever key the cluster reports, if what comes
next does. -/
theorem expect_cluster_key_confined {clusterId : String} {next : Script Outcome}
    (rest : next.Confined ids.instanceId) :
    (expectClusterKey settings ids clusterId next).Confined ids.instanceId := by
  refine expect_answer_confined ids rfl fun cluster => ?_
  split
  · exact rest
  · exact .done _

/-- The last read of a table stays with the instance. -/
theorem inspect_table_confined (found : Findings) :
    (inspectTable settings ids found).Confined ids.instanceId :=
  expect_answer_confined ids rfl fun _ => .done _

/-- The cluster scenario stays with its instance: each of its calls names it, and it stops after the
last. -/
theorem cluster_script_confined : (clusterScript settings ids).Confined ids.instanceId := by
  refine expect_answer_confined ids rfl fun _ => ?_
  refine expect_cluster_key_confined settings ids ?_
  refine expect_answer_confined ids rfl fun _ => ?_
  refine expect_cluster_key_confined settings ids ?_
  exact .call _ rfl fun _ => .done _

/-- The table scenario stays with its instance. With a wait this rests on the waits adding up, since
a script that aborts does not count as confined. -/
theorem table_script_confined {schedule : Schedule} (fits : schedule.Fits) :
    (tableScript settings schedule ids).Confined ids.instanceId := by
  refine expect_answer_confined ids rfl fun _ => ?_
  refine expect_answer_confined ids rfl fun _ => ?_
  split
  · let watch : Watch := ⟨ids.instanceId, ids.tableId, ids.clusterId⟩
    refine (watch.script_confined fits).bind fun result => ?_
    cases result with
    | error error => exact .done _
    | ok convergence => exact inspect_table_confined settings ids _
  · exact inspect_table_confined settings ids _

/-- The backup scenario stays with its instance, also when the time at which the backup expires
cannot be computed and it stops before the backup. -/
theorem backup_script_confined (now : UInt64) :
    (backupScript settings now ids).Confined ids.instanceId := by
  refine expect_answer_confined ids rfl fun _ => ?_
  refine expect_answer_confined ids rfl fun _ => ?_
  split
  · exact .done _
  · refine expect_answer_confined ids rfl fun _ => ?_
    exact expect_answer_confined ids rfl fun _ => .done _

/-- The body of every scenario stays with the instance of its ids. -/
theorem body_confined (scenario : Scenario) {schedule : Schedule} (fits : schedule.Fits)
    (now : UInt64) : (scenario.body settings schedule now ids).Confined ids.instanceId := by
  cases scenario with
  | instanceCluster => exact cluster_script_confined settings ids
  | table => exact table_script_confined settings ids fits
  | backup => exact backup_script_confined settings ids now

end Scenario

namespace Harness

/-- The report of a run whose body came to an outcome. -/
def report (scenario : Scenario) (ids : ScenarioIds) (outcome : Outcome) : Report :=
  ⟨scenario, ids.instanceId, outcome.verdict, outcome.findings, 0⟩

/-- A run with its teardown stays with the instance of its ids: its body does, and both deletions of
the teardown name the same instance. -/
theorem run_with_ids_confined (harness : Harness) (fits : harness.schedule.Fits) (now : UInt64)
    (scenario : Scenario) (ids : ScenarioIds) :
    (harness.runWithIds now scenario ids).Confined ids.instanceId := by
  refine (Scenario.body_confined harness.settings ids scenario fits now).bind fun outcome => ?_
  refine .bind ?_ fun _ => .done _
  exact .call _ rfl fun _ => .call _ rfl fun _ => .done _

/-- Against any client a run is its body, then the two deletions whatever they are answered, then
the report of what the body came to. -/
theorem run_run_with_ids (harness : Harness) (now : UInt64) (scenario : Scenario)
    (ids : ScenarioIds)
    (client : Client σ) {state : σ} {outcome : Outcome}
    (ended : ((scenario.body harness.settings harness.schedule now ids).run client state).outcome =
      .ok outcome) :
    (harness.runWithIds now scenario ids).run client state =
      let body := (scenario.body harness.settings harness.schedule now ids).run client state
      let backup : Request := .deleteBackup ids.instanceId ids.clusterId ids.backupId
      let whole : Request := .deleteInstance ids.instanceId
      let kept := (client backup body.state).2
      ⟨.ok (report scenario ids outcome), (client whole kept).2,
        body.events ++
          [.called backup (client backup body.state).1, .called whole (client whole kept).1]⟩ := by
  rw [runWithIds, Script.run_bind, Run.followed, ended]
  rfl

end Harness

/-- Deleting an instance leaves none under its id, whether or not there was one: it is either
deleted or reported as missing. -/
theorem Handle.single_delete_instance (handle : Handle) (now : UInt64) (instanceId : String)
    (held : Option Holdings) : (handle.single now (.deleteInstance instanceId) held).2 = none := by
  cases held <;> rfl

/-- An instance that the plane does not have is not looked up either. -/
theorem Plane.lookup_eq_none_of_has_instance {plane : Plane} {instanceId : String}
    (fresh : plane.hasInstance instanceId = false) : plane[instanceId]? = none :=
  Std.ExtTreeMap.getElem?_eq_none_of_contains_eq_false fresh

namespace Harness

/-- A run under a free instance id gives the plane back as it was: every instance with its clusters,
tables, counters and backups. It does so wherever the scenario fails, through any handle, and
however the clock moves between the calls; it always ends with a report.

The other instances are out of reach of a confined script. The instance of the run itself did not
exist before, and the last call of the teardown deletes it. -/
theorem run_with_ids_leaves_no_trace (harness : Harness) (fits : harness.schedule.Fits)
    (handle : Handle) (plane : Plane) (readings : Nat → UInt64) (now : UInt64) (scenario : Scenario)
    (ids : ScenarioIds) (fresh : plane.hasInstance ids.instanceId = false) :
    (∃ report, ((harness.runWithIds now scenario ids).run handle.clocked
      (plane, readings)).outcome = .ok report) ∧
    ((harness.runWithIds now scenario ids).run handle.clocked (plane, readings)).state.1 =
      plane := by
  have confined := harness.run_with_ids_confined fits now scenario ids
  refine ⟨confined.exists_value handle.clocked (plane, readings), ?_⟩
  apply Std.ExtTreeMap.ext_getElem?
  intro other
  by_cases own : other = ids.instanceId
  · obtain ⟨outcome, ended⟩ :=
      (Scenario.body_confined harness.settings ids scenario fits now).exists_value handle.clocked
        (plane, readings)
    rw [harness.run_run_with_ids now scenario ids handle.clocked ended, own,
      Plane.lookup_eq_none_of_has_instance fresh]
    simp only [Handle.clocked, handle.client_snd, handle.single_delete_instance]
    exact Plane.lookup_put_self _ _ _
  · exact confined.run_clocked_of_ne handle plane readings own

/-- A table run that waits through refused reads, beside an instance that stays. -/
theorem table_run_beside_kept_instance :
    let key := "projects/p/locations/us-central1/keyRings/r/cryptoKeys/k"
    let harness : Harness :=
      ⟨{ Settings.scaffold "p" key with waitForKeyStatus := true }, .usual⟩
    let plane := Plane.empty.put "kept" (some (.ofSpecs "kept" [⟨"c", "a-b", 1, .ssd, none⟩]))
    let ids := ScenarioIds.ofRun "cmek-it-" .table 7
    harness.schedule.Fits ∧ plane.hasInstance ids.instanceId = false ∧
      ((harness.runWithIds 7 .table ids).run (Handle.clocked ⟨"p", 3, 2⟩)
        (plane, fun place => 7 + .ofNat place)).state.1 = plane := by
  intro key harness plane ids
  have fits : harness.schedule.Fits := by decide
  have fresh : plane.hasInstance ids.instanceId = false := by decide
  exact ⟨fits, fresh, (harness.run_with_ids_leaves_no_trace fits ⟨"p", 3, 2⟩ plane _ 7 .table ids
    fresh).2⟩

end Harness

end CustomerKeys
