import CustomerKeys.Proofs.ScenarioCalls

/-!
# Schedules whose waits do not add up

A wait keeps the sum of what it has slept. Settings are accepted with any schedule that has an
entry, so the sum of the entries may have no answer, and a wait that gets that far aborts. What was
bound behind it is then lost, the teardown included.

The waits of the schedule decide this alone: a harness whose waits add up, or that does not wait at
all, ends every run with a report and a teardown, and no other harness does. The lifetime of a
backup is different. Its sum with the time is checked when the settings are accepted, and when the
clock has moved on since, it is a failure like any other.
-/

namespace CustomerKeys

namespace Watch

variable {σ : Type} (watch : Watch) (client : Client σ)

/-- After a reply that decides nothing, a wait that cannot be added to the ones before it is the end
of the script. -/
theorem run_follow_abort {schedule : Schedule} {attempts : Nat} {delay waited : Duration}
    {state : σ} (early : attempts + 1 < schedule.steps.length)
    (scheduled : schedule.steps[attempts]? = some delay)
    (undecided : ¬ watch.Decisive (client watch.request state).1)
    (exceeds : waited.add? delay = none) :
    (watch.follow ⟨schedule, attempts, .pending⟩ waited).run client state =
      ⟨.error .durationOverflow, (client watch.request state).2,
        [watch.fetched client state, .slept delay]⟩ := by
  rw [watch.run_follow_early client early scheduled undecided, exceeds]
  rfl

/-- Before the last attempt the entries slept so far are not yet all the waits of the schedule. -/
theorem early_of_not_fits {schedule : Schedule} (exceeds : ¬ schedule.Fits) {attempts : Nat}
    {waited : Duration} (summed : Duration.total? (schedule.steps.take attempts) = some waited)
    (inside : attempts < schedule.attempts) : attempts + 1 < schedule.steps.length := by
  refine Decidable.byContradiction fun late => exceeds ?_
  have last : attempts = schedule.steps.length - 1 := by
    simp only [Schedule.attempts] at inside
    omega
  rw [Schedule.Fits, List.dropLast_eq_take, ← last, summed]
  rfl

/-- When the waits do not add up and no reply is decisive before the last attempt, the wait aborts.

The induction is on the attempts left. The time waited so far is the sum of the entries before the
current attempt, so the addition that fails is reached before the last attempt. -/
theorem run_follow_overflow {schedule : Schedule} (exceeds : ¬ schedule.Fits) {attempts : Nat}
    {waited : Duration} {state : σ} (inside : attempts < schedule.attempts)
    (summed : Duration.total? (schedule.steps.take attempts) = some waited)
    (undecided : ∀ place, attempts + place + 1 < schedule.attempts →
      ¬ watch.Decisive (client.reply watch.request place state)) :
    ((watch.follow ⟨schedule, attempts, .pending⟩ waited).run client state).outcome =
      .error .durationOverflow := by
  induction left : schedule.attempts - attempts generalizing attempts waited state with
  | zero => omega
  | succ left inductionHypothesis =>
    have early := early_of_not_fits exceeds summed inside
    have first : ¬ watch.Decisive (client watch.request state).1 := undecided 0 early
    have scheduled : schedule.steps[attempts]? = some schedule.steps[attempts] :=
      List.getElem?_eq_getElem inside
    cases added : waited.add? schedule.steps[attempts] with
    | none => rw [watch.run_follow_abort client early scheduled first added]
    | some longer =>
      have extended : Duration.total? (schedule.steps.take (attempts + 1)) = some longer := by
        have before := Duration.total?_eq_some_iff.mp summed
        have last := Duration.add?_eq_some_iff.mp added
        rw [List.take_succ_eq_append_getElem (by omega), Duration.total?_eq_some_iff,
          Duration.total_nanos_append, Duration.total_nanos_cons, Duration.total_nanos_nil]
        omega
      rw [watch.run_follow_sleep client early scheduled first added, Run.outcome_preceded,
        Run.outcome_preceded]
      refine inductionHypothesis early extended (fun place before => ?_) (by omega)
      exact undecided (place + 1) (by omega)

/-- A wait makes no other call than its own, however it ends, and so leaves the client in a state
that this call alone leads to. -/
theorem follow_asks (tracker : Tracker) (waited : Duration) (state : σ) :
    (∀ call ∈ ((watch.follow tracker waited).run client state).calls,
      call.request? = some watch.request) ∧
    ∃ times, ((watch.follow tracker waited).run client state).state =
      client.after watch.request times state := by
  induction measured : tracker.remaining using Nat.strongRecOn
    generalizing tracker waited state with
  | ind remaining inductionHypothesis =>
    have once : client.after watch.request 1 state = (client watch.request state).2 := rfl
    rw [follow, Script.run_call, Run.calls_preceded_called, Run.state_preceded, ← once]
    split
    · exact ⟨List.forall_mem_singleton.mpr rfl, 1, rfl⟩
    · split
      · exact ⟨List.forall_mem_singleton.mpr rfl, 1, rfl⟩
      · exact ⟨List.forall_mem_singleton.mpr rfl, 1, rfl⟩
      · rename_i delay after slept
        have fewer := Tracker.remaining_lt_of_sleep slept
        rw [Script.run_sleep, Run.calls_preceded_slept, Run.state_preceded]
        split
        · exact ⟨List.forall_mem_singleton.mpr rfl, 1, rfl⟩
        · rename_i longer added
          obtain ⟨asked, times, left⟩ := inductionHypothesis _ (measured ▸ fewer) after longer
            (client.after watch.request 1 state) rfl
          exact ⟨List.forall_mem_cons.mpr ⟨rfl, asked⟩, times + 1, left⟩

end Watch

/-- After an abort nothing of what was bound behind it runs. -/
theorem Run.followed_of_abort {σ α β : Type} {first : Run σ α} {cause : Abort}
    (aborted : first.outcome = .error cause) (next : α → σ → Run σ β) :
    first.followed next = ⟨.error cause, first.state, first.events⟩ := by
  rw [followed, aborted]

/-- The schedule makes a difference only to settings that wait. -/
theorem Scenario.body_of_not_waits {settings : Settings}
    (unawaited : settings.waitForKeyStatus = false) (scenario : Scenario)
    (schedule other : Schedule) (now : UInt64) (ids : ScenarioIds) :
    scenario.body settings schedule now ids = scenario.body settings other now ids := by
  cases scenario with
  | instanceCluster => rfl
  | table => simp only [body, tableScript, unawaited, Bool.false_eq_true, if_false]
  | backup => rfl

namespace Harness

variable {σ : Type} (harness : Harness) (now : UInt64) (ids : ScenarioIds)

/-- The body of a run comes to an outcome when the waits add up or there are none. -/
theorem exists_outcome (waits : harness.settings.waitForKeyStatus = true → harness.schedule.Fits)
    (scenario : Scenario) (client : Client σ) (state : σ) :
    ∃ outcome, ((scenario.body harness.settings harness.schedule now ids).run client
      state).outcome = .ok outcome := by
  cases awaited : harness.settings.waitForKeyStatus with
  | true =>
    have fits := waits awaited
    exact (Scenario.body_confined harness.settings ids scenario fits now).exists_value client state
  | false =>
    rw [Scenario.body_of_not_waits awaited scenario harness.schedule .usual now ids]
    have fits : Schedule.usual.Fits := by decide
    exact (Scenario.body_confined harness.settings ids scenario fits now).exists_value client state

section Abandoned

variable (client : Client σ) {state created tabled : σ} {made : Instance} {table : Table}
  (awaited : harness.settings.waitForKeyStatus = true)
  (instanceMade : client
    (.createInstance ids.instanceId (Scenario.tableSpecs harness.settings ids)) state =
      (.ok made, created))
  (tableMade : client (.createTable ids.instanceId ids.tableId [scenarioFamily]) created =
    (.ok table, tabled))

include awaited instanceMade tableMade

/-- A table run whose wait aborts is over with it. -/
theorem run_run_with_ids_of_abort {cause : Abort}
    {wait : Run σ (Except ConvergenceError Convergence)}
    (waited : (Watch.script ⟨ids.instanceId, ids.tableId, ids.clusterId⟩ harness.schedule).run
      client tabled = wait) (aborted : wait.outcome = .error cause) :
    (harness.runWithIds now .table ids).run client state =
      ⟨.error cause, wait.state,
        .called (.createInstance ids.instanceId (Scenario.tableSpecs harness.settings ids))
            (.ok made) ::
          .called (.createTable ids.instanceId ids.tableId [scenarioFamily]) (.ok table) ::
          wait.events⟩ := by
  have checks : (Scenario.tableChecks harness.settings harness.schedule ids).run client tabled =
      ⟨.error cause, wait.state, wait.events⟩ := by
    rw [Scenario.tableChecks, if_pos awaited, Script.run_bind, waited,
      Run.followed_of_abort aborted]
  have body : (Scenario.table.body harness.settings harness.schedule now ids).run client state =
      (((Scenario.tableChecks harness.settings harness.schedule ids).run client tabled).preceded
        (.called (.createTable ids.instanceId ids.tableId [scenarioFamily]) (.ok table))).preceded
        (.called (.createInstance ids.instanceId (Scenario.tableSpecs harness.settings ids))
          (.ok made)) := by
    refine (Script.run_attempt_answered client instanceMade).trans ?_
    exact congrArg (Run.preceded · _) (Script.run_attempt_answered client tableMade)
  rw [checks] at body
  rw [runWithIds, Script.run_bind, body, Run.followed_of_abort rfl]
  rfl

/-- A table run whose waits do not add up aborts when the client makes the instance and the table
and shows no key status before the last attempt. Nothing is deleted then; from the table on, the
client has only been asked for the key status. -/
theorem run_abandoned (exceeds : ¬ harness.schedule.Fits)
    (undecided : ∀ place, place + 1 < harness.schedule.attempts →
      ¬ Watch.Decisive ⟨ids.instanceId, ids.tableId, ids.clusterId⟩
        (client.reply (.getEncryption ids.instanceId ids.tableId) place tabled)) :
    ((harness.runWithIds now .table ids).run client state).outcome = .error .durationOverflow ∧
      (∀ call ∈ ((harness.runWithIds now .table ids).run client state).calls,
        ∀ request, call.request? = some request → request.deletes = false) ∧
      ∃ times, ((harness.runWithIds now .table ids).run client state).state =
        client.after (.getEncryption ids.instanceId ids.tableId) times tabled := by
  let watch : Watch := ⟨ids.instanceId, ids.tableId, ids.clusterId⟩
  have aborted := watch.run_follow_overflow client exceeds harness.schedule.attempts_pos
    (Watch.total?_take_zero harness.schedule) fun place early => undecided place (by omega)
  obtain ⟨asked, left⟩ := watch.follow_asks client (.start harness.schedule) .zero tabled
  rw [harness.run_run_with_ids_of_abort now ids client awaited instanceMade tableMade rfl aborted]
  refine ⟨rfl, ?_, left⟩
  refine List.forall_mem_cons.mpr ⟨?_, List.forall_mem_cons.mpr ⟨?_, ?_⟩⟩
  · rintro request ⟨⟩
    rfl
  · rintro request ⟨⟩
    rfl
  · intro call made request same
    obtain rfl := Option.some.inj ((asked call made).symm.trans same)
    rfl

end Abandoned

/-- A client that makes whatever it is told to and never shows a key status. -/
def stalled : Client Unit := fun request state =>
  match request with
  | .createInstance instanceId specs => (.ok ⟨instanceId, specs.map ClusterSpec.id, 0⟩, state)
  | .createTable instanceId tableId families => (.ok ⟨tableId, instanceId, families, 0⟩, state)
  | _ => (.error (.unavailable "not yet"), state)

/-- Exactly the harnesses whose waits add up, and those that do not wait, end every run with a
report, whatever client answers, and make the two calls of the teardown before it. -/
theorem every_run_torn_down_iff :
    (∀ (now : UInt64) (scenario : Scenario) (ids : ScenarioIds) {σ : Type} (client : Client σ)
      (state : σ), ∃ (report : Report) (body : List Event)
        (backupReply instanceReply : Except AdminError Unit),
        ((harness.runWithIds now scenario ids).run client state).outcome = .ok report ∧
        ((harness.runWithIds now scenario ids).run client state).calls =
          body ++ ids.teardownCalls backupReply instanceReply) ↔
      (harness.settings.waitForKeyStatus = true → harness.schedule.Fits) := by
  constructor
  · intro ends awaited
    refine Decidable.byContradiction fun exceeds => ?_
    let ids := ScenarioIds.ofRun "" .table 0
    have undecided (place : Nat) : ¬ Watch.Decisive ⟨ids.instanceId, ids.tableId, ids.clusterId⟩
        (stalled.reply (.getEncryption ids.instanceId ids.tableId) place ()) :=
      Watch.not_decisive_error _ _
    have aborted := (harness.run_abandoned 0 ids stalled awaited rfl rfl exceeds
      fun place _ => undecided place).1
    obtain ⟨report, -, -, -, ended, -⟩ := ends 0 .table ids stalled ()
    cases aborted.symm.trans ended
  · intro waits now scenario ids σ client state
    obtain ⟨outcome, ended⟩ := harness.exists_outcome now ids waits scenario client state
    obtain ⟨backupReply, instanceReply, calls⟩ :=
      harness.calls_run_with_ids now scenario ids client ended
    refine ⟨report scenario ids outcome, _, backupReply, instanceReply, ?_, calls⟩
    rw [harness.run_run_with_ids now scenario ids client ended]

end Harness

namespace Handle

variable (handle : Handle) (now : UInt64)

/-- Several equal calls in a row are calls on the instance that they address. -/
theorem reply_client (request : Request) (times : Nat) (plane : Plane) :
    (handle.client now).reply request times plane =
      (handle.single now).reply request times plane[request.instanceId]? := by
  induction times generalizing plane with
  | zero => exact handle.client_fst now request plane
  | succ times inductionHypothesis =>
    rw [Client.reply_succ, Client.reply_succ, inductionHypothesis, client_snd,
      Plane.lookup_put_self]

/-- The last state, too, differs in that instance alone. -/
theorem after_client (request : Request) (times : Nat) (plane : Plane) :
    (handle.client now).after request times plane =
      plane.put request.instanceId
        ((handle.single now).after request times plane[request.instanceId]?) := by
  induction times generalizing plane with
  | zero => rw [Client.after_zero, Client.after_zero, Plane.put_lookup]
  | succ times inductionHypothesis =>
    rw [Client.after_succ, Client.after_succ, inductionHypothesis, client_snd,
      Plane.lookup_put_self, Plane.put_put]

end Handle

/-- An instance that has been put on a plane exists there. -/
theorem Plane.has_instance_put (plane : Plane) (instanceId : String) (holdings : Holdings) :
    (plane.put instanceId (some holdings)).hasInstance instanceId = true := by
  simp [hasInstance, put]

namespace Harness

/-- On the sandbox plane a table run aborts when its settings are accepted, its key lies in the
region, its waits do not add up, and the handle keeps the key from converging until the last
attempt. The instance is left behind. -/
theorem overflow_leaves_instance {settings : Settings} {now : UInt64} {harness : Harness}
    (accepted : Harness.ofSettings settings now = .ok harness) (inRegion : settings.KeyInRegion)
    (awaited : settings.waitForKeyStatus = true) (exceeds : ¬ harness.schedule.Fits)
    (few : harness.schedule.attempts < UInt32.size) (handle : Handle)
    (slow : harness.schedule.attempts ≤
      handle.transientFailures.toNat + handle.convergenceReads.toNat + 1)
    {plane : Plane} {ids : ScenarioIds} (apart : ids.clusterId ≠ ids.secondClusterId)
    (fresh : plane.hasInstance ids.instanceId = false) :
    let run := (harness.runWithIds now .table ids).run (handle.client now) plane
    run.outcome = .error .durationOverflow ∧
      (∀ call ∈ run.calls, ∀ request, call.request? = some request → request.deletes = false) ∧
      run.state.hasInstance ids.instanceId = true := by
  obtain ⟨⟨name, region, sound⟩, rfl, -⟩ := Harness.of_settings_eq_ok_iff.mp accepted
  have placed := sound.placed (sound.key_in_region_iff.mp inRegion)
  let watch : Watch := ⟨ids.instanceId, ids.tableId, ids.clusterId⟩
  let holdings := Holdings.ofSpecs ids.instanceId (Scenario.tableSpecs harness.settings ids)
  let table : Table := ⟨ids.tableId, ids.instanceId, [scenarioFamily], now⟩
  let kept := holdings.withTable ids.tableId ⟨table, 0, handle.transientFailures⟩
  let made : Instance :=
    ⟨ids.instanceId, (Scenario.tableSpecs harness.settings ids).map ClusterSpec.id, now⟩
  have instanceMade : handle.client now
      (.createInstance ids.instanceId (Scenario.tableSpecs harness.settings ids)) plane =
        (.ok made, plane.put ids.instanceId (some holdings)) := by
    refine handle.client_eq_of_single now ?_
    rw [Request.instanceId, Plane.lookup_eq_none_of_has_instance fresh]
    exact handle.single_create_instance now ids.instanceId (List.cons_ne_nil _ _)
      (Scenario.table_specs_accepted handle placed ids)
  have tableMade : handle.client now (.createTable ids.instanceId ids.tableId [scenarioFamily])
      (plane.put ids.instanceId (some holdings)) =
        (.ok table, (plane.put ids.instanceId (some holdings)).put ids.instanceId (some kept)) := by
    refine handle.client_eq_of_single now ?_
    rw [Request.instanceId, Plane.lookup_put_self]
    exact handle.single_create_table now ids.instanceId
      (Holdings.contains_tables_of_specs ids.instanceId _ ids.tableId) [scenarioFamily]
  rw [Plane.put_put] at tableMade
  have undecided : ∀ place, place + 1 < harness.schedule.attempts → ¬ watch.Decisive
      ((handle.client now).reply watch.request place
        (plane.put ids.instanceId (some kept))) := by
    intro place early decisive
    rw [handle.reply_client, Request.instanceId, Plane.lookup_put_self] at decisive
    have reached := (watch.decisive_iff handle now table handle.transientFailures
      (Holdings.filed_of_specs _ _) (Scenario.lookup_table_specs harness.settings apart) rfl
      sound.readsKey
      (by omega)).mp decisive
    omega
  obtain ⟨aborted, spared, times, left⟩ := harness.run_abandoned now ids (handle.client now)
    awaited instanceMade tableMade exceeds undecided
  refine ⟨aborted, spared, ?_⟩
  rw [left, handle.after_client, Request.instanceId, Plane.lookup_put_self,
    handle.after_get_encryption]
  exact Plane.has_instance_put _ _ _

/-- Two waits of the longest length pass the checks of settings, and their sum has no answer. -/
theorem longest_waits_leave_instance :
    let key := "projects/p/locations/us-central1/keyRings/r/cryptoKeys/k"
    let longest : UInt64 := 18446744073709551615
    let settings := { Settings.scaffold "p" key with
      waitForKeyStatus := true, backoff := [longest, longest, 1] }
    let ids := ScenarioIds.ofRun "cmek-it-" .table 7
    ∃ harness, Harness.ofSettings settings 7 = .ok harness ∧
      let run := (harness.runWithIds 7 .table ids).run (Handle.client ⟨"p", 2, 0⟩ 7) .empty
      run.outcome = .error .durationOverflow ∧
        (∀ call ∈ run.calls, ∀ request, call.request? = some request → request.deletes = false) ∧
        run.state.hasInstance ids.instanceId = true := by
  intro key longest settings ids
  have readsKey : KeyName.parse key = .ok ⟨"p", "us-central1", "r", "k"⟩ :=
    have written : KeyName.render ⟨"p", "us-central1", "r", "k"⟩ = key := by decide
    written ▸ KeyName.parse_render (by decide)
  have scaffold := Settings.sound_scaffold (by decide : "p" ≠ "") readsKey true
    (by decide : (timeAfter? 7 Settings.usualBackupLifetime).isSome)
  have sound : settings.Sound 7 ⟨"p", "us-central1", "r", "k"⟩ "us-central1" :=
    { scaffold with hasWaits := List.cons_ne_nil _ _ }
  let schedule : Schedule := ⟨[longest, longest, 1].map Duration.ofSeconds, by simp⟩
  have accepted : Harness.ofSettings settings 7 = .ok ⟨settings, schedule⟩ :=
    of_settings_eq_ok_iff.mpr ⟨⟨_, _, sound⟩, rfl, rfl⟩
  have exceeds : ¬ schedule.Fits := by decide
  exact ⟨_, accepted,
    overflow_leaves_instance accepted (sound.key_in_region_iff.mpr rfl) rfl exceeds
    (by decide) ⟨"p", 2, 0⟩ (by decide) (ScenarioIds.cluster_id_ne_second_cluster_id _ _ _) rfl⟩

end Harness

end CustomerKeys
