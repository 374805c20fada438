import CustomerKeys.Proofs.Interleaving
import CustomerKeys.Proofs.RunIds
import CustomerKeys.Proofs.Teardown

/-!
# Suites whose runs share a plane

A suite starts each of its scenarios as a run of its own, all on one plane, and collects their
reports in the order of the suite when they have ended. Different scenarios have different instance
ids whatever the times at which they start, so the runs are isolated from each other: however their
calls interleave, every run reports what it reports alone, and the plane is in the end what it was.

The clock stands still during a suite, except that each start may have a time of its own. Durations
of runs are left out, as in all reports of the library.
-/

namespace CustomerKeys

variable {σ : Type}

/-- A scenario to be run, and the time from which its ids are made. -/
structure Start where
  scenario : Scenario
  epoch : UInt64
  deriving DecidableEq, Repr

namespace Harness

/-- The ids of a start. -/
def idsAt (harness : Harness) (start : Start) : ScenarioIds :=
  .ofRun harness.settings.idStem start.scenario start.epoch

/-- The instance of a start. -/
def address (harness : Harness) (start : Start) : String := (harness.idsAt start).instanceId

/-- The run of a start. -/
def started (harness : Harness) (now : UInt64) (start : Start) : Script Report :=
  harness.runWithIds now start.scenario (harness.idsAt start)

/-- The runs of a suite before any of them has taken a step. -/
def tasks (harness : Harness) (now : UInt64) (starts : List Start) : Pool Start Report :=
  starts.map fun start => (start, harness.started now start)

/-- The reports of a pool of runs in their order, once all of them have ended. A run that aborted is
reported as failed; runs are numbered from the given number. -/
def collect? : Nat → Pool Start Report → Option (List Report)
  | _, [] => some []
  | number, (start, script) :: rest => do
    let outcome ← script.ended?
    let reports ← collect? (number + 1) rest
    return settle start.scenario number outcome :: reports

/-- As long as there is nothing to collect, some run has not ended. -/
theorem exists_unfinished {number : Nat} {pool : Pool Start Report}
    (missing : collect? number pool = none) : ∃ task ∈ pool, task.2.ended? = none := by
  induction pool generalizing number with
  | nil => simp [collect?] at missing
  | cons task rest inductionHypothesis =>
    cases ended : task.2.ended? with
    | none => exact ⟨task, by simp, ended⟩
    | some outcome =>
      have later : collect? (number + 1) rest = none := by
        cases collected : collect? (number + 1) rest with
        | none => rfl
        | some reports => simp [collect?, ended, collected] at missing
      obtain ⟨other, member, unfinished⟩ := inductionHypothesis later
      exact ⟨other, by simp [member], unfinished⟩

/-- What is collected from runs that all ended with a report is these reports. -/
theorem collect?_eq_some {number : Nat} {pool : Pool Start Report} {collected : List Report}
    (found : collect? number pool = some collected) {expected : Start → Report}
    (reported : ∀ task ∈ pool, ∀ outcome, task.2.ended? = some outcome →
      outcome = .ok (expected task.1)) :
    collected = pool.map (fun task => expected task.1) ∧
      ∀ task ∈ pool, task.2.ended? = some (.ok (expected task.1)) := by
  induction pool generalizing number collected with
  | nil =>
    obtain rfl : [] = collected := by simpa [collect?] using found
    simp
  | cons task rest inductionHypothesis =>
    obtain ⟨start, script⟩ := task
    simp only [collect?, Option.bind_eq_bind, Option.bind_eq_some_iff, Option.pure_def,
      Option.some.injEq] at found
    obtain ⟨outcome, ended, reports, later, rfl⟩ := found
    obtain rfl := reported (start, script) (by simp) outcome ended
    obtain ⟨rfl, others⟩ := inductionHypothesis later
      fun other member => reported other (by simp [member])
    refine ⟨rfl, fun other member => ?_⟩
    rcases List.mem_cons.mp member with rfl | member
    · exact ended
    · exact others other member

/-- Runs one after the other are one of the interleavings: the suite that runs its scenarios in
order walks from the same tasks, and its reports are what is collected where that walk ends. -/
theorem run_suite_walks (harness : Harness) (client : Client σ) (now : UInt64) (number : Nat)
    (scenarios : List Scenario) (state : σ) (before : Pool Start Report) :
    ∃ count last,
      Pool.Walk client count (before ++ harness.tasks now (scenarios.map (⟨·, now⟩))) state
        (before ++ last) (harness.runSuite client now number scenarios state).2.1 ∧
      collect? number last = some (harness.runSuite client now number scenarios state).1 := by
  induction scenarios generalizing number state before with
  | nil => exact ⟨0, [], .none _ _, rfl⟩
  | cons scenario rest inductionHypothesis =>
    obtain ⟨first, ending, ended, walk⟩ := Pool.walk_alone client before
      (harness.tasks now (rest.map (⟨·, now⟩))) ⟨scenario, now⟩ (harness.runAt now scenario) state
    obtain ⟨count, last, walks, collected⟩ := inductionHypothesis (number + 1)
      ((harness.runAt now scenario).run client state).state
      (before ++ [(⟨scenario, now⟩, ending)])
    refine ⟨first + count, (⟨scenario, now⟩, ending) :: last, walk.trans ?_, ?_⟩
    · simp only [List.append_assoc, List.singleton_append] at walks
      exact walks
    · simp [collect?, ended, collected, runSuite]

/-- A run reports the same alone with its instance as on the plane, and its instance is gone when
it has ended. -/
theorem exists_lone_report (harness : Harness) (fits : harness.schedule.Fits) (handle : Handle)
    (now : UInt64) (plane : Plane) (start : Start) :
    ∃ report : Report,
      (report.scenario = start.scenario ∧ report.instanceId = harness.address start) ∧
      ((harness.started now start).run (handle.client now) plane).outcome = .ok report ∧
      ∃ events, (harness.started now start).run (handle.single now)
        plane[harness.address start]? = ⟨.ok report, none, events⟩ := by
  have confined := harness.run_with_ids_confined fits now start.scenario (harness.idsAt start)
  obtain ⟨outcome, ended⟩ :=
    (Scenario.body_confined harness.settings (harness.idsAt start) start.scenario fits
      now).exists_value (handle.single now) plane[harness.address start]?
  have whole := harness.run_run_with_ids now start.scenario (harness.idsAt start)
    (handle.single now)
    ended
  simp only [handle.single_delete_instance] at whole
  refine ⟨report start.scenario (harness.idsAt start) outcome, ⟨rfl, rfl⟩, ?_, _, whole⟩
  rw [started, confined.run_client]
  exact congrArg Run.outcome whole

/-- However the runs of a suite interleave, they come to an end, and where they have ended these
reports are collected and the plane is what it was. -/
structure Undisturbed (harness : Harness) (handle : Handle) (now : UInt64) (plane : Plane)
    (starts : List Start) (reports : List Report) : Prop where
  bounded : ∃ bound, ∀ count pool after,
    Pool.Walk (handle.client now) count (harness.tasks now starts) plane pool after → count ≤ bound
  goesOn : ∀ count pool after,
    Pool.Walk (handle.client now) count (harness.tasks now starts) plane pool after →
    collect? 1 pool = none → ∃ next later, Pool.Step (handle.client now) pool after next later
  collects : ∀ count pool after collected,
    Pool.Walk (handle.client now) count (harness.tasks now starts) plane pool after →
    collect? 1 pool = some collected → collected = reports ∧ after = plane

/-- The tasks of different scenarios are isolated from each other. -/
theorem tasks_isolated (harness : Harness) (fits : harness.schedule.Fits) (now : UInt64)
    {starts : List Start} (distinct : (starts.map Start.scenario).Nodup) :
    Pool.Isolated harness.address (harness.tasks now starts) := by
  constructor
  · intro task member
    obtain ⟨start, _, rfl⟩ := List.mem_map.mp member
    exact harness.run_with_ids_confined fits now start.scenario (harness.idsAt start)
  · rw [tasks, List.map_map]
    refine List.pairwise_map.mpr ((List.pairwise_map.mp distinct).imp fun different same => ?_)
    exact different (ScenarioIds.instance_id_of_run_inj.mp same).1

section Undisturbed

variable (harness : Harness) (handle : Handle) (now : UInt64)

/-- At the start of a suite each run has before it its lone report, and then no instance. -/
theorem prospects_tasks {plane : Plane} {starts : List Start} {expected : Start → Report}
    (alone : ∀ start, ∃ events, (harness.started now start).run (handle.single now)
      plane[harness.address start]? = ⟨.ok (expected start), none, events⟩) :
    Pool.prospects handle now harness.address (harness.tasks now starts) plane =
      starts.map fun start => (start, .ok (expected start), none) := by
  rw [Pool.prospects, tasks, List.map_map]
  refine List.map_congr_left fun start _ => ?_
  obtain ⟨events, ran⟩ := alone start
  simp only [Function.comp_apply, Pool.lone, ran]

/-- Where the runs have ended with these prospects, they have ended as foreseen. -/
theorem collected_of_prospects {number : Nat} {pool : Pool Start Report} {after : Plane}
    {starts : List Start} {expected : Start → Report} {collected : List Report}
    (foreseen : Pool.prospects handle now harness.address pool after =
      starts.map fun start => (start, .ok (expected start), none))
    (found : collect? number pool = some collected) :
    collected = starts.map expected ∧ ∀ start ∈ starts, after[harness.address start]? = none := by
  have labels : pool.map Prod.fst = starts := by
    have same := congrArg (List.map Prod.fst) foreseen
    simpa only [Pool.prospects, List.map_map, Function.comp_def, List.map_id'] using same
  have fulfilled : ∀ task ∈ pool, ∀ outcome, task.2.ended? = some outcome →
      outcome = .ok (expected task.1) ∧ after[harness.address task.1]? = none := by
    intro task member outcome ended
    have listed : (task.1, outcome, after[harness.address task.1]?) ∈
        Pool.prospects handle now harness.address pool after :=
      Pool.mem_prospects_of_ended member ended
    rw [foreseen] at listed
    obtain ⟨start, _, same⟩ := List.mem_map.mp listed
    obtain ⟨rfl, rest⟩ := Prod.mk.inj same
    obtain ⟨sameOutcome, sameState⟩ := Prod.mk.inj rest
    exact ⟨sameOutcome.symm, sameState.symm⟩
  obtain ⟨rfl, ended⟩ :=
    collect?_eq_some found fun task member outcome done => (fulfilled task member outcome done).1
  refine ⟨?_, fun start member => ?_⟩
  · rw [← labels, List.map_map]
    rfl
  · rw [← labels] at member
    obtain ⟨task, inside, rfl⟩ := List.mem_map.mp member
    exact (fulfilled task inside _ (ended task inside)).2

/-- A suite of different scenarios under free ids is undisturbed.

Along every walk the prospects of the pool are those of its start. Where all runs have ended the
prospects have come true, and the plane has changed at most where a run's instance has been and is
gone. -/
theorem undisturbed (fits : harness.schedule.Fits) (plane : Plane) {starts : List Start}
    (distinct : (starts.map Start.scenario).Nodup)
    (fresh : ∀ start ∈ starts, plane[harness.address start]? = none) {expected : Start → Report}
    (alone : ∀ start, ∃ events, (harness.started now start).run (handle.single now)
      plane[harness.address start]? = ⟨.ok (expected start), none, events⟩) :
    harness.Undisturbed handle now plane starts (starts.map expected) := by
  have isolated := harness.tasks_isolated fits now distinct
  refine ⟨⟨(Pool.ahead handle now harness.address (harness.tasks now starts) plane).length, ?_⟩,
    ?_, ?_⟩
  · intro count pool after walk
    exact Nat.le.intro ((Nat.add_comm _ _).trans (walk.progress isolated).ahead)
  · intro count pool after walk missing
    obtain ⟨task, member, unfinished⟩ := exists_unfinished missing
    exact Pool.exists_step (handle.client now) member unfinished after
  · intro count pool after collected walk found
    have progress := walk.progress isolated
    have foreseen := progress.prospects.trans (harness.prospects_tasks handle now alone)
    obtain ⟨reported, gone⟩ := harness.collected_of_prospects handle now foreseen found
    refine ⟨reported, Std.ExtTreeMap.ext_getElem? fun {instanceId} => ?_⟩
    by_cases owned : ∃ start ∈ starts, harness.address start = instanceId
    · obtain ⟨start, member, rfl⟩ := owned
      rw [gone start member, fresh start member]
    · refine progress.untouched instanceId fun start member same => owned ⟨start, ?_, same⟩
      simpa [tasks, Function.comp_def] using member

end Undisturbed

/-- Runs of different scenarios, started at any times under instance ids that are free, do not
disturb each other. In every interleaving of their calls and sleeps each comes to an end with the
report of its lone run from the same plane, the reports are collected in the order of the starts,
and the plane is in the end what it was. Running the scenarios in order is one of the interleavings.
-/
theorem interleaved_runs_report_alone (harness : Harness) (fits : harness.schedule.Fits)
    (handle : Handle) (now : UInt64) (plane : Plane) (starts : List Start)
    (distinct : (starts.map Start.scenario).Nodup)
    (fresh : ∀ start ∈ starts, plane.hasInstance (harness.idsAt start).instanceId = false) :
    ∃ reports : List Report,
      starts.map (fun start =>
        ((harness.started now start).run (handle.client now) plane).outcome) = reports.map .ok ∧
      reports.map (fun report => (report.scenario, report.instanceId)) =
        starts.map (fun start => (start.scenario, (harness.idsAt start).instanceId)) ∧
      harness.Undisturbed handle now plane starts reports ∧
      ∀ scenarios, starts = scenarios.map (⟨·, now⟩) →
        ∃ events, harness.runSuite (handle.client now) now 1 scenarios plane =
          (reports, plane, events) := by
  obtain ⟨expected, reported⟩ :=
    Classical.skolem.mp (harness.exists_lone_report fits handle now plane)
  have undisturbed := harness.undisturbed handle now fits plane distinct
    (fun start member => Plane.lookup_eq_none_of_has_instance (fresh start member))
    (fun start => (reported start).2.2)
  refine ⟨starts.map expected, ?_, ?_, undisturbed, ?_⟩
  · rw [List.map_map]
    exact List.map_congr_left fun start _ => (reported start).2.1
  · rw [List.map_map]
    refine List.map_congr_left fun start _ => ?_
    obtain ⟨scenario, instanceId⟩ := (reported start).1
    exact Prod.ext scenario instanceId
  · rintro scenarios rfl
    obtain ⟨count, last, walk, found⟩ :=
      harness.run_suite_walks (handle.client now) now 1 scenarios plane []
    obtain ⟨same, kept⟩ := undisturbed.collects count last _ _ walk found
    exact ⟨_, Prod.ext same (Prod.ext kept rfl)⟩

/-- All three scenarios, started at two times beside an instance that stays, on a plane that refuses
two reads of each table and converges after three. -/
theorem three_runs_beside_kept_instance :
    let key := "projects/p/locations/us-central1/keyRings/r/cryptoKeys/k"
    let harness : Harness :=
      ⟨{ Settings.scaffold "p" key with waitForKeyStatus := true }, .usual⟩
    let plane := Plane.empty.put "kept" (some (.ofSpecs "kept" [⟨"c", "a-b", 1, .ssd, none⟩]))
    let starts : List Start := [⟨.table, 7⟩, ⟨.backup, 7⟩, ⟨.instanceCluster, 8⟩]
    harness.schedule.Fits ∧ (starts.map Start.scenario).Nodup ∧
      (∀ start ∈ starts, plane.hasInstance (harness.idsAt start).instanceId = false) ∧
      ∃ reports : List Report,
        reports.map Report.instanceId = ["cmek-it-7-tb", "cmek-it-7-bk", "cmek-it-8-ic"] ∧
        harness.Undisturbed ⟨"p", 3, 2⟩ 9 plane starts reports := by
  intro key harness plane starts
  have fits : harness.schedule.Fits := by decide
  have distinct : (starts.map Start.scenario).Nodup := by decide
  have fresh : ∀ start ∈ starts, plane.hasInstance (harness.idsAt start).instanceId = false := by
    decide
  obtain ⟨reports, _, named, undisturbed, _⟩ :=
    harness.interleaved_runs_report_alone fits ⟨"p", 3, 2⟩ 9 plane starts distinct fresh
  refine ⟨fits, distinct, fresh, reports, ?_, undisturbed⟩
  have ids := congrArg (List.map Prod.snd) named
  simp only [List.map_map, Function.comp_def] at ids
  exact ids.trans (by decide)

end Harness

end CustomerKeys
