import CustomerKeys.Proofs.Confinement

/-!
# Scripts that share a plane

A pool holds scripts that run at the same time against one client. A step takes any of them and lets
it make its next call, which is answered at once, or finish its next sleep. A walk is any number of
steps in any order, so it stands for an arbitrary scheduler.

When the scripts of a pool are confined to instances that differ from each other, they cannot tell
that they share the plane. What each of them has before it, run alone on what its instance holds at
the moment, never changes along a walk but for the steps it has taken. The walk is therefore as long
as the lone runs together at most, and where it ends every script has the outcome of its lone run.
-/

namespace CustomerKeys

variable {σ ι α : Type}

/-- How a script has ended, if nothing of it is left to run. -/
def Script.ended? : Script α → Option (Except Abort α)
  | .done value => some (.ok value)
  | .abort cause => some (.error cause)
  | .sleep _ _ => none
  | .call _ _ => none

/-- Scripts that run against one client, each under a label. -/
abbrev Pool (ι α : Type) : Type := List (ι × Script α)

namespace Pool

/-- One step of one script, at any place of the pool. -/
inductive Step (client : Client σ) : Pool ι α → σ → Pool ι α → σ → Prop
  | call (before after : Pool ι α) (label : ι) (request : Request)
    (next : request.Reply → Script α) (state : σ) :
    Step client (before ++ (label, .call request next) :: after) state
      (before ++ (label, next (client request state).1) :: after) (client request state).2
  | sleep (before after : Pool ι α) (label : ι) (duration : Duration) (next : Script α)
    (state : σ) :
    Step client (before ++ (label, .sleep duration next) :: after) state
      (before ++ (label, next) :: after) state

/-- So many steps, in any interleaving. -/
inductive Walk (client : Client σ) : Nat → Pool ι α → σ → Pool ι α → σ → Prop
  | none (pool : Pool ι α) (state : σ) : Walk client 0 pool state pool state
  | step {count : Nat} {pool middle last : Pool ι α} {state between final : σ}
    (first : Step client pool state middle between)
    (rest : Walk client count middle between last final) :
    Walk client (count + 1) pool state last final

/-- A pool with a script that has not ended can take a step. -/
theorem exists_step (client : Client σ) {pool : Pool ι α} {task : ι × Script α}
    (member : task ∈ pool) (unfinished : task.2.ended? = Option.none) (state : σ) :
    ∃ next after, Step client pool state next after := by
  obtain ⟨before, rest, rfl⟩ := List.append_of_mem member
  obtain ⟨label, script⟩ := task
  cases script with
  | done value => simp [Script.ended?] at unfinished
  | abort cause => simp [Script.ended?] at unfinished
  | sleep duration next => exact ⟨_, _, .sleep before rest label duration next state⟩
  | call request next => exact ⟨_, _, .call before rest label request next state⟩

section Isolated

variable (handle : Handle) (now : UInt64) (address : ι → String)

/-- Every script of the pool is confined to the instance at the address of its label, and no two
labels have one address. -/
structure Isolated (pool : Pool ι α) : Prop where
  confined : ∀ task ∈ pool, task.2.Confined (address task.1)
  distinct : (pool.map fun task => address task.1).Nodup

/-- The run that a script of the pool has before it when it is left alone with its instance. -/
def lone (plane : Plane) (task : ι × Script α) : Run (Option Holdings) α :=
  task.2.run (handle.single now) plane[address task.1]?

/-- What the scripts of a pool will have come to, each left alone: their outcomes and what their
instances hold at the end. -/
def prospects (pool : Pool ι α) (plane : Plane) : List (ι × Except Abort α × Option Holdings) :=
  pool.map fun task =>
    (task.1, (lone handle now address plane task).outcome,
      (lone handle now address plane task).state)

/-- Everything that the scripts of a pool would still do, each left alone. -/
def ahead (pool : Pool ι α) (plane : Plane) : List Event :=
  (pool.map fun task => (lone handle now address plane task).events).flatten

/-- What a number of steps makes of an isolated pool. It stays isolated, what its scripts will have
come to stays the same, every step takes one event off what is ahead, and no other instance is
touched. -/
structure Progress (count : Nat) (pool : Pool ι α) (plane : Plane) (next : Pool ι α)
    (after : Plane) : Prop where
  isolated : next.Isolated address
  prospects : next.prospects handle now address after = pool.prospects handle now address plane
  ahead : (next.ahead handle now address after).length + count =
    (pool.ahead handle now address plane).length
  untouched : ∀ instanceId, (∀ label ∈ pool.map Prod.fst, address label ≠ instanceId) →
    after[instanceId]? = plane[instanceId]?

variable {address}

/-- A step of an isolated pool is a step of one script on its own instance. What that instance holds
is put into the plane, and the lone run of the script loses its first event. -/
theorem Step.local {pool next : Pool ι α} {plane after : Plane}
    (isolated : pool.Isolated address) (step : Step (handle.client now) pool plane next after) :
    ∃ before rest label script remaining held event,
      pool = before ++ (label, script) :: rest ∧ next = before ++ (label, remaining) :: rest ∧
      after = plane.put (address label) held ∧ remaining.Confined (address label) ∧
      script.run (handle.single now) plane[address label]? =
        (remaining.run (handle.single now) held).preceded event := by
  cases step with
  | call before rest label request following =>
    have confined := isolated.confined (label, .call request following) (by simp)
    cases confined with
    | call request addressed continued =>
      have owned : request.instanceId = address label := addressed
      refine ⟨before, rest, label, _, _, (handle.single now request plane[address label]?).2,
        .called request (handle.single now request plane[address label]?).1, rfl, rfl, ?_,
        continued _, ?_⟩
      · rw [handle.client_snd, owned]
      · rw [Script.run_call, handle.client_fst, owned]
  | sleep before rest label duration following =>
    have confined := isolated.confined (label, .sleep duration following) (by simp)
    cases confined with
    | sleep duration continued =>
      exact ⟨before, rest, label, _, _, _, _, rfl, rfl, (plane.put_lookup _).symm, continued,
        rfl⟩

/-- Another script's instance is not among those at which it runs, so it does not see a change
there. -/
theorem lone_put_of_ne {plane : Plane} {task : ι × Script α} {instanceId : String}
    (different : address task.1 ≠ instanceId) (held : Option Holdings) :
    lone handle now address (plane.put instanceId held) task =
      lone handle now address plane task := by
  rw [lone, lone, Plane.lookup_put_of_ne _ _ different]

/-- One step of an isolated pool. The scripts that do not move keep their lone runs, since their
instances differ from the one that changes. -/
theorem Step.progress {pool next : Pool ι α} {plane after : Plane}
    (isolated : pool.Isolated address) (step : Step (handle.client now) pool plane next after) :
    Progress handle now address 1 pool plane next after := by
  obtain ⟨before, rest, label, script, remaining, held, event, rfl, rfl, rfl, confined, ran⟩ :=
    step.local handle now isolated
  have distinct : ∀ task ∈ before ++ rest, address task.1 ≠ address label := by
    intro task member same
    have front : (before ++ (label, script) :: rest).Perm ((label, script) :: (before ++ rest)) :=
      List.perm_middle
    have nodup := (front.map fun task => address task.1).nodup_iff.mp isolated.distinct
    exact (List.nodup_cons.mp nodup).1 (List.mem_map.mpr ⟨task, member, same⟩)
  have kept : ∀ task ∈ before ++ rest, lone handle now address (plane.put (address label) held)
      task = lone handle now address plane task :=
    fun task member => lone_put_of_ne handle now (distinct task member) held
  have keptBefore := fun task member => kept task (List.mem_append_left rest member)
  have keptRest := fun task member => kept task (List.mem_append_right before member)
  have moved : lone handle now address plane (label, script) =
      (lone handle now address (plane.put (address label) held) (label, remaining)).preceded
        event := by
    simpa [lone] using ran
  refine ⟨⟨?_, ?_⟩, ?_, ?_, ?_⟩
  · intro task member
    rcases List.mem_append.mp member with early | late
    · exact isolated.confined task (by simp [early])
    · rcases List.mem_cons.mp late with rfl | later
      · exact confined
      · exact isolated.confined task (by simp [later])
  · simpa using isolated.distinct
  · simp only [prospects, List.map_append, List.map_cons, moved, Run.outcome_preceded,
      Run.state_preceded]
    congr 1
    · exact List.map_congr_left fun task member => by rw [keptBefore task member]
    · congr 1
      exact List.map_congr_left fun task member => by rw [keptRest task member]
  · simp only [ahead, List.map_append, List.map_cons, List.flatten_append, List.flatten_cons, moved,
      Run.events_preceded, List.length_append, List.length_cons]
    rw [List.map_congr_left fun task member => congrArg Run.events (keptBefore task member),
      List.map_congr_left fun task member => congrArg Run.events (keptRest task member)]
    omega
  · intro instanceId outside
    refine Plane.lookup_put_of_ne _ _ fun same => ?_
    exact outside label (by simp) same.symm

variable {handle now}

/-- Steps keep the labels of a pool in their order. -/
theorem Progress.labels {count : Nat} {pool next : Pool ι α} {plane after : Plane}
    (progress : Progress handle now address count pool plane next after) :
    next.map Prod.fst = pool.map Prod.fst := by
  have same := congrArg (List.map Prod.fst) progress.prospects
  simpa only [Pool.prospects, List.map_map, Function.comp_def] using same

/-- Progress goes on: two stretches of a walk, one after the other, are progress over both, and
their steps add up. -/
theorem Progress.trans {first second : Nat} {pool middle last : Pool ι α}
    {plane between after : Plane}
    (one : Progress handle now address first pool plane middle between)
    (two : Progress handle now address second middle between last after) :
    Progress handle now address (second + first) pool plane last after := by
  refine ⟨two.isolated, two.prospects.trans one.prospects, ?_, ?_⟩
  · rw [← one.ahead, ← two.ahead]
    omega
  · intro instanceId outside
    exact (two.untouched instanceId (one.labels ▸ outside)).trans
      (one.untouched instanceId outside)

/-- Any number of steps of an isolated pool, in any interleaving. -/
theorem Walk.progress {count : Nat} {pool last : Pool ι α} {plane after : Plane}
    (isolated : pool.Isolated address)
    (walk : Walk (handle.client now) count pool plane last after) :
    Progress handle now address count pool plane last after := by
  induction walk with
  | none pool plane => exact ⟨isolated, rfl, rfl, fun _ _ => rfl⟩
  | step first _ inductionHypothesis =>
    have one := first.progress handle now isolated
    exact one.trans (inductionHypothesis one.isolated)

/-- A script that has ended has nothing before it: its lone run is its end. -/
theorem lone_of_ended {plane : Plane} {task : ι × Script α} {outcome : Except Abort α}
    (ended : task.2.ended? = some outcome) :
    lone handle now address plane task = ⟨outcome, plane[address task.1]?, []⟩ := by
  obtain ⟨label, script⟩ := task
  cases script with
  | done value =>
    obtain rfl := Option.some.inj ended
    rfl
  | abort cause =>
    obtain rfl := Option.some.inj ended
    rfl
  | sleep duration next => simp [Script.ended?] at ended
  | call request next => simp [Script.ended?] at ended

/-- The prospects of a script that has ended are its outcome and what its instance holds now. -/
theorem mem_prospects_of_ended {pool : Pool ι α} {plane : Plane} {task : ι × Script α}
    {outcome : Except Abort α} (member : task ∈ pool) (ended : task.2.ended? = some outcome) :
    (task.1, outcome, plane[address task.1]?) ∈ pool.prospects handle now address plane :=
  List.mem_map.mpr ⟨task, member, by rw [lone_of_ended ended]⟩

end Isolated

/-- Walks one after the other. -/
theorem Walk.trans {client : Client σ} {first second : Nat} {pool middle last : Pool ι α}
    {state between final : σ}
    (one : Walk client first pool state middle between)
    (two : Walk client second middle between last final) :
    Walk client (first + second) pool state last final := by
  induction one with
  | none pool state => simpa using two
  | step taken _ inductionHypothesis =>
    rw [Nat.add_right_comm]
    exact .step taken (inductionHypothesis two)

/-- Letting one script of a pool run to its end, while the others wait, is a walk. -/
theorem walk_alone (client : Client σ) (before rest : Pool ι α) (label : ι) (script : Script α)
    (state : σ) :
    ∃ count ending, ending.ended? = some (script.run client state).outcome ∧
      Walk client count (before ++ (label, script) :: rest) state
        (before ++ (label, ending) :: rest) (script.run client state).state := by
  induction script generalizing state with
  | done value => exact ⟨0, .done value, rfl, .none _ _⟩
  | abort cause => exact ⟨0, .abort cause, rfl, .none _ _⟩
  | sleep duration next inductionHypothesis =>
    obtain ⟨count, ending, ended, walk⟩ := inductionHypothesis state
    exact ⟨count + 1, ending, ended, .step (.sleep before rest label duration next state) walk⟩
  | call request next inductionHypothesis =>
    obtain ⟨count, ending, ended, walk⟩ :=
      inductionHypothesis (client request state).1 (client request state).2
    exact ⟨count + 1, ending, ended, .step (.call before rest label request next state) walk⟩

end Pool

end CustomerKeys
