import CustomerKeys.Proofs.PlaneCalls
import CustomerKeys.Proofs.PlaneCoherence
import CustomerKeys.Scenario.Check

/-!
# What the scenarios come to

The bodies of the scenarios, run on an instance that does not exist yet. The judgements come first:
what the plane reports for a cluster with the configured key is what they accept, and what it says
when it refuses the key is what they expect. The runs follow, step by step from one answer to the
next.

Two things decide them. The key must cover the zones that are meant for it and not the one that is
not, which `Settings.Placed` states; without the primary zone the first call already fails. And a
table must be read often enough, which its two counters decide.
-/

namespace CustomerKeys

namespace Holdings

variable {holdings : Holdings}

/-- A report has one entry for each cluster. -/
theorem Filed.size_report (filed : holdings.Filed) (converged : Bool) :
    (holdings.report converged).size = holdings.clusters.size := by
  rw [filed.report_eq_map, Std.ExtTreeMap.size_map]

/-- Every entry of a report is one item. -/
theorem Filed.find?_report (filed : holdings.Filed) (converged : Bool) :
    (holdings.report converged).toList.find? (fun (_, entries) => entries.length ≠ 1) = none := by
  rw [filed.report_eq_map, Std.ExtTreeMap.toList_map, List.find?_eq_none]
  intro entry listed
  obtain ⟨kept, -, rfl⟩ := List.mem_map.mp listed
  simp

/-- A new instance has no tables. -/
theorem contains_tables_of_specs (instanceId : String) (specs : List ClusterSpec)
    (tableId : String) : (ofSpecs instanceId specs).tables.contains tableId = false := by
  simp [ofSpecs]

end Holdings

/-- A lifetime that is not zero ends in the future. -/
theorem lt_of_time_after {start lifetime time : UInt64}
    (timed : timeAfter? start lifetime = some time) (lives : lifetime ≠ 0) : start < time := by
  unfold timeAfter? at timed
  split at timed
  · rename_i bounded
    obtain rfl := Option.some.inj timed
    have positive : 0 < lifetime.toNat := Nat.pos_of_ne_zero fun zero =>
      lives (UInt64.toNat_inj.mp zero)
    rw [UInt64.lt_iff_toNat_lt, UInt64.toNat_add, Nat.mod_eq_of_lt bounded]
    omega
  · cases timed

namespace Scenario

variable {settings : Settings} {name : KeyName} {cluster : Cluster}

/-- What a table reports for a cluster with the configured key is accepted when the key has
converged, and without a wait also before. -/
theorem judge_table_encryption_table_encryption (keyed : cluster.key = some settings.key)
    (readsKey : KeyName.parse settings.key = .ok name) {converged : Bool}
    (awaited : settings.waitForKeyStatus = true → converged = true) :
    judgeTableEncryption settings (cluster.tableEncryption converged) = none := by
  rw [Cluster.table_encryption_of_parse keyed readsKey]
  cases converged with
  | false =>
    have unawaited : settings.waitForKeyStatus = false := by simpa using awaited
    have managed : Encryption.pending.isCustomerManaged = true := rfl
    simp [judgeTableEncryption, managed, Encryption.key_status_pending, unawaited]
  | true =>
    have managed (version : String) : (Encryption.converged version).isCustomerManaged = true := rfl
    have good (version : String) : (Encryption.converged version).status.isOk = true := rfl
    simp [judgeTableEncryption, managed, good, Encryption.key_status_converged readsKey]

/-- A report of two clusters is accepted when the awaited one has the configured key and shows it as
the settings ask. -/
theorem judge_report_report {ids : ScenarioIds} {holdings : Holdings} (found : Findings)
    (filed : holdings.Filed) (two : holdings.clusters.size = 2)
    (listed : holdings.clusters[ids.clusterId]? = some cluster)
    (keyed : cluster.key = some settings.key) (readsKey : KeyName.parse settings.key = .ok name)
    {converged : Bool} (awaited : settings.waitForKeyStatus = true → converged = true) :
    judgeReport settings ids found (holdings.report converged) =
      .success { found with
        clusterEntries := some 2
        encryption := some (cluster.tableEncryption converged) } := by
  have entry := filed.lookup_report listed converged
  have accepted := judge_table_encryption_table_encryption keyed readsKey awaited
  unfold judgeReport
  simp only [filed.size_report, two, filed.find?_report, entry]
  simp [accepted, Outcome.success]

/-- A backup of a cluster with the configured key is accepted. -/
theorem judge_backup_backup_encryption {backup : Backup}
    (copied : backup.encryption = cluster.backupEncryption)
    (keyed : cluster.key = some settings.key) (readsKey : KeyName.parse settings.key = .ok name) :
    judgeBackup settings backup =
      .success { Findings.nothing with encryption := some backup.encryption } := by
  have pinned : backup.encryption.isPinnedUntracked settings.key = true := by
    rw [copied, Cluster.backup_encryption_of_parse keyed readsKey]
    exact Encryption.is_pinned_untracked_pinned readsKey _
  simp only [judgeBackup, pinned]
  rfl

variable {σ : Type} (client : Client σ)

/-- A call that must succeed, and does. -/
theorem outcome_expect_answer {found : Findings} {request : Request}
    {answered : request.Answer → Script Outcome} {state after : σ} {answer : request.Answer}
    (replied : client request state = (.ok answer, after)) :
    ((expectAnswer found request answered).run client state).outcome =
      ((answered answer).run client after).outcome := by
  rw [expectAnswer, Script.run_attempt_answered client replied, Run.outcome_preceded]

/-- A call that must succeed, and does not. -/
theorem outcome_expect_answer_refused {found : Findings} {request : Request}
    {answered : request.Answer → Script Outcome} {state after : σ} {error : AdminError}
    (replied : client request state = (.error error, after)) :
    ((expectAnswer found request answered).run client state).outcome =
      .ok (.fail found (.admin error)) := by
  rw [expectAnswer, Script.run_attempt_refused client replied, Run.outcome_preceded,
    Script.run_done]

/-- A script that begins with a call that must succeed ends in a way that excludes the failure of
the call exactly when the call is answered and the rest ends in that way. -/
theorem expect_answer_ends_iff {found : Findings} {request : Request}
    {answered : request.Answer → Script Outcome} {state : σ} {holds : Outcome → Prop}
    (strict : ∀ error, ¬ holds (.fail found (.admin error))) :
    (expectAnswer found request answered).Ends client state holds ↔
      ∃ answer, (client request state).1 = .ok answer ∧
        (answered answer).Ends client (client request state).2 holds := by
  unfold Script.Ends
  cases replied : (client request state).1 with
  | ok answer =>
    rw [outcome_expect_answer client (Prod.ext replied rfl)]
    simp
  | error error =>
    rw [outcome_expect_answer_refused client (Prod.ext replied rfl)]
    simp [strict]

end Scenario

/-- The text with which the plane refuses a key outside its region is the text that is expected. The
two are put together from different pieces. -/
theorem Refusal.message_misplaced_key (key project zone : String) :
    (Refusal.misplacedKey key project zone).toError.message =
      expectedRejection project key zone := by
  have opening : "FAILED_PRECONDITION: Error in field 'cluster' : " ++
      "Error in field 'encryption_config.kms_key_name' : CMEK key " =
    "FAILED_PRECONDITION" ++ ": " ++
      "Error in field 'cluster' : Error in field 'encryption_config.kms_key_name' : CMEK key " := by
    decide
  unfold expectedRejection
  change "FAILED_PRECONDITION" ++ ": " ++ (_ ++ key ++ _ ++ _) = _
  rw [opening, ← String.append_assoc, ← String.append_assoc, ← String.append_assoc]

/-- A cluster with the configured key may be created exactly in the zones that the key covers. -/
theorem Handle.placement_refusal_cluster_spec (handle : Handle) {settings : Settings}
    {name : KeyName} (readsKey : KeyName.parse settings.key = .ok name) (id zone : String) :
    handle.placementRefusal (settings.clusterSpec id zone) =
      if name.covers zone then none
      else some (.misplacedKey settings.key handle.project zone) := by
  simp only [placementRefusal, Settings.clusterSpec, ClusterSpec.protectedBy, readsKey]
  rfl

/-- In a zone that the key does not cover it is refused. -/
theorem Handle.placement_refusal_of_not_covers (handle : Handle) {settings : Settings}
    {name : KeyName} {zone : String} (readsKey : KeyName.parse settings.key = .ok name)
    (outside : name.covers zone = false) (id : String) :
    handle.placementRefusal (settings.clusterSpec id zone) =
      some (.misplacedKey settings.key handle.project zone) := by
  rw [handle.placement_refusal_cluster_spec readsKey, outside]
  rfl

/-- The configured key covers the zones that are meant for it, and not the one that is not. -/
structure Settings.Placed (settings : Settings) (name : KeyName) : Prop where
  readsKey : KeyName.parse settings.key = .ok name
  primary : name.covers settings.primaryZone = true
  sibling : name.covers settings.siblingZone = true
  foreign : name.covers settings.foreignZone = false

namespace Settings.Placed

variable {settings : Settings} {name : KeyName} (placed : settings.Placed name) (handle : Handle)

include placed

/-- A cluster in the primary zone is not refused. -/
theorem primary_accepted (id : String) :
    handle.placementRefusal (settings.clusterSpec id settings.primaryZone) = none := by
  rw [handle.placement_refusal_cluster_spec placed.readsKey, if_pos placed.primary]

/-- Nor is one in the sibling zone. -/
theorem sibling_accepted (id : String) :
    handle.placementRefusal (settings.clusterSpec id settings.siblingZone) = none := by
  rw [handle.placement_refusal_cluster_spec placed.readsKey, if_pos placed.sibling]

/-- An instance with the first cluster alone is created. -/
theorem create_first (now : UInt64) (ids : ScenarioIds) :
    let specs := [settings.clusterSpec ids.clusterId settings.primaryZone]
    handle.single now (.createInstance ids.instanceId specs) none =
      (.ok ⟨ids.instanceId, [ids.clusterId], now⟩, some (.ofSpecs ids.instanceId specs)) :=
  handle.single_create_instance now ids.instanceId (List.cons_ne_nil _ _)
    (List.forall_mem_singleton.mpr (placed.primary_accepted handle ids.clusterId))

/-- The second cluster joins it under an id of its own. -/
theorem create_second (now : UInt64) {ids : ScenarioIds}
    (apart : ids.clusterId ≠ ids.secondClusterId) :
    let holdings :=
      Holdings.ofSpecs ids.instanceId [settings.clusterSpec ids.clusterId settings.primaryZone]
    let second := settings.clusterSpec ids.secondClusterId settings.siblingZone
    handle.single now (.createCluster ids.instanceId second) (some holdings) =
      (.ok (.ofSpec ids.instanceId second), some { holdings with
        clusters := holdings.clusters.insert second.id (.ofSpec ids.instanceId second) }) := by
  intro holdings second
  have free : holdings.clusters.contains second.id = false := by
    change ((∅ : ByName Cluster).insert ids.clusterId _).contains ids.secondClusterId = false
    simp [Std.ExtTreeMap.contains_insert, apart]
  exact handle.single_create_cluster now ids.instanceId
    (placed.sibling_accepted handle ids.secondClusterId) free

/-- The third is refused whatever the instance holds, and the refusal names the key. -/
theorem refuse_third (now : UInt64) (ids : ScenarioIds) (held : Option Holdings) :
    handle.single now (.createCluster ids.instanceId
        (settings.clusterSpec ids.rejectedClusterId settings.foreignZone)) held =
      (.error (Refusal.misplacedKey settings.key handle.project settings.foreignZone).toError,
        held) :=
  handle.single_create_cluster_of_refused now ids.instanceId
    (handle.placement_refusal_of_not_covers placed.readsKey placed.foreign ids.rejectedClusterId)
    held

end Settings.Placed

namespace Scenario

variable {settings : Settings} {name : KeyName} (handle : Handle) (now : UInt64)

/-- Without a key that covers the primary zone every scenario fails at its first call. -/
theorem outcome_body_of_not_covers (readsKey : KeyName.parse settings.key = .ok name)
    (outside : name.covers settings.primaryZone = false) (scenario : Scenario) (schedule : Schedule)
    (ids : ScenarioIds) (held : Option Holdings) :
    ∃ error, ((scenario.body settings schedule now ids).run (handle.single now) held).outcome =
      .ok (.fail .nothing (.admin error)) := by
  have refused := handle.placement_refusal_of_not_covers readsKey outside ids.clusterId
  have creation (rest : List ClusterSpec) :=
    handle.single_create_instance_of_refused now ids.instanceId refused rest held
  cases scenario with
  | instanceCluster => exact ⟨_, outcome_expect_answer_refused _ (creation _)⟩
  | table => exact ⟨_, outcome_expect_answer_refused _ (creation _)⟩
  | backup => exact ⟨_, outcome_expect_answer_refused _ (creation _)⟩

/-- A look at a cluster that has the configured key. -/
theorem outcome_expect_cluster_key {ids : ScenarioIds} {clusterId : String} {cluster : Cluster}
    {holdings : Holdings} (found : holdings.clusters[clusterId]? = some cluster)
    (keyed : cluster.key = some settings.key) (next : Script Outcome) :
    ((expectClusterKey settings ids clusterId next).run (handle.single now)
      (some holdings)).outcome = (next.run (handle.single now) (some holdings)).outcome := by
  rw [expectClusterKey,
    outcome_expect_answer _ (handle.single_get_cluster now ids.instanceId found), if_pos keyed]

/-- The refusal of a cluster outside the key's region is the expected one when the plane serves the
configured project. -/
theorem judge_rejection_misplaced_key (settings : Settings) :
    ∃ found, judgeRejection settings (.error (Refusal.misplacedKey settings.key settings.project
      settings.foreignZone).toError) = .success found := by
  have precondition : (Refusal.misplacedKey settings.key settings.project
      settings.foreignZone).toError.isFailedPrecondition = true := rfl
  have occurs (text : String) : occursIn text text = true :=
    stands_in_iff_is_infix.mpr (List.infix_refl _)
  exact ⟨_, by simp only [judgeRejection, precondition, Refusal.message_misplaced_key, occurs]; rfl⟩

/-- With a key that covers its zones, clusters report it and the one outside is refused. -/
theorem outcome_cluster_script (placed : settings.Placed name)
    (own : handle.project = settings.project) {ids : ScenarioIds}
    (apart : ids.clusterId ≠ ids.secondClusterId) :
    ∃ found, ((clusterScript settings ids).run (handle.single now) none).outcome =
      .ok (.success found) := by
  let first := settings.clusterSpec ids.clusterId settings.primaryZone
  have created := placed.create_first handle now ids
  have listed : (Holdings.ofSpecs ids.instanceId [first]).clusters[ids.clusterId]? =
      some (.ofSpec ids.instanceId first) := Std.ExtTreeMap.getElem?_insert_self
  have joined := placed.create_second handle now apart
  have refused := placed.refuse_third handle now ids
  obtain ⟨found, expected⟩ := judge_rejection_misplaced_key settings
  refine ⟨found, ?_⟩
  rw [clusterScript, outcome_expect_answer _ created, outcome_expect_cluster_key _ _ listed rfl,
    outcome_expect_answer _ joined,
    outcome_expect_cluster_key _ _ Std.ExtTreeMap.getElem?_insert_self rfl, Script.run_call,
    refused, own, expected]
  rfl

/-- With a key that covers its zones, a backup is pinned to it. -/
theorem outcome_backup_script (placed : settings.Placed name) (ids : ScenarioIds)
    (lives : settings.backupLifetime ≠ 0)
    (expires : (timeAfter? now settings.backupLifetime).isSome) :
    ∃ found, ((backupScript settings now ids).run (handle.single now) none).outcome =
      .ok (.success found) := by
  let first := settings.clusterSpec ids.clusterId settings.primaryZone
  have created := placed.create_first handle now ids
  have tabled := handle.single_create_table now ids.instanceId
    (Holdings.contains_tables_of_specs ids.instanceId [first] ids.tableId) [scenarioFamily]
  obtain ⟨expireTime, timed⟩ := Option.isSome_iff_exists.mp expires
  have later := lt_of_time_after timed lives
  let holdings := (Holdings.ofSpecs ids.instanceId [first]).withTable ids.tableId
    ⟨⟨ids.tableId, ids.instanceId, [scenarioFamily], now⟩, 0, handle.transientFailures⟩
  have listed : holdings.clusters[ids.clusterId]? = some (.ofSpec ids.instanceId first) :=
    Std.ExtTreeMap.getElem?_insert_self
  have kept : holdings.tables.contains ids.tableId = true := Std.ExtTreeMap.contains_insert_self
  have free : holdings.backups.contains (ids.clusterId, ids.backupId) = false := rfl
  let spec : BackupSpec := ⟨ids.clusterId, ids.backupId, ids.tableId, expireTime⟩
  have backed : handle.single now (.createBackup ids.instanceId spec) (some holdings) = _ :=
    handle.single_create_backup now ids.instanceId later listed kept free
  rw [backupScript, outcome_expect_answer _ created, outcome_expect_answer _ tabled]
  simp only [timed]
  rw [outcome_expect_answer _ backed, outcome_expect_answer _
    (handle.single_get_backup now ids.instanceId Std.ExtTreeMap.getElem?_insert_self),
    Script.run_done, judge_backup_backup_encryption rfl rfl placed.readsKey]
  exact ⟨_, rfl⟩

/-- What a wait leads to: its error, or a look at the table. -/
def afterWait (settings : Settings) (ids : ScenarioIds) :
    Except ConvergenceError Convergence → Script Outcome
  | .error error => .done (.fail .nothing (.convergence error))
  | .ok convergence => inspectTable settings ids
      { Findings.nothing with pollAttempts := some (.ofNat convergence.attempts) }

/-- What a table scenario does once its table exists. -/
def tableChecks (settings : Settings) (schedule : Schedule) (ids : ScenarioIds) : Script Outcome :=
  if settings.waitForKeyStatus then
    (Watch.script ⟨ids.instanceId, ids.tableId, ids.clusterId⟩ schedule).bind
      (afterWait settings ids)
  else inspectTable settings ids .nothing

section TableChecks

variable {ids : ScenarioIds} {holdings : Holdings} {cluster : Cluster} {schedule : Schedule}
  (table : Table) (failures : UInt32)

/-- While failures are left, the scenario fails with the read of the table. -/
theorem outcome_inspect_table_of_lt (found : Findings) {times : Nat}
    (left : times < failures.toNat) :
    ∃ error, ((inspectTable settings ids found).run (handle.single now)
        (some (holdings.withTable ids.tableId (.afterReads table failures times)))).outcome =
      .ok (.fail found (.admin error)) := by
  have refused := handle.single_get_encryption_of_lt now ids.instanceId ids.tableId holdings table
    failures left
  exact ⟨_, outcome_expect_answer_refused _ (Prod.ext refused rfl)⟩

-- From here on the instance has two clusters, and the awaited one has the configured key.
variable (filed : holdings.Filed) (two : holdings.clusters.size = 2)
  (listed : holdings.clusters[ids.clusterId]? = some cluster)
  (keyed : cluster.key = some settings.key) (readsKey : KeyName.parse settings.key = .ok name)

include filed two listed keyed readsKey

/-- Once the failures are used up, and after a wait also the unconverged answers, the table is
accepted. -/
theorem outcome_inspect_table_of_le (found : Findings) {times : Nat}
    (used : failures.toNat ≤ times) (bounded : times + 1 < UInt32.size)
    (awaited : settings.waitForKeyStatus = true →
      failures.toNat + handle.convergenceReads.toNat ≤ times) :
    ∃ seen, ((inspectTable settings ids found).run (handle.single now)
        (some (holdings.withTable ids.tableId (.afterReads table failures times)))).outcome =
      .ok (.success seen) ∧ seen.pollAttempts = found.pollAttempts := by
  have answered := handle.single_get_encryption_of_le now ids.instanceId ids.tableId holdings table
    failures used bounded
  have accepted := judge_report_report found filed two listed keyed readsKey
    fun asked => decide_eq_true (awaited asked)
  rw [inspectTable, outcome_expect_answer _ (Prod.ext answered rfl), Script.run_done, accepted]
  exact ⟨_, rfl, rfl⟩

variable (fits : schedule.Fits) (few : schedule.attempts + 1 < UInt32.size)

include fits few

/-- A wait that the schedule is long enough for is followed by an accepted look at the table. -/
theorem outcome_table_checks_of_lt (awaits : settings.waitForKeyStatus = true)
    (enough : failures.toNat + handle.convergenceReads.toNat < schedule.attempts) :
    ∃ seen, ((tableChecks settings schedule ids).run (handle.single now)
        (some (holdings.withTable ids.tableId ⟨table, 0, failures⟩))).outcome =
      .ok (.success seen) ∧
        seen.pollAttempts = some (.ofNat (failures.toNat + handle.convergenceReads.toNat + 1)) := by
  let watch : Watch := ⟨ids.instanceId, ids.tableId, ids.clusterId⟩
  obtain ⟨waited, events, run⟩ := watch.run_script_of_lt handle now table failures filed listed
    keyed readsKey fits (by omega) enough
  rw [tableChecks, if_pos awaits, Script.run_bind, run]
  exact outcome_inspect_table_of_le handle now table failures filed two listed keyed readsKey _
    (by omega) (by omega) fun _ => by omega

omit two in
/-- A wait that the schedule is too short for is the end of the scenario. -/
theorem outcome_table_checks_of_le (awaits : settings.waitForKeyStatus = true)
    (short : schedule.attempts ≤ failures.toNat + handle.convergenceReads.toNat) :
    ((tableChecks settings schedule ids).run (handle.single now)
        (some (holdings.withTable ids.tableId ⟨table, 0, failures⟩))).outcome =
      .ok (.fail .nothing
        (.convergence (.timeout ids.tableId ids.clusterId schedule.attempts))) := by
  let watch : Watch := ⟨ids.instanceId, ids.tableId, ids.clusterId⟩
  have run := watch.run_script_of_le handle now table failures filed listed keyed readsKey fits
    (by omega) short
  rw [tableChecks, if_pos awaits, Script.run_bind, Run.followed, run]
  rfl

/-- What a table scenario comes to once its table exists. It succeeds when its schedule is longer
than the failures and unconverged answers together or, without a wait, when no read fails. -/
theorem outcome_table_checks :
    ∃ outcome, ((tableChecks settings schedule ids).run (handle.single now)
        (some (holdings.withTable ids.tableId ⟨table, 0, failures⟩))).outcome = .ok outcome ∧
      (outcome.failure = none ↔ if settings.waitForKeyStatus then
        failures.toNat + handle.convergenceReads.toNat < schedule.attempts
        else failures.toNat = 0) ∧
      (outcome.failure = none → outcome.findings.pollAttempts = if settings.waitForKeyStatus then
        some (.ofNat (failures.toNat + handle.convergenceReads.toNat + 1)) else none) := by
  cases awaits : settings.waitForKeyStatus with
  | true =>
    by_cases enough : failures.toNat + handle.convergenceReads.toNat < schedule.attempts
    · obtain ⟨seen, ended, polled⟩ := outcome_table_checks_of_lt handle now table failures filed two
        listed keyed readsKey fits few awaits enough
      exact ⟨_, ended, iff_of_true rfl enough, fun _ => polled⟩
    · have ended := outcome_table_checks_of_le handle now table failures filed listed keyed readsKey
        fits few awaits (Nat.not_lt.mp enough)
      exact ⟨_, ended, iff_of_false nofun enough, nofun⟩
  | false =>
    rw [tableChecks, awaits, if_neg Bool.false_ne_true, ← TableState.after_reads_zero]
    by_cases none : failures.toNat = 0
    · have unasked : ¬ settings.waitForKeyStatus = true := by simp [awaits]
      obtain ⟨seen, ended, polled⟩ := outcome_inspect_table_of_le handle now table failures filed
        two listed keyed readsKey .nothing (Nat.le_of_eq none) (by decide)
        fun asked => absurd asked unasked
      exact ⟨_, ended, iff_of_true rfl none, fun _ => polled⟩
    · obtain ⟨error, ended⟩ := outcome_inspect_table_of_lt handle now table failures .nothing
        (Nat.pos_of_ne_zero none)
      exact ⟨_, ended, iff_of_false nofun none, nofun⟩

end TableChecks

/-- The clusters of a table scenario. -/
def tableSpecs (settings : Settings) (ids : ScenarioIds) : List ClusterSpec :=
  [settings.clusterSpec ids.clusterId settings.primaryZone,
    settings.clusterSpec ids.secondClusterId settings.siblingZone]

/-- With a key that covers its zones, none of them is refused. -/
theorem table_specs_accepted (placed : settings.Placed name) (ids : ScenarioIds) :
    ∀ spec ∈ tableSpecs settings ids, handle.placementRefusal spec = none :=
  List.forall_mem_cons.mpr ⟨placed.primary_accepted handle ids.clusterId,
    List.forall_mem_singleton.mpr (placed.sibling_accepted handle ids.secondClusterId)⟩

/-- With a key that covers its zones, a table scenario gets its instance and its table. -/
theorem outcome_table_script (placed : settings.Placed name) (schedule : Schedule)
    (ids : ScenarioIds) :
    ((tableScript settings schedule ids).run (handle.single now) none).outcome =
      ((tableChecks settings schedule ids).run (handle.single now)
        (some ((Holdings.ofSpecs ids.instanceId (tableSpecs settings ids)).withTable ids.tableId
          ⟨⟨ids.tableId, ids.instanceId, [scenarioFamily], now⟩, 0,
            handle.transientFailures⟩))).outcome := by
  have created := handle.single_create_instance now ids.instanceId (List.cons_ne_nil _ _)
    (table_specs_accepted handle placed ids)
  have tabled := handle.single_create_table now ids.instanceId
    (Holdings.contains_tables_of_specs ids.instanceId (tableSpecs settings ids) ids.tableId)
    [scenarioFamily]
  unfold tableScript
  exact (outcome_expect_answer _ created).trans (outcome_expect_answer _ tabled)

/-- A table scenario's instance has two clusters. -/
theorem size_table_specs (settings : Settings) {ids : ScenarioIds}
    (apart : ids.clusterId ≠ ids.secondClusterId) :
    (Holdings.ofSpecs ids.instanceId (tableSpecs settings ids)).clusters.size = 2 := by
  change (((∅ : ByName Cluster).insert ids.clusterId _).insert ids.secondClusterId _).size = 2
  rw [Std.ExtTreeMap.size_insert, Std.ExtTreeMap.size_insert]
  simp [Std.ExtTreeMap.contains_insert, apart]

/-- The first of them is found under its own id. -/
theorem lookup_table_specs (settings : Settings) {ids : ScenarioIds}
    (apart : ids.clusterId ≠ ids.secondClusterId) :
    (Holdings.ofSpecs ids.instanceId (tableSpecs settings ids)).clusters[ids.clusterId]? =
      some (.ofSpec ids.instanceId (settings.clusterSpec ids.clusterId settings.primaryZone)) := by
  change (((∅ : ByName Cluster).insert ids.clusterId _).insert ids.secondClusterId _)[_]? = _
  rw [Std.ExtTreeMap.getElem?_insert, if_neg (by simpa using Ne.symm apart)]
  exact Std.ExtTreeMap.getElem?_insert_self

end Scenario

end CustomerKeys
