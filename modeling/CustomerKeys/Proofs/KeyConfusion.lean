import CustomerKeys.Proofs.ShownMetadata

/-!
# Which keys are taken for one another

Metadata that names a version of one key is read against the name of another. It is accepted exactly
when the first key extends the second: both lie in one ring, and the last part of the first name
begins with the last part of the second. This holds of the classification of a table's metadata and
of a backup's, and of the verdict on a whole run. No client whatever makes a run pass that was last
shown a version of a key that does not extend the configured one. When it does extend it, there is
a client that makes the run pass, though the keys are different.
-/

namespace CustomerKeys

/-- A report on two clusters that has the same metadata for both. -/
def pairReport (first second : String) (encryption : Encryption) : EncryptionReport :=
  (Std.ExtTreeMap.empty.insert second [encryption]).insert first [encryption]

/-- A report on a cluster and one more, in which all metadata names one version. -/
def uniformReport (clusterId version : String) : EncryptionReport :=
  (Std.ExtTreeMap.empty.insert (clusterId ++ "-sibling") [Encryption.converged version]).insert
    clusterId [Encryption.converged version]

/-- A client that has whatever is asked for and protects all of it by one key version. Clusters are
not looked up or added to it. -/
def Client.protecting (clusterId version : String) : Client Unit := fun request state =>
  let backup : Backup := ⟨scenarioBackup, clusterId, scenarioTable, 0, .pinned version⟩
  (match request with
    | .createInstance instanceId specs => .ok ⟨instanceId, specs.map ClusterSpec.id, 0⟩
    | .createTable instanceId tableId families => .ok ⟨tableId, instanceId, families, 0⟩
    | .getEncryption .. => .ok (uniformReport clusterId version)
    | .createBackup .. => .ok backup
    | .getBackup .. => .ok backup
    | .deleteBackup .. => .ok ()
    | .deleteInstance .. => .ok ()
    | .getCluster .. => .error (.unavailable "clusters are not looked up")
    | .createCluster .. => .error (.unavailable "clusters are not added"), state)

section PairReport

variable {first second : String} {encryption : Encryption}

/-- The first cluster is reported. -/
theorem lookup_pair_report :
    (pairReport first second encryption)[first]? = some [encryption] :=
  Std.ExtTreeMap.getElem?_insert_self

/-- Every entry of the report is the same. -/
theorem eq_of_lookup_pair_report {other : String} {entries : List Encryption}
    (listed : (pairReport first second encryption)[other]? = some entries) :
    entries = [encryption] := by
  unfold pairReport at listed
  rw [Std.ExtTreeMap.getElem?_insert] at listed
  split at listed
  · exact (Option.some.inj listed).symm
  · rw [Std.ExtTreeMap.getElem?_insert] at listed
    split at listed
    · exact (Option.some.inj listed).symm
    · simp at listed

/-- There are two entries when the clusters are different. -/
theorem size_pair_report (apart : second ≠ first) :
    (pairReport first second encryption).size = 2 := by
  unfold pairReport
  rw [Std.ExtTreeMap.size_insert, Std.ExtTreeMap.size_insert]
  simp [apart]

end PairReport

/-- A longer id is a different one. -/
theorem append_sibling_ne (clusterId : String) : clusterId ++ "-sibling" ≠ clusterId := by
  intro same
  have lengths := congrArg String.length same
  rw [String.length_append] at lengths
  have longer : 0 < "-sibling".length := by decide
  omega

/-- The cluster that was asked about is reported. -/
theorem lookup_uniform_report (clusterId version : String) :
    (uniformReport clusterId version)[clusterId]? = some [.converged version] :=
  lookup_pair_report

namespace Scenario

variable {settings : Settings} {ids : ScenarioIds} {version : String}

/-- A report on the first cluster and any other one is what a table run expects, if its version
counts as one of the configured key. -/
theorem report_expected_pair_report {other : String} (apart : other ≠ ids.clusterId)
    (owned : (Encryption.converged version).hasVersionOf settings.key = true) :
    ReportExpected settings ids (pairReport ids.clusterId other (.converged version)) := by
  have converged : (Encryption.converged version).keyStatus settings.key = .converged := by
    rw [Encryption.key_status_converged_eq_ite, if_pos owned]
  refine ⟨size_pair_report apart, ?_, _, lookup_pair_report, rfl, .inl converged⟩
  intro clusterId entries listed
  rw [eq_of_lookup_pair_report listed, List.length_singleton]

/-- The report is what a table run expects, if the version counts as one of the configured key. -/
theorem report_expected_uniform_report
    (owned : (Encryption.converged version).hasVersionOf settings.key = true) :
    ReportExpected settings ids (uniformReport ids.clusterId version) :=
  report_expected_pair_report (append_sibling_ne ids.clusterId) owned

/-- The client satisfies the plan of a scenario that looks at metadata, if the version counts as one
of the configured key. -/
theorem stages_protecting (scenario : Scenario) (looks : scenario ≠ .instanceCluster)
    {schedule : Schedule} {expireTime : UInt64} (named : version ≠ "")
    (owned : (Encryption.converged version).hasVersionOf settings.key = true) :
    ∀ stage ∈ scenario.stages settings schedule expireTime ids, ∀ state,
      stage.accepts (Client.protecting ids.clusterId version stage.request state).1 := by
  cases scenario with
  | instanceCluster => exact absurd rfl looks
  | table =>
    intro stage listed state
    simp only [stages, tableStages, List.mem_append, List.mem_cons, List.not_mem_nil,
      or_false] at listed
    obtain ((rfl | rfl) | polled) | rfl := listed
    · exact ⟨_, rfl, trivial⟩
    · exact ⟨_, rfl, trivial⟩
    · split at polled
      · obtain rfl := List.mem_singleton.mp polled
        exact ⟨_, ⟨_, rfl, lookup_uniform_report _ _⟩, rfl⟩
      · cases polled
    · exact ⟨_, rfl, report_expected_uniform_report owned⟩
  | backup =>
    have pinned : (Encryption.pinned version).isPinnedUntracked settings.key = true :=
      (Encryption.is_pinned_untracked_pinned_iff named).mpr owned
    intro stage listed state
    simp only [stages, backupStages, List.mem_cons, List.not_mem_nil, or_false] at listed
    obtain rfl | rfl | rfl | rfl := listed
    · exact ⟨_, rfl, trivial⟩
    · exact ⟨_, rfl, trivial⟩
    · exact ⟨_, rfl, trivial⟩
    · exact ⟨_, rfl, pinned⟩

/-- What the client shows is of its one version. -/
theorem Shows.key_version_protecting {scenario : Scenario} {call : Event} {encryption : Encryption}
    (shown : scenario.Shows ids call encryption)
    (answered : ∀ (request : Request) (reply : request.Reply), call = .called request reply →
      ∃ state, reply = (Client.protecting ids.clusterId version request state).1) :
    encryption.keyVersion = version := by
  cases shown with
  | table found =>
    obtain ⟨_, replied⟩ := answered _ _ rfl
    obtain rfl := Except.ok.inj replied
    obtain ⟨rfl, -⟩ := List.cons.inj (eq_of_lookup_pair_report found)
    rfl
  | backup backup =>
    obtain ⟨_, replied⟩ := answered _ _ rfl
    obtain rfl := Except.ok.inj replied
    rfl

end Scenario

namespace Harness

/-- Some client makes a run pass after it was last shown metadata that names a version. -/
def CanPassOn (harness : Harness) (now : UInt64) (scenario : Scenario) (ids : ScenarioIds)
    (version : String) : Prop :=
  ∃ (σ : Type) (client : Client σ) (state : σ) (reported : Report) (encryption : Encryption),
    ((harness.runWithIds now scenario ids).run client state).outcome = .ok reported ∧
    reported.passed = true ∧
    ((harness.runWithIds now scenario ids).run client state).ShowsLast scenario ids encryption ∧
    encryption.keyVersion = version

variable (harness : Harness) (now : UInt64) (scenario : Scenario) (ids : ScenarioIds)

/-- A run can pass on a version that counts as one of the configured key, if its waits add up and
its backup has an expiry. -/
theorem can_pass_on_of_has_version_of (looks : scenario ≠ .instanceCluster)
    (fits : harness.schedule.Fits) {expireTime : UInt64}
    (expires : timeAfter? now harness.settings.backupLifetime = some expireTime) {version : String}
    (named : version ≠ "")
    (owned : (Encryption.converged version).hasVersionOf harness.settings.key = true) :
    harness.CanPassOn now scenario ids version := by
  let client := Client.protecting ids.clusterId version
  have performs := Scenario.body_performs harness.settings ids scenario fits expires
  obtain ⟨outcome, came, good⟩ :=
    performs.run_passes client () (scenario.stages_protecting looks named owned)
  have ended := congrArg Run.outcome (harness.run_run_with_ids now scenario ids client came)
  have passed : (report scenario ids outcome).passed = true := by
    rw [passed_report, good]
    rfl
  obtain ⟨encryption, shown, -⟩ :=
    harness.exists_shown_of_passed now scenario ids looks ended passed
  refine ⟨Unit, client, (), _, encryption, ended, passed, shown, ?_⟩
  obtain ⟨before, call, backupReply, instanceReply, calls, shows⟩ := shown
  refine shows.key_version_protecting fun request reply same => ?_
  have made : .called request reply ∈
      ((harness.runWithIds now scenario ids).run client ()).calls := by
    rw [calls, ← same]
    exact List.mem_append_right before List.mem_cons_self
  exact Script.exists_reply_of_called_mem _ client made

end Harness

namespace KeyName

variable {text otherText : String} {name other : KeyName}

/-- Of two keys that can be read, any version of the one is accepted for the other exactly when the
one extends the other: as a table's converged metadata, as a backup's, and in a run, where this is
what decides whether any client can make it pass. -/
theorem version_accepted_iff_extends (readsKey : parse text = .ok name)
    (readsOther : parse otherText = .ok other) (number : UInt32) :
    let version := other.version number
    ((Encryption.converged version).keyStatus text =
      if other.Extends name then .converged else .malformed (.foreignVersion version text)) ∧
    ((Encryption.pinned version).isPinnedUntracked text = true ↔ other.Extends name) ∧
    ∀ (harness : Harness) (now : UInt64) (scenario : Scenario) (ids : ScenarioIds),
      harness.settings.key = text →
      (harness.CanPassOn now scenario ids version → other.Extends name) ∧
      (scenario ≠ .instanceCluster → harness.schedule.Fits →
        (timeAfter? now harness.settings.backupLifetime).isSome = true → other.Extends name →
        harness.CanPassOn now scenario ids version) := by
  intro version
  have named : version ≠ "" := other.version_ne_empty number
  have tableVersion : (Encryption.converged version).hasVersionOf text = true ↔
      other.Extends name := Encryption.has_version_of_iff_extends readsKey readsOther rfl
  have backupVersion : (Encryption.pinned version).hasVersionOf text = true ↔ other.Extends name :=
    Encryption.has_version_of_iff_extends readsKey readsOther rfl
  refine ⟨?_, ?_, ?_⟩
  · rw [Encryption.key_status_converged_eq_ite]
    simp only [tableVersion]
  · rw [Encryption.is_pinned_untracked_pinned_iff named]
    exact backupVersion
  · rintro harness now scenario ids rfl
    constructor
    · rintro ⟨σ, client, state, reported, encryption, ended, passed, shown, ofVersion⟩
      have accepted := harness.accepts_of_shows_last now scenario ids ended passed shown
      exact accepted.extends readsKey readsOther ofVersion
    · intro looks fits expires extended
      obtain ⟨expireTime, expires⟩ := Option.isSome_iff_exists.mp expires
      exact harness.can_pass_on_of_has_version_of now scenario ids looks fits expires named
        (tableVersion.mpr extended)

/-- Two keys of one ring: runs for the shorter name can pass on versions of the longer one, and not
the other way round. -/
theorem one_key_extends_another :
    let short : KeyName := ⟨"p", "us-central1", "r", "k"⟩
    let long : KeyName := ⟨"p", "us-central1", "r", "k2"⟩
    let harness (name : KeyName) : Harness := ⟨Settings.scaffold "p" name.render, .usual⟩
    let ids := ScenarioIds.ofRun "cmek-it-" .backup 7
    parse short.render = .ok short ∧ parse long.render = .ok long ∧
      (harness short).CanPassOn 7 .backup ids (long.version 1) ∧
      ¬ (harness long).CanPassOn 7 .backup ids (short.version 1) := by
  intro short long harness ids
  have readsShort : parse short.render = .ok short := parse_eq_ok_iff.mpr ⟨by decide, rfl⟩
  have readsLong : parse long.render = .ok long := parse_eq_ok_iff.mpr ⟨by decide, rfl⟩
  have fits : (harness short).schedule.Fits := by decide
  have expires : (timeAfter? 7 (harness short).settings.backupLifetime).isSome = true := by decide
  have longer : long.Extends short := by decide
  have notShorter : ¬ short.Extends long := by decide
  obtain ⟨-, -, onLong⟩ := version_accepted_iff_extends readsShort readsLong 1
  obtain ⟨-, -, onShort⟩ := version_accepted_iff_extends readsLong readsShort 1
  refine ⟨readsShort, readsLong, ?_, ?_⟩
  · exact (onLong (harness short) 7 .backup ids rfl).2 (by decide) fits expires longer
  · intro passes
    exact notShorter ((onShort (harness long) 7 .backup ids rfl).1 passes)

/-- So a version of a different key is good metadata, is pinned, and lets both the table and the
backup scenario pass. -/
theorem different_key_accepted :
    let key := "projects/p/locations/us-central1/keyRings/r/cryptoKeys/k"
    let otherKey := "projects/p/locations/us-central1/keyRings/r/cryptoKeys/k2"
    let name : KeyName := ⟨"p", "us-central1", "r", "k"⟩
    let other : KeyName := ⟨"p", "us-central1", "r", "k2"⟩
    let version := other.version 1
    let harness : Harness := ⟨Settings.scaffold "p" key, .usual⟩
    Harness.ofSettings (.scaffold "p" key) 7 = .ok harness ∧
      parse key = .ok name ∧ parse otherKey = .ok other ∧ name ≠ other ∧
      (Encryption.converged version).keyStatus key = .converged ∧
      (Encryption.pinned version).isPinnedUntracked key = true ∧
      harness.CanPassOn 7 .table (.ofRun "cmek-it-" .table 7) version ∧
      harness.CanPassOn 7 .backup (.ofRun "cmek-it-" .backup 7) version := by
  intro key otherKey name other version harness
  have readsKey : parse key = .ok name := parse_eq_ok_iff.mpr ⟨by decide, by decide⟩
  have readsOther : parse otherKey = .ok other := parse_eq_ok_iff.mpr ⟨by decide, by decide⟩
  have fits : harness.schedule.Fits := by decide
  have expires : timeAfter? 7 harness.settings.backupLifetime = some 21607 := by decide
  have named : version ≠ "" := other.version_ne_empty 1
  have owned : (Encryption.converged version).hasVersionOf harness.settings.key = true := by decide
  have accepted : Harness.ofSettings (.scaffold "p" key) 7 = .ok harness :=
    Harness.of_settings_scaffold (by decide) readsKey (by decide)
  refine ⟨accepted, readsKey, readsOther, by decide, by decide, by decide, ?_, ?_⟩
  · exact harness.can_pass_on_of_has_version_of 7 .table _ (by decide) fits expires named owned
  · exact harness.can_pass_on_of_has_version_of 7 .backup _ (by decide) fits expires named owned

end KeyName

end CustomerKeys
