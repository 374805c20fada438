import CustomerKeys.Convergence.Watch
import CustomerKeys.Scenario.Failure

/-!
# The checks of the scenarios

Each scenario is a script that creates what it needs, looks at what the plane reports and ends with
an outcome: its findings, and the failure if there is one. The judgements on what was reported are
separate functions without any calls. No script here deletes anything.

The settings are taken as valid; `schedule` is the one they ask for and `now` the clock.
-/

namespace CustomerKeys

/-- How the body of a scenario ends: what was found, and the failure if there was one. The teardown
comes after it and cannot change it. -/
structure Outcome where
  findings : Findings
  failure : Option Failure
  deriving DecidableEq, Repr

namespace Outcome

/-- Everything was as expected, and this was found on the way. -/
def success (findings : Findings) : Outcome := ⟨findings, none⟩

/-- Something was not as expected. What had been found until then is kept for the report. -/
def fail (findings : Findings) (failure : Failure) : Outcome := ⟨findings, some failure⟩

/-- The verdict that an outcome leads to. The failure becomes a text here, and the report holds
nothing else of it. -/
def verdict (outcome : Outcome) : Verdict :=
  match outcome.failure with
  | none => .passed
  | some failure => .failed failure.message

end Outcome

/-- What the plane must say when a key cannot protect a cluster in a zone, from the name of the code
to the name of the zone. -/
def expectedRejection (project key zone : String) : String :=
  "FAILED_PRECONDITION: Error in field 'cluster' : " ++
    "Error in field 'encryption_config.kms_key_name' : CMEK key " ++ key ++
    " cannot be used to protect a cluster in zone " ++ Zone.path project zone

/-- Whether some characters stand next to each other in a text. The places are tried one after the
other, so the definition can be followed through by induction. -/
def standsIn (part : List Char) : List Char → Bool
  | [] => part.isEmpty
  | c :: rest => part.isPrefixOf (c :: rest) || standsIn part rest

/-- Standing in a text is being a connected part of it, which the library of lists calls an infix.
-/
theorem stands_in_iff_is_infix {part whole : List Char} :
    standsIn part whole = true ↔ part <:+: whole := by
  induction whole with
  | nil => simp [standsIn]
  | cons c rest inductionHypothesis =>
    simp [standsIn, inductionHypothesis, List.infix_cons_iff]

/-- Whether one text occurs in another. The text of a refusal may say more than what is expected of
it, before and behind. -/
def occursIn (part whole : String) : Bool := standsIn part.toList whole.toList

namespace Scenario

/-- Make a call that must succeed, keeping the findings made so far. A refusal ends the scenario
with the error of the call as its failure. -/
def expectAnswer (found : Findings) (request : Request)
    (answered : request.Answer → Script Outcome) : Script Outcome :=
  .attempt request (fun error => .done (.fail found (.admin error))) answered

/-- Look a cluster up and demand that it reports the configured key. The scenario goes on only when
it does. -/
def expectClusterKey (settings : Settings) (ids : ScenarioIds) (clusterId : String)
    (next : Script Outcome) : Script Outcome :=
  expectAnswer .nothing (.getCluster ids.instanceId clusterId) fun cluster =>
    if cluster.key = some settings.key then next
    else .done (.fail .nothing (.assertion (.clusterKey clusterId cluster.key settings.key)))

/-- Judge the reply to the cluster that must be refused. Only a failed precondition counts as the
refusal, and its text must contain the expected one. -/
def judgeRejection (settings : Settings) : Except AdminError Cluster → Outcome
  | .ok cluster => .fail .nothing (.accepted cluster settings.key)
  | .error error =>
    if error.isFailedPrecondition then
      let found := { Findings.nothing with rejection := some error.message }
      let expected := expectedRejection settings.project settings.key settings.foreignZone
      if occursIn expected error.message then .success found
      else .fail found (.assertion (.rejectionText error.message expected))
    else .fail .nothing (.admin error)

/-- Clusters in the region of the key report it; one outside the region is refused. Two are created
and looked up, then the refusal of the third is judged. -/
def clusterScript (settings : Settings) (ids : ScenarioIds) : Script Outcome :=
  expectAnswer .nothing
      (.createInstance ids.instanceId
        [settings.clusterSpec ids.clusterId settings.primaryZone]) fun _ =>
  expectClusterKey settings ids ids.clusterId <|
  expectAnswer .nothing
      (.createCluster ids.instanceId
        (settings.clusterSpec ids.secondClusterId settings.siblingZone)) fun _ =>
  expectClusterKey settings ids ids.secondClusterId <|
  .call (.createCluster ids.instanceId
      (settings.clusterSpec ids.rejectedClusterId settings.foreignZone)) fun reply =>
  .done (judgeRejection settings reply)

/-- Judge the metadata of a table: its kind, then what it says about the configured key. After a
wait the status must be `OK`; without one it may also be transient. -/
def judgeTableEncryption (settings : Settings) (encryption : Encryption) : Option Failure :=
  if !encryption.isCustomerManaged then some (.assertion (.tableKind encryption.kind))
  else match encryption.keyStatus settings.key with
    | .unhandled code => some (.unhandled (.tableStatus code encryption.status.message))
    | status =>
      if settings.waitForKeyStatus && !encryption.status.isOk then
        some (.assertion (.notConverged encryption.status.code))
      else match status with
        | .malformed fault => some (.assertion (.keyStatus fault))
        | _ => none

/-- Judge what a table reports: as many entries as the instance has clusters, one item in each, and
an acceptable item for the first cluster. -/
def judgeReport (settings : Settings) (ids : ScenarioIds) (found : Findings)
    (report : EncryptionReport) : Outcome :=
  let found := { found with clusterEntries := some (.ofNat report.size) }
  if report.size ≠ 2 then .fail found (.assertion (.entryCount 2 report.size))
  else match report.toList.find? fun (_, entries) => entries.length ≠ 1 with
    | some (clusterId, entries) =>
      .fail found (.unhandled (.clusterEntries clusterId entries.length))
    | none =>
      match report[ids.clusterId]?.bind List.head? with
      | none => .fail found (.assertion (.noEntry ids.clusterId))
      | some encryption =>
        ⟨{ found with encryption := some encryption }, judgeTableEncryption settings encryption⟩

/-- Read a table's metadata once and judge it. After a wait this is one more read, so what is judged
need not be what ended the wait. -/
def inspectTable (settings : Settings) (ids : ScenarioIds) (found : Findings) : Script Outcome :=
  expectAnswer found (.getEncryption ids.instanceId ids.tableId) fun report =>
  .done (judgeReport settings ids found report)

/-- A table takes the key over from every cluster of its instance. The wait for the key status, when
it is asked for, watches the first cluster alone. -/
def tableScript (settings : Settings) (schedule : Schedule) (ids : ScenarioIds) : Script Outcome :=
  expectAnswer .nothing
      (.createInstance ids.instanceId
        [settings.clusterSpec ids.clusterId settings.primaryZone,
          settings.clusterSpec ids.secondClusterId settings.siblingZone]) fun _ =>
  expectAnswer .nothing
      (.createTable ids.instanceId ids.tableId [scenarioFamily]) fun _ =>
  if settings.waitForKeyStatus then
    let watch : Watch := ⟨ids.instanceId, ids.tableId, ids.clusterId⟩
    (watch.script schedule).bind fun
      | .error error => .done (.fail .nothing (.convergence error))
      | .ok convergence => inspectTable settings ids
          { Findings.nothing with pollAttempts := some (.ofNat convergence.attempts) }
  else inspectTable settings ids .nothing

/-- Judge the metadata of a backup: it must be pinned to a version of the configured key. -/
def judgeBackup (settings : Settings) (backup : Backup) : Outcome :=
  let found := { Findings.nothing with encryption := some backup.encryption }
  if backup.encryption.isPinnedUntracked settings.key then .success found
  else .fail found (.assertion (.unpinnedBackup settings.key backup.encryption))

/-- A backup is pinned to a key version whose status is never tracked. It is looked up again after
it was taken, and judged by what the look-up shows. -/
def backupScript (settings : Settings) (now : UInt64) (ids : ScenarioIds) : Script Outcome :=
  expectAnswer .nothing
      (.createInstance ids.instanceId
        [settings.clusterSpec ids.clusterId settings.primaryZone]) fun _ =>
  expectAnswer .nothing
      (.createTable ids.instanceId ids.tableId [scenarioFamily]) fun _ =>
  match timeAfter? now settings.backupLifetime with
  | none => .done (.fail .nothing (.settings (.expiryOverflow settings.backupLifetime)))
  | some expireTime =>
    expectAnswer .nothing
        (.createBackup ids.instanceId
          ⟨ids.clusterId, ids.backupId, ids.tableId, expireTime⟩) fun _ =>
    expectAnswer .nothing
        (.getBackup ids.instanceId ids.clusterId ids.backupId) fun backup =>
    .done (judgeBackup settings backup)

/-- The body of a scenario: everything but the teardown. Which calls it makes depends on the
replies, but they all address the instance of the run. -/
def body (scenario : Scenario) (settings : Settings) (schedule : Schedule) (now : UInt64)
    (ids : ScenarioIds) : Script Outcome :=
  match scenario with
  | .instanceCluster => clusterScript settings ids
  | .table => tableScript settings schedule ids
  | .backup => backupScript settings now ids

end Scenario

end CustomerKeys
