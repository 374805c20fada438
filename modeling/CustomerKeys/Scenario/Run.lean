import CustomerKeys.Scenario.Check

/-!
# Running scenarios

A run is the body of a scenario followed by the teardown, whatever the body came to: the backup is
deleted, then the instance, and the replies do not matter. A body that aborts is not torn down.

A harness is settings that have been found valid, with their schedule. A suite runs scenarios in
order and reports each of them; a run that aborts is reported as failed.
-/

namespace CustomerKeys

/-- Settings fit to run with, and the schedule they ask for. Only `ofSettings` is meant to build
one, so a harness that is at hand has been validated. -/
structure Harness where
  settings : Settings
  schedule : Schedule

/-- Validate settings at a time and make a harness of them. The first fault of the settings is the
answer if they have one. -/
def Harness.ofSettings (settings : Settings) (now : UInt64) : Except SettingsFault Harness := do
  settings.validate now
  let schedule ← settings.schedule.mapError .badSchedule
  return ⟨settings, schedule⟩

namespace Harness

/-- Delete the backup and the instance of a run. The replies do not matter: what was never created
cannot be deleted, and that is no failure. -/
def teardown (ids : ScenarioIds) : Script Unit :=
  .call (.deleteBackup ids.instanceId ids.clusterId ids.backupId) fun _ =>
  .call (.deleteInstance ids.instanceId) fun _ =>
  .done ()

/-- Run a scenario under given ids, tear down, and report. The report leaves the duration at zero;
whoever times the run fills it in. -/
def runWithIds (harness : Harness) (now : UInt64) (scenario : Scenario) (ids : ScenarioIds) :
    Script Report :=
  (scenario.body harness.settings harness.schedule now ids).bind fun outcome =>
  (teardown ids).bind fun _ =>
  .done ⟨scenario, ids.instanceId, outcome.verdict, outcome.findings, 0⟩

/-- Run a scenario under ids made from the time. Two runs of one scenario at the same second would
share their ids. -/
def runAt (harness : Harness) (now : UInt64) (scenario : Scenario) : Script Report :=
  harness.runWithIds now scenario (.ofRun harness.settings.idStem scenario now)

/-- The report of a run that aborted, which names no instance and tells the place of the run in its
suite. Runs are numbered from one. -/
def abortedReport (scenario : Scenario) (number : Nat) (cause : Abort) : Report where
  scenario := scenario
  instanceId := ""
  verdict := .failed <|
    "scenario task aborted: task " ++ toString number ++ " panicked with message " ++
      Text.quoted cause.message
  findings := .nothing
  durationMs := 0

/-- The report of a run, whether it came to an end or aborted. A suite has a report for each of its
scenarios in either case. -/
def settle (scenario : Scenario) (number : Nat) : Except Abort Report → Report
  | .ok report => report
  | .error cause => abortedReport scenario number cause

/-- Run scenarios one after the other against a client and report them in order. The first of them
has the given number. -/
def runSuite {σ : Type} (harness : Harness) (client : Client σ) (now : UInt64) :
    (number : Nat) → List Scenario → σ → List Report × σ × List Event
  | _, [], state => ([], state, [])
  | number, scenario :: rest, state =>
    let first := (harness.runAt now scenario).run client state
    let (reports, last, events) := harness.runSuite client now (number + 1) rest first.state
    (settle scenario number first.outcome :: reports, last, first.events ++ events)

end Harness

end CustomerKeys
