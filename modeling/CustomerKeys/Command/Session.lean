import CustomerKeys.Command.Invocation
import CustomerKeys.Json.Writer
import CustomerKeys.Plane.Serve
import CustomerKeys.Scenario.Run
import CustomerKeys.Scenario.Summary
import CustomerKeys.Settings.Overrides
import CustomerKeys.Settings.Text

/-!
# Sessions

A session is one call of the tool, from its arguments to its exit. What it needs of the world, a
clock, files and the environment, is handed to it, so a session is a function of its arguments and
its surroundings.

A run goes through its preparations in a fixed order, and the first that fails ends it: the settings
are loaded, overridden from the environment and by the switch for waiting, the scenarios are
selected, and the settings are validated. After that it always prints its reports. It fails if a
scenario has failed.
-/

namespace CustomerKeys.Command

/-- What a session sees of the world: the time, the files, and the variables of the environment.
None of them changes while it runs. -/
structure Surroundings where
  now : UInt64
  file : String → Except FileFault ByteArray
  environment : String → Option String

/-- How a session ends: its exit code, what it prints, and what it complains about. -/
structure Exit where
  code : UInt32
  output : String
  complaint : String
  deriving DecidableEq, Repr

/-- A session that did what was asked: its code is zero, and there is nothing to complain about. -/
def Exit.success (output : String) : Exit := ⟨0, output, ""⟩

/-- Why a command fails, once its arguments have been understood: its settings cannot be loaded,
used or written, its selection names no scenario, or scenarios have failed. -/
inductive RunFault where
  | loading (path : String) (fault : LoadFault)
  | settings (fault : SettingsFault)
  | unknownScenario (name : String)
  | scenariosFailed (failed total : Nat)
  | unwritable (reason : Toml.Unwritable)
  deriving DecidableEq, Repr

/-- The text of a failed command. A cause that is only shown in detail stands on further lines. -/
def RunFault.message : RunFault → String
  | .loading path fault => "loading " ++ path ++ "\n\nCaused by:\n    " ++ fault.message
  | .settings fault => settingsComplaint fault.message
  | .unknownScenario name => Scenario.unknownMessage name
  | .scenariosFailed failed total =>
    toString failed ++ " of " ++ toString total ++ " scenarios failed"
  | .unwritable reason => settingsComplaint reason.message

/-- A session that failed after printing something: its code is one, and it complains in a line of
its own. -/
def Exit.failure (output : String) (fault : RunFault) : Exit :=
  ⟨1, output, "Error: " ++ fault.message ++ "\n"⟩

/-- The name of the tool, as it stands in the line on how to call it and before its version. -/
def toolName : String := "cmek-it"

/-- How the tool is called, with both commands and their switches. It is printed when it is asked
for and when the arguments cannot be understood. -/
def usage : String :=
  "Usage: " ++ toolName ++ " init [--project-id ID] [--kms-key-name NAME]\n" ++
    "       " ++ toolName ++ " run [-c|--config PATH] [-s|--scenario NAME] " ++
    "[--wait-for-key-status]\n" ++
    "           [--convergence-reads N] [--transient-failures N] [--skip-sleep] [--json]\n"

/-- The end of a session in which nothing is done. Only arguments that cannot be understood count as
a failure, with a code of their own. -/
def Refrain.exit (refrain : Refrain) : Exit :=
  match refrain.interruption with
  | .misuse => ⟨2, "", usage⟩
  | .help => .success usage
  | .version =>
    let command := match refrain.command with
      | some command => "-" ++ command
      | none => ""
    .success (toolName ++ command ++ " 0.1.0\n")

/-- Print settings to start from. They are validated first, so that what is printed can be run, and
are refused with the fault that a run would report. -/
def InitOptions.exit (options : InitOptions) (now : UInt64) : Exit :=
  let settings := Settings.scaffold options.project options.key
  match settings.validate now with
  | .error fault => .failure "" (.settings fault)
  | .ok () =>
    match settings.toToml with
    | .error reason => .failure "" (.unwritable reason)
    | .ok text => .success text

/-- A run that is ready to start: what to run, with which settings, and how the plane reports.
Everything that can be wrong with a call has been found out before there is one. -/
structure Job where
  harness : Harness
  scenarios : List Scenario
  handle : Handle

namespace RunOptions

/-- The settings of a run before the switches apply: those of the file that is named, or those of
the sandbox if none is. -/
def loaded (options : RunOptions) (surroundings : Surroundings) : Except RunFault Settings :=
  match options.settingsPath with
  | some path => (Settings.ofFile path (surroundings.file path)).mapError (.loading path)
  | none => .ok (.scaffold sandboxProject sandboxKey)

/-- Prepare a run: load the settings, override them, select the scenarios and validate. The order
decides which fault is reported when there are several. -/
def prepare (options : RunOptions) (surroundings : Surroundings) : Except RunFault Job := do
  let settings ← options.loaded surroundings
  let settings ← (settings.overridden surroundings.environment).mapError .settings
  let wait := options.waitForKeyStatus || settings.waitForKeyStatus
  let settings := { settings with waitForKeyStatus := wait }
  let scenarios ← match Scenario.select? options.selection with
    | some scenarios => .ok scenarios
    | none => .error (.unknownScenario options.selection)
  let harness ← (Harness.ofSettings settings surroundings.now).mapError .settings
  return ⟨harness, scenarios,
    ⟨settings.project, options.convergenceReads, options.transientFailures⟩⟩

/-- The reports of a run as they are printed, either as one JSON text or in lines for people. -/
def shown (options : RunOptions) (reports : List Report) : String :=
  if options.json then Json.pretty (.list (reports.map Report.encode)) ++ "\n"
  else String.join (reports.map fun report => report.summary ++ "\n")

/-- The end of a run with the given reports. They are printed in any case; if one of them has
failed, the session fails and says how many have. -/
def exit (options : RunOptions) (reports : List Report) : Exit :=
  let failed := reports.countP fun report => !report.passed
  if failed = 0 then .success (options.shown reports)
  else .failure (options.shown reports) (.scenariosFailed failed reports.length)

end RunOptions

/-- The reports of a job on a sandbox plane of its own, which is empty at first and is gone
afterwards. The scenarios run one after the other here. -/
def Job.reports (job : Job) (now : UInt64) : List Report :=
  (job.harness.runSuite (job.handle.client now) now 1 job.scenarios .empty).1

/-- A whole session, in which no time passes: from the arguments and the surroundings to the code
and the texts with which it ends. -/
def session (surroundings : Surroundings) (arguments : List String) : Exit :=
  match Invocation.read arguments with
  | .error refrain => refrain.exit
  | .ok (.init options) => options.exit surroundings.now
  | .ok (.run options) =>
    match options.prepare surroundings with
    | .error fault => .failure "" fault
    | .ok job => options.exit (job.reports surroundings.now)

end CustomerKeys.Command
