import CustomerKeys.Command.Switch
import CustomerKeys.Text.Digits

/-!
# Invocations

The tool is called with a command and its switches. `init` prints settings to start from; `run` runs
scenarios against the sandbox plane. The words `version` and `help` may be asked of the tool and of
each command.
-/

namespace CustomerKeys.Command

/-- The project of the sandbox, used when a run is not given any settings and when settings to start
from are asked for without a project. -/
def sandboxProject : String := "cmek-sandbox"

/-- The key of the sandbox. Its location is the region of the zones in the settings to start from,
so a run with it can pass. -/
def sandboxKey : String :=
  "projects/cmek-sandbox/locations/us-central1/keyRings/cmek-it/cryptoKeys/cmek-it-key"

/-- What `init` is asked for: the project and the key that the printed settings name. Neither is
checked when the arguments are read. -/
structure InitOptions where
  project : String
  key : String
  deriving DecidableEq, Repr

/-- What `run` is asked for: where its settings come from, which scenarios to run, how the sandbox
reports, and how time is spent and reports are printed. -/
structure RunOptions where
  settingsPath : Option String
  selection : String
  waitForKeyStatus : Bool
  convergenceReads : UInt32
  transientFailures : UInt32
  skipSleep : Bool
  json : Bool
  deriving DecidableEq, Repr

/-- What the tool is asked for, once its arguments have been understood: one of its two commands
with the options of that command. -/
inductive Invocation where
  | init (options : InitOptions)
  | run (options : RunOptions)
  deriving DecidableEq, Repr

/-- The options of `init` unless others are given: those of the sandbox, so that the printed
settings can be run at once. -/
def InitOptions.usual : InitOptions := ⟨sandboxProject, sandboxKey⟩

/-- The options of `run` unless others are given: all scenarios, on a plane that converges at once
and never fails. -/
def RunOptions.usual : RunOptions := ⟨none, "all", false, 0, 0, false, false⟩

/-- A number of 32 bits in decimal digits, with or without a sign. A minus is only understood before
a zero, and leading zeros do no harm. -/
def word32? (text : String) : Option UInt32 :=
  let (negative, digits) := match text.toList with
    | '-' :: digits => (true, digits)
    | '+' :: digits => (false, digits)
    | digits => (false, digits)
  let value := Text.valueOfDigits 10 digits
  if digits.isEmpty ∨ !digits.all Char.isDigit then none
  else if negative ∧ value ≠ 0 then none
  else if value < UInt32.size then some (.ofNat value)
  else none

/-- The switches of `init`, each taking a text as it is. Whether the text can be used is found out
when the settings are validated. -/
def initSwitches : List (Switch InitOptions) :=
  [⟨"project-id", none, .valued fun value options => some { options with project := value }⟩,
    ⟨"kms-key-name", none, .valued fun value options => some { options with key := value }⟩]

/-- The switches of `run`. Two have a short form, four take a value, and the path of the settings
must not be empty. -/
def runSwitches : List (Switch RunOptions) :=
  [⟨"config", some 'c', .valued fun value options =>
      if value = "" then none else some { options with settingsPath := some value }⟩,
    ⟨"scenario", some 's', .valued fun value options => some { options with selection := value }⟩,
    ⟨"wait-for-key-status", none, .present fun options =>
      { options with waitForKeyStatus := true }⟩,
    ⟨"convergence-reads", none, .valued fun value options =>
      (word32? value).map fun reads => { options with convergenceReads := reads }⟩,
    ⟨"transient-failures", none, .valued fun value options =>
      (word32? value).map fun failures => { options with transientFailures := failures }⟩,
    ⟨"skip-sleep", none, .present fun options => { options with skipSleep := true }⟩,
    ⟨"json", none, .present fun options => { options with json := true }⟩]

/-- Why there is nothing to do, and of which command that was said; none means the tool itself. The
exit code and the printed text follow from it. -/
structure Refrain where
  command : Option String
  interruption : Interruption
  deriving DecidableEq, Repr

/-- What the arguments of the tool ask for. The first one selects the command, and its switches are
read from the rest. -/
def Invocation.read : List String → Except Refrain Invocation
  | "init" :: rest =>
    ((readSwitches initSwitches .usual rest).map .init).mapError (⟨some "init", ·⟩)
  | "run" :: rest => ((readSwitches runSwitches .usual rest).map .run).mapError (⟨some "run", ·⟩)
  | "help" :: rest =>
    .error ⟨none, if rest ∈ [[], ["init"], ["run"], ["help"]] then .help else .misuse⟩
  | argument :: _ =>
    match (Intake.start ()).take [] argument with
    | .error interruption => .error ⟨none, interruption⟩
    | .ok _ => .error ⟨none, .misuse⟩
  | [] => .error ⟨none, .misuse⟩

end CustomerKeys.Command
