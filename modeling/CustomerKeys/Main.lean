import CustomerKeys.Command.Session
import Std.Time.DateTime.Timestamp

/-!
# The command line tool

This module gives sessions a real clock, real files and real sleeps. The scenarios of a run are
performed at the same time against one plane, whose calls are atomic; their reports are collected in
the order in which the scenarios were selected.
-/

namespace CustomerKeys.Command

/-- Seconds since the epoch. Sessions, settings and the plane are all handed the time in this form
and never look at a clock themselves. -/
def clock : IO UInt64 := do
  let stamp ← Std.Time.Timestamp.now
  return .ofNat stamp.toSecondsSinceUnixEpoch.val.toNat

/-- Read a file. That it does not exist is told apart from every other failure, since the message
about missing settings is worded differently. -/
def readFile (path : String) : IO (Except FileFault ByteArray) := do
  try
    return .ok (← IO.FS.readBinFile path)
  catch
    | .noFileOrDirectory .. => return .error .missing
    | error => return .error (.other (toString error))

/-- The environment as far as settings ask for it. The variables are read once, before the session
starts, and handed on as a look-up. -/
def readEnvironment : IO (String → Option String) := do
  let known ← Settings.overrideVariables.mapM fun name => do return (name, ← IO.getEnv name)
  return fun name => (known.lookup name).join

/-- Sleep for a duration, rounded up to milliseconds, in naps that the system can take. The longest
duration is far beyond what one call may ask for. -/
def pause (duration : Duration) : IO Unit := do
  let millis := (duration.nanos + 999999) / 1000000
  let nap := 1000000000
  for _ in [0 : millis / nap] do
    IO.sleep (.ofNat nap)
  IO.sleep (.ofNat (millis % nap))

/-- Perform one scenario against a shared plane and report it with its duration. Each call to the
plane is one atomic change of its state, made with the time of the call. -/
def performScenario (job : Job) (options : RunOptions) (plane : IO.Ref Plane) (number : Nat)
    (scenario : Scenario) : IO Report := do
  let started ← IO.monoMsNow
  let answer (request : Request) : IO request.Reply := do
    let now ← clock
    plane.modifyGet (job.handle.client now request)
  let script := job.harness.runAt (← clock) scenario
  let outcome ← script.perform answer fun duration =>
    if options.skipSleep then return () else pause duration
  match outcome with
  | .ok report => return { report with durationMs := .ofNat ((← IO.monoMsNow) - started) }
  | .error cause => return Harness.abortedReport scenario number cause

/-- Perform all scenarios of a job at the same time against one plane that is empty at first. The
reports are collected in the order of the scenarios, whichever ends first. -/
def performJob (job : Job) (options : RunOptions) : IO (List Report) := do
  let plane ← IO.mkRef Plane.empty
  let tasks ← job.scenarios.zipIdx.mapM fun (scenario, place) =>
    IO.asTask (performScenario job options plane (place + 1) scenario) .dedicated
  tasks.mapM fun task => IO.ofExcept task.get

/-- Perform a session. The same preparations are made as in the session that is a function of its
surroundings; only the scenarios are performed with time passing. -/
def performSession (arguments : List String) : IO Exit := do
  match Invocation.read arguments with
  | .error refrain => return refrain.exit
  | .ok (.init options) => return options.exit (← clock)
  | .ok (.run options) =>
    let content ← match options.settingsPath with
      | some path => readFile path
      | none => pure (.error .missing)
    let surroundings : Surroundings := ⟨← clock, fun _ => content, ← readEnvironment⟩
    match options.prepare surroundings with
    | .error fault => return .failure "" fault
    | .ok job => return options.exit (← performJob job options)

end CustomerKeys.Command

/-- Run the tool: perform the session that the arguments ask for, print what it has to say on the
two streams, and leave with its exit code. -/
def main (arguments : List String) : IO UInt32 := do
  let exit ← CustomerKeys.Command.performSession arguments
  IO.print exit.output
  IO.eprint exit.complaint
  return exit.code
