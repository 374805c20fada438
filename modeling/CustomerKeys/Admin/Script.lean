import CustomerKeys.Admin.Request
import CustomerKeys.Duration

/-!
# Scripts

A script is a program that talks to a control plane: it makes calls, goes on according to the
replies, sleeps, and ends with a value. It is data. Which client answers, and whether a sleep takes
time, is decided by whoever runs it, so one script serves the sandbox, a client that misbehaves, and
every schedule of several scripts against one plane.

A script may also abort. Nothing of it runs after that, not even what was bound behind it.

`Script.run` answers a script from a client and records every call and every sleep in order.
-/

namespace CustomerKeys

/-- Why a script cannot go on. The only cause is a sum of sleeps that no duration can hold; it ends
a run on the spot, teardown included. -/
inductive Abort where
  | durationOverflow
  deriving DecidableEq, Repr

/-- The text of an abort, as it stands in the report that takes the place of the one the run would
have made. -/
def Abort.message : Abort → String
  | .durationOverflow => "overflow when adding durations"

/-- A program over the admin interface with a result in `α`. It is a tree: a call has one branch for
each reply, and a script that is run goes down one path of it. -/
inductive Script (α : Type) : Type where
  | done (value : α)
  | call (request : Request) (next : request.Reply → Script α)
  | sleep (duration : Duration) (next : Script α)
  | abort (cause : Abort)

/-- One step of a run, as an observer sees it: a call with the reply it got, or a sleep with its
length. Runs list their steps in order. -/
inductive Event where
  | called (request : Request) (reply : request.Reply)
  | slept (duration : Duration)

/-- How a script ended: with a value or by aborting, in which state of the client, and after which
steps. -/
structure Run (σ α : Type) where
  outcome : Except Abort α
  state : σ
  events : List Event

namespace Script

/-- Continue a script with its value. Calls and sleeps stay where they are, and an abort stays an
abort, whatever was to come after it. -/
def bind {α β : Type} : Script α → (α → Script β) → Script β
  | .done value, rest => rest value
  | .call request next, rest => .call request fun reply => (next reply).bind rest
  | .sleep duration next, rest => .sleep duration (next.bind rest)
  | .abort cause, _ => .abort cause

/-- Make a call and go on with its answer; on a refusal, go on with the refusal instead. Scenario
steps are calls of this kind. -/
def attempt {α : Type} (request : Request) (refused : AdminError → Script α)
    (answered : request.Answer → Script α) : Script α :=
  .call request fun
    | .ok answer => answered answer
    | .error error => refused error

/-- Answer a script from a client, starting in a state of that client. Sleeps take no time here;
they are recorded like calls, in the order in which they happen. -/
def run {σ α : Type} (client : Client σ) : Script α → σ → Run σ α
  | .done value, state => ⟨.ok value, state, []⟩
  | .abort cause, state => ⟨.error cause, state, []⟩
  | .sleep duration next, state =>
    let rest := next.run client state
    { rest with events := .slept duration :: rest.events }
  | .call request next, state =>
    let (reply, after) := client request state
    let rest := (next reply).run client after
    { rest with events := .called request reply :: rest.events }

/-- Run a script for its effects: every call and every sleep is performed in some monad. The command
line tool runs its scripts in this way, with a shared plane and real sleeps. -/
def perform {m : Type → Type} [Monad m] {α : Type} (answer : (request : Request) → m request.Reply)
    (pause : Duration → m Unit) : Script α → m (Except Abort α)
  | .done value => pure (.ok value)
  | .abort cause => pure (.error cause)
  | .sleep duration next => do pause duration; next.perform answer pause
  | .call request next => do (next (← answer request)).perform answer pause

end Script

end CustomerKeys
