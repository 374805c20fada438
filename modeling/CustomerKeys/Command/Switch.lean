/-!
# Switches

A switch is an argument that starts with a dash. It either says something by its mere presence or
takes a value, which follows as the next argument or is attached: behind an equals sign for a long
name, directly or behind an equals sign for a short one. Short switches may share one dash.

Arguments are taken in from left to right and the first thing out of order ends the reading. No
switch may be given twice. A value that is an argument of its own must not look like a switch; two
dashes alone end the switches, and nothing may follow them.
-/

namespace CustomerKeys.Command

/-- What a switch does to the options read so far. A switch with a value is given the text and may
find it unusable, which ends the reading. -/
inductive Effect (σ : Type) where
  | present (set : σ → σ)
  | valued (set : String → σ → Option σ)

/-- A switch with its long name and perhaps a short one. The long name also serves to tell whether
it was given before. -/
structure Switch (σ : Type) where
  long : String
  short : Option Char
  effect : Effect σ

/-- What ends the reading of arguments before their end: something is out of order, or a text is
asked for in the place of any work. -/
inductive Interruption where
  | misuse
  | version
  | help
  deriving DecidableEq, Repr

/-- The reading of arguments in progress: the options so far, the switches that were given, the one
whose value comes next, and whether the switches have been ended. -/
structure Intake (σ : Type) where
  options : σ
  given : List String
  awaiting : Option (String × (String → σ → Option σ))
  closed : Bool

namespace Intake

variable {σ : Type}

/-- Nothing read yet: the options are the usual ones, no switch was given and none is waiting for
its value. -/
def start (options : σ) : Intake σ := ⟨options, [], none, false⟩

/-- Take in a switch by its presence. Giving it once more is out of order, although it would change
nothing. -/
def mention (intake : Intake σ) (long : String) (set : σ → σ) : Except Interruption (Intake σ) :=
  if long ∈ intake.given then .error .misuse
  else .ok ⟨set intake.options, long :: intake.given, none, intake.closed⟩

/-- Take in a switch with its value, wherever the value was found. It is out of order when given
twice or with a value that cannot be used. -/
def assign (intake : Intake σ) (long : String) (set : String → σ → Option σ) (value : String) :
    Except Interruption (Intake σ) :=
  if long ∈ intake.given then .error .misuse
  else match set value intake.options with
    | none => .error .misuse
    | some options => .ok ⟨options, long :: intake.given, none, intake.closed⟩

/-- Take in a switch by its long name, with the value attached to it if there is one. Without one, a
switch that takes a value waits for the next argument. -/
def takeLong (switches : List (Switch σ)) (intake : Intake σ) (name : List Char)
    (attached : Option (List Char)) : Except Interruption (Intake σ) :=
  let name := String.ofList name
  match attached, switches.find? fun switch => switch.long = name with
  | none, none =>
    .error (if name = "version" then .version else if name = "help" then .help else .misuse)
  | none, some ⟨long, _, .present set⟩ => intake.mention long set
  | none, some ⟨long, _, .valued set⟩ => .ok { intake with awaiting := some (long, set) }
  | some value, some ⟨long, _, .valued set⟩ => intake.assign long set (.ofList value)
  | some _, _ => .error .misuse

/-- A value attached to a short switch, with or without an equals sign. Nothing behind the letter
means that there is none. -/
def attachedValue : List Char → List Char
  | '=' :: value => value
  | value => value

/-- Take in the short switches behind one dash. A switch with a value takes the rest of them as it.
-/
def takeShort (switches : List (Switch σ)) : List Char → Intake σ → Except Interruption (Intake σ)
  | [], intake => .ok intake
  | c :: rest, intake =>
    match switches.find? fun switch => switch.short = some c with
    | none => .error (if c = 'V' then .version else if c = 'h' then .help else .misuse)
    | some ⟨long, _, .present set⟩ => do takeShort switches rest (← intake.mention long set)
    | some ⟨long, _, .valued set⟩ =>
      if rest.isEmpty then .ok { intake with awaiting := some (long, set) }
      else intake.assign long set (.ofList (attachedValue rest))

/-- Take in an argument that is no switch: it must be the value that is awaited, since neither
command has arguments of another kind. -/
def takeValue (intake : Intake σ) (value : String) : Except Interruption (Intake σ) :=
  match intake.awaiting with
  | some (long, set) => intake.assign long set value
  | none => .error .misuse

/-- Take in an argument. Whether it is a switch is seen by its first characters, unless the switches
have been ended by two dashes. -/
def take (switches : List (Switch σ)) (intake : Intake σ) (argument : String) :
    Except Interruption (Intake σ) :=
  if intake.closed then .error .misuse
  else match argument.toList with
    | '-' :: '-' :: name =>
      if intake.awaiting.isSome then .error .misuse
      else if name.isEmpty then .ok { intake with closed := true }
      else
        let attached := (name.dropWhile (· ≠ '=')).tail?
        intake.takeLong switches (name.takeWhile (· ≠ '=')) attached
    | '-' :: c :: rest =>
      if intake.awaiting.isSome then .error .misuse
      else takeShort switches (c :: rest) intake
    | _ => intake.takeValue argument

/-- The options, unless a value is still missing when the arguments are used up. -/
def finish (intake : Intake σ) : Except Interruption σ :=
  if intake.awaiting.isSome then .error .misuse else .ok intake.options

end Intake

/-- The options that arguments ask for, starting from the usual ones. The arguments are taken in one
by one, and the first that is out of order decides. -/
def readSwitches {σ : Type} (switches : List (Switch σ)) (usual : σ) (arguments : List String) :
    Except Interruption σ := do
  (← arguments.foldlM (Intake.take switches) (Intake.start usual)).finish

end CustomerKeys.Command
