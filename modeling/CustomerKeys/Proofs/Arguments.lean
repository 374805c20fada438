import CustomerKeys.Command.Invocation
import CustomerKeys.Proofs.WrittenValues

/-!
# Asking for options

Whatever options a call of the tool should have, there are arguments that ask for them: each value
is attached to the long name of its switch with an equals sign, so it may hold any characters, and
numbers are written in decimal digits. Only the empty path cannot be asked for.

An argument of this kind does its work at any point of the reading as long as its switch has not
been given before, so the arguments are followed one by one.
-/

namespace CustomerKeys.Command

/-- The argument that gives a switch by its presence, under its long name. -/
def presence (long : String) : String := "--" ++ long

/-- The argument that gives a switch with a value, behind its long name and an equals sign, so that
the value may look like anything. -/
def assignment (long value : String) : String := presence long ++ "=" ++ value

/-- An argument, the long name of its switch, and the change of options that it asks for. -/
structure Step (σ : Type) where
  argument : String
  long : String
  change : σ → σ

/-- The long name of a switch holds characters, none of which is an equals sign. -/
def IsLong (long : String) : Prop := long.toList ≠ [] ∧ '=' ∉ long.toList

/-- A name can be checked for being usable as a long one, and so every switch of the tool is. -/
instance (long : String) : Decidable (IsLong long) :=
  inferInstanceAs (Decidable (long.toList ≠ [] ∧ '=' ∉ long.toList))

variable {σ : Type} (switches : List (Switch σ))

/-- The argument makes the change, whatever the options are, unless its switch was given before. -/
def Step.Works (step : Step σ) : Prop :=
  ∀ (options : σ) (given : List String), step.long ∉ given →
    Intake.take switches ⟨options, given, none, false⟩ step.argument =
      .ok ⟨step.change options, step.long :: given, none, false⟩

section Steps

variable {switches} {long : String} {short : Option Char}

/-- A long switch is taken in by its name, with what is attached behind an equals sign. The name is
cut off at the first such sign, which is why it may not hold one. -/
theorem take_long (name : IsLong long) {argument : String} {attached : List Char}
    (written : argument.toList = '-' :: '-' :: (long.toList ++ attached))
    (ends : attached = [] ∨ ∃ value, attached = '=' :: value) (options : σ) (given : List String) :
    Intake.take switches ⟨options, given, none, false⟩ argument =
      Intake.takeLong switches ⟨options, given, none, false⟩ long.toList attached.tail? := by
  obtain ⟨nonempty, plain⟩ := name
  have inside : ∀ c ∈ long.toList, decide (c ≠ '=') = true :=
    fun c listed => decide_eq_true fun same => plain (same ▸ listed)
  have front : (long.toList ++ attached).takeWhile (· ≠ '=') = long.toList := by
    rw [List.takeWhile_append_of_pos inside]
    obtain rfl | ⟨value, rfl⟩ := ends <;> simp
  have back : (long.toList ++ attached).dropWhile (· ≠ '=') = attached := by
    rw [List.dropWhile_append_of_pos inside]
    obtain rfl | ⟨value, rfl⟩ := ends <;> simp
  have some : (long.toList ++ attached).isEmpty = false := by simp [nonempty]
  simp only [Intake.take, written, Bool.false_eq_true, if_false, Option.isSome_none, some, front,
    back]

/-- A switch that is given by its presence works. -/
theorem works_present (name : IsLong long) {set : σ → σ}
    (found : (switches.find? fun switch => switch.long = long) = some ⟨long, short, .present set⟩) :
    Step.Works switches ⟨presence long, long, set⟩ := by
  intro options given new
  have written : (presence long).toList = '-' :: '-' :: (long.toList ++ []) := by
    simp [presence]
  rw [take_long name written (.inl rfl)]
  simp only [Intake.takeLong, String.ofList_toList, found, List.tail?_nil]
  exact if_neg new

/-- A switch with a usable value works. -/
theorem works_valued (name : IsLong long) {set : String → σ → Option σ} {value : String}
    {change : σ → σ} (usable : ∀ options, set value options = some (change options))
    (found : (switches.find? fun switch => switch.long = long) = some ⟨long, short, .valued set⟩) :
    Step.Works switches ⟨assignment long value, long, change⟩ := by
  intro options given new
  have written : (assignment long value).toList =
      '-' :: '-' :: (long.toList ++ '=' :: value.toList) := by
    simp [assignment, presence]
  rw [take_long name written (.inr ⟨_, rfl⟩)]
  simp only [Intake.takeLong, String.ofList_toList, found, List.tail?_cons, Intake.assign, usable]
  exact if_neg new

/-- The step for a switch without a value, if it is to be given. -/
def flag (given : Bool) (long : String) (set : σ → σ) : List (Step σ) :=
  if given then [⟨presence long, long, set⟩] else []

/-- The step for a switch without a value works, whether the switch is to be given or left out. -/
theorem flag_works (name : IsLong long) {set : σ → σ}
    (found : (switches.find? fun switch => switch.long = long) = some ⟨long, short, .present set⟩)
    (given : Bool) : ∀ step ∈ flag given long set, step.Works switches := by
  cases given with
  | false => exact List.forall_mem_nil _
  | true => exact List.forall_mem_singleton.mpr (works_present name found)

/-- Arguments that work with different switches make their changes one after the other. -/
theorem fold_works {steps : List (Step σ)} (work : ∀ step ∈ steps, step.Works switches)
    (options : σ) {given : List String} (distinct : (steps.map Step.long ++ given).Nodup) :
    ∃ after, (steps.map Step.argument).foldlM (Intake.take switches) ⟨options, given, none, false⟩ =
      .ok ⟨steps.foldl (fun options step => step.change options) options, after, none, false⟩ := by
  induction steps generalizing options given with
  | nil => exact ⟨given, rfl⟩
  | cons step steps inductionHypothesis =>
    obtain ⟨first, others⟩ := List.forall_mem_cons.mp work
    have apart : step.long ∉ steps.map Step.long ++ given := (List.nodup_cons.mp distinct).1
    have new : step.long ∉ given := fun listed => apart (List.mem_append_right _ listed)
    have rest : (steps.map Step.long ++ step.long :: given).Nodup :=
      List.perm_middle.nodup_iff.mpr distinct
    obtain ⟨after, taken⟩ := inductionHypothesis others (step.change options) rest
    refine ⟨after, ?_⟩
    rw [List.map_cons, List.foldlM_cons, first options given new]
    exact taken

/-- So reading them makes all the changes to the usual options, in their order. -/
theorem read_switches_works {steps : List (Step σ)} (work : ∀ step ∈ steps, step.Works switches)
    (usual : σ) (distinct : (steps.map Step.long).Nodup) :
    readSwitches switches usual (steps.map Step.argument) =
      .ok (steps.foldl (fun options step => step.change options) usual) := by
  have free : (steps.map Step.long ++ []).Nodup := by simpa using distinct
  obtain ⟨after, taken⟩ := fold_works work usual free
  rw [readSwitches, Intake.start, taken]
  rfl

end Steps

/-- A number is read from its digits, so the counts of a run can be asked for as they are printed.
-/
theorem word32_to_string (number : UInt32) : word32? (toString number.toNat) = some number := by
  have decimal := Toml.is_digit_of_to_digits number.toNat
  have all : (Nat.toDigits 10 number.toNat).all Char.isDigit = true := List.all_eq_true.mpr decimal
  have some : (Nat.toDigits 10 number.toNat).isEmpty = false := by simp [Nat.toDigits_ne_nil]
  unfold word32?
  rw [Nat.toString_eq_ofList_toDigits, String.toList_ofList]
  split
  rename_i negative found unsigned
  -- A written number has no sign in front, so its digits are what is found.
  split at unsigned
  · rename_i written
    cases decimal '-' (written ▸ List.mem_cons_self)
  · rename_i written
    cases decimal '+' (written ▸ List.mem_cons_self)
  · obtain ⟨rfl, rfl⟩ := Prod.mk.inj unsigned
    rw [if_neg (by simp [all, some]), if_neg (by simp), Toml.value_of_digits_to_digits,
      if_pos number.toNat_lt, UInt32.ofNat_toNat]

/-- The steps that lead from the usual options of `init` to others: one for each of its two
switches. -/
def InitOptions.steps (options : InitOptions) : List (Step InitOptions) :=
  [⟨assignment "project-id" options.project, "project-id",
      fun found => { found with project := options.project }⟩,
    ⟨assignment "kms-key-name" options.key, "kms-key-name",
      fun found => { found with key := options.key }⟩]

/-- The arguments that ask for options of `init`, by giving both switches with their values. -/
def InitOptions.arguments (options : InitOptions) : List String :=
  "init" :: options.steps.map Step.argument

/-- All options of `init` can be asked for. -/
theorem InitOptions.read_arguments (options : InitOptions) :
    Invocation.read options.arguments = .ok (.init options) := by
  have work : ∀ step ∈ options.steps, step.Works initSwitches := by
    refine List.forall_mem_cons.mpr ⟨?_, List.forall_mem_singleton.mpr ?_⟩
    · exact works_valued (by decide) (fun _ => rfl) rfl
    · exact works_valued (by decide) (fun _ => rfl) rfl
  have distinct : ["project-id", "kms-key-name"].Nodup := by decide
  have read := read_switches_works work .usual distinct
  rw [arguments, Invocation.read, read]
  rfl

namespace RunOptions

/-- The steps that lead from the usual options of `run` to others. Switches by presence are only
given when they are wanted, and the path only when there is one. -/
def steps (options : RunOptions) : List (Step RunOptions) :=
  (match options.settingsPath with
    | none => []
    | some path => [⟨assignment "config" path, "config",
        fun found => { found with settingsPath := some path }⟩]) ++
  [⟨assignment "scenario" options.selection, "scenario",
      fun found => { found with selection := options.selection }⟩,
    ⟨assignment "convergence-reads" (toString options.convergenceReads.toNat), "convergence-reads",
      fun found => { found with convergenceReads := options.convergenceReads }⟩,
    ⟨assignment "transient-failures" (toString options.transientFailures.toNat),
      "transient-failures",
      fun found => { found with transientFailures := options.transientFailures }⟩] ++
  flag options.waitForKeyStatus "wait-for-key-status"
    (fun found => { found with waitForKeyStatus := true }) ++
  flag options.skipSleep "skip-sleep" (fun found => { found with skipSleep := true }) ++
  flag options.json "json" fun found => { found with json := true }

/-- The arguments that ask for options of `run`, one for every step. -/
def arguments (options : RunOptions) : List String := "run" :: options.steps.map Step.argument

/-- Each of them works, unless the path is empty, which the switch refuses. -/
theorem steps_work {options : RunOptions} (located : options.settingsPath ≠ some "") :
    ∀ step ∈ options.steps, step.Works runSwitches := by
  simp only [steps, List.forall_mem_append]
  refine ⟨⟨⟨⟨?_, ?_⟩, ?_⟩, ?_⟩, ?_⟩
  · split
    · exact List.forall_mem_nil _
    · rename_i path chosen
      refine List.forall_mem_singleton.mpr (works_valued (by decide) (fun _ => ?_) rfl)
      exact if_neg fun (empty : path = "") => located (empty ▸ chosen)
  · refine List.forall_mem_cons.mpr ⟨?_, List.forall_mem_cons.mpr ⟨?_,
      List.forall_mem_singleton.mpr ?_⟩⟩
    · exact works_valued (by decide) (fun _ => rfl) rfl
    · refine works_valued (by decide) (fun _ => ?_) rfl
      exact congrArg _ (word32_to_string options.convergenceReads)
    · refine works_valued (by decide) (fun _ => ?_) rfl
      exact congrArg _ (word32_to_string options.transientFailures)
  · exact flag_works (by decide) rfl _
  · exact flag_works (by decide) rfl _
  · exact flag_works (by decide) rfl _

/-- All options of `run` can be asked for, except an empty path. -/
theorem read_arguments {options : RunOptions} (located : options.settingsPath ≠ some "") :
    Invocation.read options.arguments = .ok (.run options) := by
  have distinct : (options.steps.map Step.long).Nodup := by
    obtain ⟨path, selection, waits, reads, failures, skips, json⟩ := options
    cases path <;> cases waits <;> cases skips <;> cases json <;> simp [steps, flag]
  have reached : options.steps.foldl (fun options step => step.change options) .usual =
      options := by
    obtain ⟨path, selection, waits, reads, failures, skips, json⟩ := options
    cases path <;> cases waits <;> cases skips <;> cases json <;> rfl
  have read := read_switches_works (steps_work located) .usual distinct
  rw [arguments, Invocation.read, read, reached]
  rfl

end RunOptions

end CustomerKeys.Command
