import CustomerKeys.Settings.Overrides

/-!
# Overrides in layers

Of two lookups laid over each other the upper one answers first, and what it does not know is looked
up below. Settings that the lower lookup has overridden, and then the upper one, are the settings
that both together have overridden, and a fault on the way is the same fault. The lower lookup has
to be accepted on its own, since a fault of its own may be hidden by the upper one.

The variable for waiting is the only one that can be refused. Which values are taken for it is said
here without the functions that trim a text: a value spells a word, with blanks around it, and nine
words are understood.
-/

namespace CustomerKeys

namespace Text

variable {text middle front rest : List Char}

/-- The middle of a text stands between blanks, and neither begins nor ends with one. -/
def Trims (text middle : List Char) : Prop :=
  ∃ front back, text = front ++ middle ++ back ∧
    (∀ c ∈ front, isBlank c = true) ∧ (∀ c ∈ back, isBlank c = true) ∧
    (∀ c ∈ middle.head?, isBlank c = false) ∧ ∀ c ∈ middle.getLast?, isBlank c = false

/-- Dropping blanks ends where a text goes on without one. -/
theorem drop_while_is_blank_append (blank : ∀ c ∈ front, isBlank c = true)
    (begins : ∀ c ∈ rest.head?, isBlank c = false) :
    (front ++ rest).dropWhile isBlank = rest := by
  rw [List.dropWhile_append_of_pos blank]
  cases rest with
  | nil => rfl
  | cons c rest =>
    have shown : isBlank c = false := begins c rfl
    exact List.dropWhile_cons_of_neg (Bool.eq_false_iff.mp shown)

/-- It drops blanks, and what it leaves begins without one. -/
theorem exists_blank_front (text : List Char) :
    ∃ front, text = front ++ text.dropWhile isBlank ∧ (∀ c ∈ front, isBlank c = true) ∧
      ∀ c ∈ (text.dropWhile isBlank).head?, isBlank c = false := by
  refine ⟨text.takeWhile isBlank, List.takeWhile_append_dropWhile.symm, ?_, ?_⟩
  · exact List.all_eq_true.mp List.all_takeWhile
  · intro c first
    have stops := List.head?_dropWhile_not isBlank text
    rwa [Option.mem_def.mp first] at stops

/-- Trimming leaves the middle of a text. -/
theorem trims_trimmed (text : List Char) : Trims text (trimmed text) := by
  obtain ⟨front, opened, frontBlank, begins⟩ := exists_blank_front text
  obtain ⟨back, closed, backBlank, ends⟩ := exists_blank_front (text.dropWhile isBlank).reverse
  have left : text.dropWhile isBlank = trimmed text ++ back.reverse := by
    rw [trimmed, ← List.reverse_append, ← closed, List.reverse_reverse]
  refine ⟨front, back.reverse, ?_, frontBlank, ?_, ?_, ?_⟩
  · rw [List.append_assoc, ← left]
    exact opened
  · intro c listed
    exact backBlank c (List.mem_reverse.mp listed)
  · intro c first
    refine begins c ?_
    rw [left, List.head?_append, Option.mem_def.mp first]
    rfl
  · intro c last
    refine ends c ?_
    rwa [trimmed, List.getLast?_reverse] at last

/-- A text has only one middle. -/
theorem trimmed_eq_of_trims (trims : Trims text middle) : trimmed text = middle := by
  obtain ⟨front, back, rfl, frontBlank, backBlank, begins, ends⟩ := trims
  cases middle with
  | nil =>
    -- Where the middle is empty, the blanks in front of it run on into those behind it.
    have blank : ∀ c ∈ front ++ back, isBlank c = true :=
      List.forall_mem_append.mpr ⟨frontBlank, backBlank⟩
    have dropped : (front ++ back ++ []).dropWhile isBlank = [] :=
      drop_while_is_blank_append blank nofun
    rw [List.append_nil] at dropped
    rw [trimmed, List.append_nil, dropped]
    rfl
  | cons c middle =>
    have blank : ∀ c ∈ back.reverse, isBlank c = true :=
      fun c listed => backBlank c (List.mem_reverse.mp listed)
    rw [← List.head?_reverse] at ends
    have opened : (front ++ (c :: middle ++ back)).dropWhile isBlank = c :: middle ++ back :=
      drop_while_is_blank_append frontBlank begins
    rw [trimmed, List.append_assoc, opened, List.reverse_append,
      drop_while_is_blank_append blank ends, List.reverse_reverse]

end Text

namespace Settings

variable {settings changed : Settings} {lookup lower upper : String → Option String}
  {value word : String} {meaning usual wait : Bool} {fault : SettingsFault}

/-- A value spells a word: it is the word with blanks around it, and its ASCII letters may be large.
-/
def Spells (value word : String) : Prop :=
  ∃ middle, Text.Trims value.toList middle ∧ String.ofList (middle.map Char.toLower) = word

/-- The words that mean yes. -/
def affirmations : List String := ["1", "true", "yes", "on"]

/-- The words that mean no. The empty one is among them. -/
def negations : List String := ["0", "false", "no", "off", ""]

/-- What a value means. -/
inductive Means (value : String) : Bool → Prop
  | yes {word : String} : Spells value word → word ∈ affirmations → Means value true
  | no {word : String} : Spells value word → word ∈ negations → Means value false

/-- The word that a value spells. -/
def spelled (value : String) : String :=
  String.ofList ((Text.trimmed value.toList).map Char.toLower)

/-- Every value spells a word, and no other. -/
theorem spells_iff : Spells value word ↔ spelled value = word := by
  constructor
  · rintro ⟨middle, trims, rfl⟩
    rw [spelled, Text.trimmed_eq_of_trims trims]
  · intro same
    exact ⟨_, Text.trims_trimmed _, same⟩

/-- Every value spells the word that is read from it. -/
theorem spells_spelled (value : String) : Spells value (spelled value) := spells_iff.mpr rfl

/-- Reading looks for the word among those that are understood. -/
theorem boolean_of_eq_ite (value : String) :
    booleanOf? value =
      if spelled value ∈ affirmations then some true
      else if spelled value ∈ negations then some false else none := rfl

/-- No word means both. -/
theorem not_mem_affirmations (no : word ∈ negations) : word ∉ affirmations := by
  have apart : ∀ word ∈ negations, word ∉ affirmations := by decide
  exact apart word no

/-- Reading finds what a value means. -/
theorem boolean_of_eq_some_iff : booleanOf? value = some meaning ↔ Means value meaning := by
  constructor
  · intro read
    rw [boolean_of_eq_ite] at read
    split at read
    · rename_i yes
      obtain rfl := Option.some.inj read
      exact .yes (spells_spelled value) yes
    · split at read
      · rename_i no
        obtain rfl := Option.some.inj read
        exact .no (spells_spelled value) no
      · cases read
  · intro means
    rw [boolean_of_eq_ite]
    cases means with
    | yes spells yes => rw [spells_iff.mp spells, if_pos yes]
    | no spells no => rw [spells_iff.mp spells, if_neg (not_mem_affirmations no), if_pos no]

/-- It finds nothing when the word is none of those that are understood. -/
theorem boolean_of_eq_none_iff :
    booleanOf? value = none ↔ ∃ word, Spells value word ∧ word ∉ affirmations ++ negations := by
  simp only [spells_iff, exists_eq_left', List.mem_append, not_or]
  rw [boolean_of_eq_ite]
  split
  · simp [*]
  · split <;> simp [*]

/-- Two lookups, of which the upper one answers first. -/
def layered (upper lower : String → Option String) : String → Option String :=
  fun name => (upper name).or (lower name)

/-- A lookup laid over itself is the same lookup. -/
theorem layered_self (lookup : String → Option String) : layered lookup lookup = lookup :=
  funext fun _ => Option.or_self

/-- Settings with the project, the key and the zones that a lookup knows. -/
def withTexts (settings : Settings) (lookup : String → Option String) : Settings :=
  { settings with
    project := (lookup "CMEK_PROJECT_ID").getD settings.project
    key := (lookup "CMEK_KMS_KEY_NAME").getD settings.key
    primaryZone := (lookup "CMEK_PRIMARY_ZONE").getD settings.primaryZone
    siblingZone := (lookup "CMEK_PRIMARY_REGION_SECOND_ZONE").getD settings.siblingZone
    foreignZone := (lookup "CMEK_SECONDARY_ZONE").getD settings.foreignZone }

/-- Whether to wait, as a lookup has it where `usual` has been the choice. -/
def waitAfter (lookup : String → Option String) (usual : Bool) : Except SettingsFault Bool :=
  match lookup "CMEK_WAIT_FOR_KEY_STATUS" with
  | none => .ok usual
  | some value => (booleanOf? value).elim (.error (.notABoolean value)) .ok

/-- The variable for waiting is the only one that can be refused, so overriding is to replace the
texts and then to choose about waiting. -/
theorem overridden_eq (settings : Settings) (lookup : String → Option String) :
    settings.overridden lookup =
      (waitAfter lookup settings.waitForKeyStatus).map fun wait =>
        { settings.withTexts lookup with waitForKeyStatus := wait } := by
  unfold overridden waitAfter
  cases lookup "CMEK_WAIT_FOR_KEY_STATUS" with
  | none => rfl
  | some value =>
    dsimp only
    cases booleanOf? value <;> rfl

/-- The texts of the upper lookup replace those of the lower one. -/
theorem with_texts_with_texts (settings : Settings) (lower upper : String → Option String) :
    (settings.withTexts lower).withTexts upper = settings.withTexts (layered upper lower) := by
  simp only [withTexts, layered, Option.getD_or]

/-- So does its choice about waiting, and if it has none, then the lower one's holds. -/
theorem wait_after_layered (chosen : waitAfter lower usual = .ok wait) :
    waitAfter (layered upper lower) usual = waitAfter upper wait := by
  unfold waitAfter layered
  cases upper "CMEK_WAIT_FOR_KEY_STATUS" with
  | none => exact chosen
  | some value => rfl

/-- A choice about waiting is the one before, or what the value means. -/
theorem wait_after_eq_ok_iff :
    waitAfter lookup usual = .ok wait ↔
      lookup "CMEK_WAIT_FOR_KEY_STATUS" = none ∧ wait = usual ∨
        ∃ value, lookup "CMEK_WAIT_FOR_KEY_STATUS" = some value ∧ Means value wait := by
  simp only [← boolean_of_eq_some_iff]
  unfold waitAfter
  cases lookup "CMEK_WAIT_FOR_KEY_STATUS" with
  | none => simp [eq_comm]
  | some value => cases read : booleanOf? value <;> simp [read]

/-- A value is refused when it spells no word that is understood. -/
theorem wait_after_eq_error_iff :
    waitAfter lookup usual = .error fault ↔
      ∃ value, lookup "CMEK_WAIT_FOR_KEY_STATUS" = some value ∧
        (∃ word, Spells value word ∧ word ∉ affirmations ++ negations) ∧
        fault = .notABoolean value := by
  simp only [← boolean_of_eq_none_iff]
  unfold waitAfter
  cases lookup "CMEK_WAIT_FOR_KEY_STATUS" with
  | none => simp
  | some value => cases read : booleanOf? value <;> simp [read, eq_comm]

/-- Each variable that a lookup knows stands for a setting of its own. The others are as they were
before. -/
structure Follows (settings : Settings) (lookup : String → Option String) (changed : Settings) :
    Prop where
  project : changed.project = (lookup "CMEK_PROJECT_ID").getD settings.project
  key : changed.key = (lookup "CMEK_KMS_KEY_NAME").getD settings.key
  primaryZone : changed.primaryZone = (lookup "CMEK_PRIMARY_ZONE").getD settings.primaryZone
  siblingZone :
    changed.siblingZone = (lookup "CMEK_PRIMARY_REGION_SECOND_ZONE").getD settings.siblingZone
  foreignZone : changed.foreignZone = (lookup "CMEK_SECONDARY_ZONE").getD settings.foreignZone
  waits :
    lookup "CMEK_WAIT_FOR_KEY_STATUS" = none ∧
        changed.waitForKeyStatus = settings.waitForKeyStatus ∨
      ∃ value, lookup "CMEK_WAIT_FOR_KEY_STATUS" = some value ∧
        Means value changed.waitForKeyStatus

/-- The settings that no variable is about are the same. -/
structure SameRest (settings changed : Settings) : Prop where
  idStem : changed.idStem = settings.idStem
  backoff : changed.backoff = settings.backoff
  serveNodes : changed.serveNodes = settings.serveNodes
  storage : changed.storage = settings.storage
  backupLifetime : changed.backupLifetime = settings.backupLifetime

/-- Overriding succeeds once the choice about waiting is made. -/
theorem overridden_eq_ok_iff :
    settings.overridden lookup = .ok changed ↔
      ∃ wait, waitAfter lookup settings.waitForKeyStatus = .ok wait ∧
        { settings.withTexts lookup with waitForKeyStatus := wait } = changed := by
  rw [overridden_eq]
  cases waitAfter lookup settings.waitForKeyStatus with
  | error fault => simp [Except.map]
  | ok wait => simp [Except.map]

/-- It fails with the fault of that choice. -/
theorem overridden_eq_error_iff :
    settings.overridden lookup = .error fault ↔
      waitAfter lookup settings.waitForKeyStatus = .error fault := by
  rw [overridden_eq]
  cases waitAfter lookup settings.waitForKeyStatus with
  | error fault => simp [Except.map]
  | ok wait => simp [Except.map]

/-- Overridden settings follow the lookup, and nothing else does. -/
theorem overridden_eq_ok_iff_follows :
    settings.overridden lookup = .ok changed ↔
      settings.Follows lookup changed ∧ settings.SameRest changed := by
  rw [overridden_eq_ok_iff]
  constructor
  · rintro ⟨wait, chosen, rfl⟩
    exact ⟨⟨rfl, rfl, rfl, rfl, rfl, wait_after_eq_ok_iff.mp chosen⟩, ⟨rfl, rfl, rfl, rfl, rfl⟩⟩
  · rintro ⟨follows, same⟩
    refine ⟨changed.waitForKeyStatus, wait_after_eq_ok_iff.mpr follows.waits, ?_⟩
    cases changed
    obtain ⟨rfl, rfl, rfl, rfl, rfl, -⟩ := follows
    obtain ⟨rfl, rfl, rfl, rfl, rfl⟩ := same
    rfl

/-- Overriding settings that a lower lookup has overridden is overriding them by both lookups. -/
theorem overridden_layered (accepted : settings.overridden lower = .ok changed) :
    changed.overridden upper = settings.overridden (layered upper lower) := by
  obtain ⟨wait, chosen, rfl⟩ := overridden_eq_ok_iff.mp accepted
  rw [overridden_eq, overridden_eq, wait_after_layered chosen, ← with_texts_with_texts]
  rfl

/-- Overrides compose as layers. Once a lookup has been accepted, another one on top of it gives
what the two give together, be it settings or a fault, and so the same one again changes nothing.
Accepted overrides give each setting that a variable stands for the value of that variable, and
leave the rest alone. They are refused only for the value of the variable for waiting, when it
spells no word that is understood. -/
theorem overrides_compose_as_layers :
    (∀ (settings changed : Settings) (lower upper : String → Option String),
      settings.overridden lower = .ok changed →
        changed.overridden upper = settings.overridden (layered upper lower)) ∧
    (∀ (settings changed : Settings) (lookup : String → Option String),
      settings.overridden lookup = .ok changed → changed.overridden lookup = .ok changed) ∧
    (∀ (settings changed : Settings) (lookup : String → Option String),
      settings.overridden lookup = .ok changed ↔
        settings.Follows lookup changed ∧ settings.SameRest changed) ∧
    (∀ (settings : Settings) (lookup : String → Option String) (fault : SettingsFault),
      settings.overridden lookup = .error fault ↔
        ∃ value, lookup "CMEK_WAIT_FOR_KEY_STATUS" = some value ∧
          (∃ word, Spells value word ∧ word ∉ affirmations ++ negations) ∧
          fault = .notABoolean value) := by
  refine ⟨?_, ?_, ?_, ?_⟩
  · intro settings changed lower upper accepted
    exact overridden_layered accepted
  · intro settings changed lookup accepted
    rw [overridden_layered accepted, layered_self]
    exact accepted
  · intro settings changed lookup
    exact overridden_eq_ok_iff_follows
  · intro settings lookup fault
    rw [overridden_eq_error_iff, wait_after_eq_error_iff]

/-- The lower lookup asks to wait, in large letters between blanks. An upper one may take this back,
and one that knows no boolean is refused on top of it. -/
theorem wait_asked_for_and_taken_back :
    let settings := scaffold "p" "projects/p/locations/us-central1/keyRings/r/cryptoKeys/k"
    let lower : String → Option String := fun name => List.lookup name
      [("CMEK_PROJECT_ID", "q"), ("CMEK_WAIT_FOR_KEY_STATUS", "\u3000YES ")]
    let upper : String → Option String := fun name => List.lookup name
      [("CMEK_SECONDARY_ZONE", "us-west1-a"), ("CMEK_WAIT_FOR_KEY_STATUS", "Off")]
    let mistaken : String → Option String := fun name => List.lookup name
      [("CMEK_PROJECT_ID", "r"), ("CMEK_WAIT_FOR_KEY_STATUS", "maybe")]
    let changed := { settings with project := "q", waitForKeyStatus := true }
    let both := { settings with project := "q", foreignZone := "us-west1-a" }
    settings.overridden lower = .ok changed ∧ changed.overridden lower = .ok changed ∧
      changed.overridden upper = .ok both ∧
      settings.overridden (layered upper lower) = .ok both ∧
      settings.overridden (layered mistaken lower) = .error (.notABoolean "maybe") := by
  intro settings lower upper mistaken changed both
  obtain ⟨layers, again, follows, refused⟩ := overrides_compose_as_layers
  have yes : Spells "\u3000YES " "yes" := spells_iff.mpr (by decide)
  have no : Spells "Off" "off" := spells_iff.mpr (by decide)
  have strange : Spells "maybe" "maybe" := spells_iff.mpr (by decide)
  have waits : settings.overridden lower = .ok changed :=
    (follows settings changed lower).mpr
      ⟨⟨rfl, rfl, rfl, rfl, rfl, .inr ⟨_, rfl, .yes yes (by decide)⟩⟩, ⟨rfl, rfl, rfl, rfl, rfl⟩⟩
  have takenBack : changed.overridden upper = .ok both :=
    (follows changed both upper).mpr
      ⟨⟨rfl, rfl, rfl, rfl, rfl, .inr ⟨_, rfl, .no no (by decide)⟩⟩, ⟨rfl, rfl, rfl, rfl, rfl⟩⟩
  have fails : changed.overridden mistaken = .error (.notABoolean "maybe") :=
    (refused changed mistaken _).mpr ⟨_, rfl, ⟨_, strange, by decide⟩, rfl⟩
  exact ⟨waits, again settings changed lower waits, takenBack,
    (layers settings changed lower upper waits).symm.trans takenBack,
    (layers settings changed lower mistaken waits).symm.trans fails⟩

/-- A lookup that is refused on its own goes unnoticed below one that decides about waiting. -/
example :
    let settings := scaffold "p" "projects/p/locations/us-central1/keyRings/r/cryptoKeys/k"
    let mistaken : String → Option String := fun name => List.lookup name
      [("CMEK_WAIT_FOR_KEY_STATUS", "maybe")]
    let upper : String → Option String := fun name => List.lookup name
      [("CMEK_WAIT_FOR_KEY_STATUS", "no")]
    settings.overridden mistaken = .error (.notABoolean "maybe") ∧
      settings.overridden (layered upper mistaken) = .ok settings :=
  ⟨rfl, rfl⟩

end Settings

end CustomerKeys
