import CustomerKeys.Proofs.WrittenTexts
import CustomerKeys.Toml.Value
import Mathlib.Data.List.Forall2

/-!
# Written values read back

Booleans, natural numbers, texts and lists of these are read back from what is written for them.
Behind a value there stands a newline, a comma or a closing bracket, and the reader stops there.

A written number is never taken for a date or a time: those have a dash or a colon among their
digits. Real numbers are left out, and so are negative ones, which no settings hold.
-/

namespace CustomerKeys

/-- A value that is neither a list nor a table, and no real or negative number. -/
inductive Document.Scalar : Document → Prop
  | boolean (value : Bool) : Scalar (.boolean value)
  | natural (value : Nat) : Scalar (.integer value)
  | text (value : String) : Scalar (.text value)

/-- A scalar or a list of scalars. -/
inductive Document.Flat : Document → Prop
  | scalar {document : Document} (plain : document.Scalar) : Flat document
  | list {items : List Document} (plain : ∀ item ∈ items, item.Scalar) : Flat (.list items)

/-- What is made of the items of a list, when something is made of each. -/
theorem forall₂_of_traverse {ε α β : Type} {make : α → Except ε β} {items : List α}
    {results : List β}
    (made : items.mapM make = .ok results) :
    List.Forall₂ (fun item result => make item = .ok result) items results := by
  induction items generalizing results with
  | nil =>
    obtain rfl := Except.ok.inj made
    exact .nil
  | cons item items inductionHypothesis =>
    rw [List.mapM_cons] at made
    cases first : make item with
    | error fault =>
      rw [first] at made
      cases made
    | ok result =>
      cases others : items.mapM make with
      | error fault =>
        rw [first, others] at made
        cases made
      | ok others' =>
        rw [first, others] at made
        obtain rfl := Except.ok.inj made
        exact .cons first (inductionHypothesis others)

namespace Toml

open CustomerKeys.Text (Reader valueOfDigits digitValue)

/-- What may stand behind a value. -/
inductive EndsValue : List Char → Prop
  | newline (rest : List Char) : EndsValue ('\n' :: rest)
  | comma (rest : List Char) : EndsValue (',' :: rest)
  | bracket (rest : List Char) : EndsValue (']' :: rest)

/-- No row of quotes or apostrophes goes on behind a value. -/
theorem EndsValue.rows {rest : List Char} (ends : EndsValue rest) :
    row '"' rest = 0 ∧ row '\'' rest = 0 := by
  cases ends <;> exact ⟨rfl, rfl⟩

/-- What stands behind a value begins neither with a digit nor with a mark inside dates or times. -/
theorem EndsValue.begins {rest : List Char} (ends : EndsValue rest) :
    ∃ closing others, rest = closing :: others ∧ closing.isDigit = false ∧ closing ≠ '-' ∧
      closing ≠ ':' := by
  cases ends <;> exact ⟨_, _, rfl, by decide⟩

/-- The first digit of a number is a zero only when that is all of it. -/
theorem eq_zero_of_to_digits {number : Nat} {others : List Char}
    (leading : Nat.toDigits 10 number = '0' :: others) : number = 0 := by
  induction number using Nat.strongRecOn generalizing others with
  | ind number inductionHypothesis =>
    by_cases small : number < 10
    · rw [Nat.toDigits_of_lt_base small] at leading
      have first : ∀ digit < 10, Nat.digitChar digit = '0' → digit = 0 := by decide
      exact first number small (List.cons.inj leading).1
    · have several : 10 ≤ number := Nat.not_lt.mp small
      rw [Nat.toDigits_of_base_le (by decide) several] at leading
      cases front : Nat.toDigits 10 (number / 10) with
      | nil => exact absurd front Nat.toDigits_ne_nil
      | cons first more =>
        rw [front] at leading
        obtain rfl := (List.cons.inj leading).1
        have none := inductionHypothesis (number / 10) (by omega) front
        omega

/-- Decimal digits are summed up here as in the standard library. -/
theorem foldl_digit_value {digits : List Char} (decimal : ∀ c ∈ digits, c.isDigit = true)
    (start : Nat) :
    digits.foldl (fun value c => value * 10 + digitValue c) start =
      Nat.ofDigitChars 10 digits start := by
  induction digits generalizing start with
  | nil => rfl
  | cons c digits inductionHypothesis =>
    obtain ⟨digit, decimal⟩ := List.forall_mem_cons.mp decimal
    have value : digitValue c = c.toNat - '0'.toNat := if_pos digit
    rw [List.foldl_cons, Nat.ofDigitChars_cons, inductionHypothesis decimal, value, Nat.mul_comm]

/-- The characters of a written number are digits. -/
theorem is_digit_of_to_digits (number : Nat) :
    ∀ c ∈ Nat.toDigits 10 number, c.isDigit = true :=
  fun _ member => Nat.isDigit_of_mem_toDigits (by decide) (by decide) member

/-- A written number has a first digit, and this is a zero only when there is no other. -/
theorem exists_first_digit (number : Nat) :
    ∃ first others, Nat.toDigits 10 number = first :: others ∧ first.isDigit = true ∧
      (first = '0' → others = []) := by
  cases written : Nat.toDigits 10 number with
  | nil => exact absurd written Nat.toDigits_ne_nil
  | cons first others =>
    have digit := is_digit_of_to_digits _ first (written ▸ List.mem_cons_self)
    refine ⟨first, others, rfl, digit, ?_⟩
    rintro rfl
    obtain rfl := eq_zero_of_to_digits written
    exact (List.cons.inj written).2.symm

/-- The digits of a number have its value. -/
theorem value_of_digits_to_digits (number : Nat) :
    valueOfDigits 10 (Nat.toDigits 10 number) = number :=
  (foldl_digit_value (is_digit_of_to_digits number) 0).trans Nat.ofDigitChars_ten_toDigits

/-- Digits are read up to the end of the value. -/
theorem grouped_digits_append {digits rest : List Char} (decimal : ∀ c ∈ digits, c.isDigit = true)
    (ends : EndsValue rest) : groupedDigits Char.isDigit (digits ++ rest) = (digits, rest) := by
  induction digits with
  | nil => cases ends <;> rfl
  | cons c digits inductionHypothesis =>
    obtain ⟨digit, decimal⟩ := List.forall_mem_cons.mp decimal
    have others := inductionHypothesis decimal
    have plain : c ≠ '_' := by
      rintro rfl
      cases digit
    rw [List.cons_append, groupedDigits]
    · simp only [digit, if_true, others]
    · exact fun _ _ same => absurd same plain

/-- The digits of a number are read as a whole. -/
theorem whole_digits_to_digits (number : Nat) {rest : List Char} (ends : EndsValue rest) :
    wholeDigits (Nat.toDigits 10 number ++ rest) = some (Nat.toDigits 10 number, rest) := by
  have grouped := grouped_digits_append (is_digit_of_to_digits number) ends
  obtain ⟨first, others, written, digit, alone⟩ := exists_first_digit number
  rw [written] at grouped ⊢
  by_cases zero : first = '0'
  · obtain rfl := alone zero
    subst first
    rfl
  · rw [List.cons_append, wholeDigits, digits]
    · simp only [digit, if_true]
      exact congrArg some grouped
    · exact fun _ same => zero (List.cons.inj same).1

/-- A natural number below the bound fits. -/
theorem fits_signed_of_lt {number : Nat} (fits : number < signedBound) :
    fitsSigned number = true := by
  have positive := Int.natCast_nonneg signedBound
  have natural := Int.natCast_nonneg number
  have below : (number : Int) < signedBound := Int.ofNat_lt.mpr fits
  simp only [fitsSigned, Bool.and_eq_true, decide_eq_true_eq]
  omega

/-- It is read as it is. -/
theorem bounded?_of_lt {number : Nat} (fits : number < signedBound) :
    bounded? number = some (.integer number) := by
  rw [bounded?, fits_signed_of_lt fits]
  rfl

/-- A number that fits is read from its digits. -/
theorem decimal_to_digits {number : Nat} (fits : number < signedBound) {rest : List Char}
    (ends : EndsValue rest) :
    decimal false (Nat.toDigits 10 number ++ rest) = some (.integer number, rest) := by
  have noFraction : fraction rest = some (none, rest) := by cases ends <;> rfl
  have noExponent : exponent rest = some (none, rest) := by cases ends <;> rfl
  simp only [decimal, whole_digits_to_digits number ends, noFraction, noExponent,
    Option.bind_eq_bind, Option.bind_some, value_of_digits_to_digits, Option.isNone_none, and_self,
    if_true, Bool.false_eq_true, if_false, bounded?_of_lt fits]
  rfl

/-- The digits one by one. -/
theorem eq_digit {c : Char} (digit : c.isDigit = true) :
    c = '0' ∨ c = '1' ∨ c = '2' ∨ c = '3' ∨ c = '4' ∨ c = '5' ∨ c = '6' ∨ c = '7' ∨ c = '8' ∨
      c = '9' := by
  have ascii : ∀ point < 58, (Char.ofNat point).isDigit = true →
      Char.ofNat point ∈ ['0', '1', '2', '3', '4', '5', '6', '7', '8', '9'] := by decide
  have small : c.toNat < 58 := by
    simp only [Char.isDigit, Bool.and_eq_true, decide_eq_true_eq, UInt32.le_iff_toNat_le] at digit
    exact Nat.lt_succ_of_le digit.2
  have listed := ascii c.toNat small
  rw [Char.ofNat_toNat] at listed
  simpa using listed digit

/-- A digit is no sign and begins no word. -/
theorem number_of_digit {c : Char} (digit : c.isDigit = true) {rest : List Char}
    (plain : c = '0' → EndsValue rest) : number (c :: rest) = decimal false (c :: rest) := by
  rcases eq_digit digit with rfl | rfl | rfl | rfl | rfl | rfl | rfl | rfl | rfl | rfl
  · cases plain rfl <;> rfl
  all_goals rfl

/-- A number that fits is read back. -/
theorem number_to_digits {value : Nat} (fits : value < signedBound) {rest : List Char}
    (ends : EndsValue rest) :
    number (Nat.toDigits 10 value ++ rest) = some (.integer value, rest) := by
  have read := decimal_to_digits fits ends
  obtain ⟨first, others, written, digit, alone⟩ := exists_first_digit value
  rw [written, List.cons_append] at read ⊢
  rw [number_of_digit digit, read]
  intro zero
  rw [alone zero]
  exact ends

/-- Digits taken off the front of a written number are digits of that number, so that no separator
of dates and times stands behind them. -/
theorem mark_of_fixed_digits (separator : Char) (other : separator.isDigit = false)
    {digits others beyond : List Char} {closing : Char} (apart : closing ≠ separator)
    (undigited : closing.isDigit = false) (decimal : ∀ c ∈ digits, c.isDigit = true)
    {count value : Nat}
    (read : fixedDigits count (digits ++ closing :: others) = some (value, beyond)) :
    mark separator beyond = none := by
  simp only [fixedDigits] at read
  split at read
  · rename_i taken
    obtain ⟨enough, all⟩ := taken
    have inside : count ≤ digits.length := by
      refine Nat.le_of_not_lt fun beyondDigits => ?_
      have ends : closing ∈ (digits ++ closing :: others).take count := by
        refine List.mem_take_iff_getElem.mpr ⟨digits.length, ?_, ?_⟩
        · simp only [List.length_append, List.length_cons]
          omega
        · simp
      have digit := List.all_eq_true.mp all closing ends
      rw [undigited] at digit
      cases digit
    obtain rfl := (Prod.mk.inj (Option.some.inj read)).2
    rw [List.drop_append_of_le_length inside]
    cases left : digits.drop count with
    | nil => exact if_neg apart
    | cons first more =>
      have digit := decimal first (List.mem_of_mem_drop (left ▸ List.mem_cons_self))
      refine if_neg fun (same : first = separator) => ?_
      rw [same, other] at digit
      cases digit
  · cases read

/-- A written number is neither a date nor a time. -/
theorem after_moment_to_digits (number : Nat) {rest : List Char} (ends : EndsValue rest) :
    afterMoment (Nat.toDigits 10 number ++ rest) = none := by
  have decimal := is_digit_of_to_digits number
  obtain ⟨closing, others, rfl, undigited, noDash, noColon⟩ := ends.begins
  have noDate : afterDate (Nat.toDigits 10 number ++ closing :: others) = none := by
    unfold afterDate
    cases read : fixedDigits 4 (Nat.toDigits 10 number ++ closing :: others) with
    | none => rfl
    | some year =>
      have undashed := mark_of_fixed_digits '-' (by decide) noDash undigited decimal read
      simp [undashed]
  have noTime : afterTime (Nat.toDigits 10 number ++ closing :: others) = none := by
    unfold afterTime afterMinutes
    cases read : fixedDigits 2 (Nat.toDigits 10 number ++ closing :: others) with
    | none => rfl
    | some hour =>
      have undivided := mark_of_fixed_digits ':' (by decide) noColon undigited decimal read
      simp [undivided]
  rw [afterMoment, noDate, noTime]

/-- A character with which a value may begin: none that is skipped before a value, and not the
bracket that closes a list. -/
def beginsValue (c : Char) : Bool := isVisible c && !isSpace c && c ≠ '#' && c ≠ ']'

/-- What is written is taken for a value by a reader, whatever ends the value. -/
structure ReadsAs {α : Type} (item : Reader α) (written : List Char) (found : α) : Prop where
  begins : ∃ first others, written = first :: others ∧ beginsValue first = true
  reads : ∀ rest, EndsValue rest → item (written ++ rest) = some (found, rest)

/-- Nothing is skipped before a value. -/
theorem skip_filler_of_begins {first : Char} (begins : beginsValue first = true)
    (rest : List Char) : skipFiller (first :: rest) = first :: rest := by
  simp only [beginsValue, Bool.and_eq_true, Bool.not_eq_true', decide_eq_true_eq] at begins
  obtain ⟨⟨⟨visible, solid⟩, noComment⟩, -⟩ := begins
  unfold skipFiller
  split
  · rename_i same
    cases same
  · rename_i same
    exact absurd (List.cons.inj same).1 noComment
  · rename_i same
    obtain rfl := (List.cons.inj same).1
    cases visible
  · rename_i same
    obtain rfl := (List.cons.inj same).1
    cases visible
  · rename_i same
    obtain ⟨rfl, rfl⟩ := List.cons.inj same
    rw [solid]
    rfl

/-- Nor are there spaces. -/
theorem skip_spaces_of_begins {first : Char} (begins : beginsValue first = true)
    (rest : List Char) : skipSpaces (first :: rest) = first :: rest := by
  simp only [beginsValue, Bool.and_eq_true, Bool.not_eq_true'] at begins
  exact List.dropWhile_cons_of_neg (by simp [begins.1.1.2])

/-- What begins with a digit is a number or a moment. -/
theorem value_of_digit {c : Char} (digit : c.isDigit = true) (depth : Nat) (rest : List Char) :
    value depth (c :: rest) = numberOrMoment (c :: rest) := by
  rcases eq_digit digit with rfl | rfl | rfl | rfl | rfl | rfl | rfl | rfl | rfl | rfl <;>
    cases depth <;> rfl

/-- A number that fits is read back as a value. -/
theorem reads_as_natural {number : Nat} (fits : number < signedBound) (depth : Nat) :
    ReadsAs (value depth) (Nat.toDigits 10 number) (.integer number) := by
  obtain ⟨first, others, written, digit, -⟩ := exists_first_digit number
  refine ⟨⟨first, others, written, ?_⟩, fun rest ends => ?_⟩
  · rcases eq_digit digit with rfl | rfl | rfl | rfl | rfl | rfl | rfl | rfl | rfl | rfl <;> rfl
  · have moment := after_moment_to_digits number ends
    have read := number_to_digits fits ends
    rw [written, List.cons_append] at moment read ⊢
    rw [value_of_digit digit, numberOrMoment, moment]
    exact read

/-- A boolean is read back as a value. -/
theorem reads_as_boolean (truth : Bool) (depth : Nat) :
    ReadsAs (value depth) (toString truth).toList (.boolean truth) := by
  cases truth with
  | false =>
    refine ⟨⟨'f', ['a', 'l', 's', 'e'], rfl, rfl⟩, fun rest _ => ?_⟩
    cases depth <;> rfl
  | true =>
    refine ⟨⟨'t', ['r', 'u', 'e'], rfl, rfl⟩, fun rest _ => ?_⟩
    cases depth <;> rfl

/-- A text begins with a quote or an apostrophe. -/
theorem written_text_begins (characters : List Char) :
    ∃ first others, writtenText characters = first :: others ∧ (first = '"' ∨ first = '\'') := by
  have written : writtenText characters = (TextForm.ofText characters).fence ++
      (openingBreak characters ++ (TextForm.ofText characters).inside characters ++
        (TextForm.ofText characters).fence) := by
    simp [writtenText, openingBreak]
  rw [written]
  have suits := TextForm.suits_of_text characters
  generalize TextForm.ofText characters = form at suits ⊢
  cases suits with
  | basic => exact ⟨_, _, rfl, .inl rfl⟩
  | literal => exact ⟨_, _, rfl, .inr rfl⟩
  | basicLines => exact ⟨_, _, rfl, .inl rfl⟩
  | literalLines => exact ⟨_, _, rfl, .inr rfl⟩

/-- A text is read back as a value. -/
theorem reads_as_text (characters : String) (depth : Nat) :
    ReadsAs (value depth) (writtenText characters.toList) (.text characters) := by
  obtain ⟨first, others, written, quote⟩ := written_text_begins characters.toList
  refine ⟨⟨first, others, written, ?_⟩, fun rest ends => ?_⟩
  · rcases quote with rfl | rfl <;> rfl
  · obtain ⟨quoteEnds, apostropheEnds⟩ := ends.rows
    have read := text_written_text characters.toList quoteEnds apostropheEnds
    rw [written] at read ⊢
    rw [List.cons_append] at read ⊢
    have asText : value depth (first :: (others ++ rest)) =
        (text (first :: (others ++ rest))).map fun found =>
          (.text (.ofList found.1), found.2) := by
      rcases quote with rfl | rfl <;> cases depth <;> rfl
    rw [asText, read]
    simp

/-- A scalar is read back from what is written for it. -/
theorem reads_as_scalar {document : Document} (plain : document.Scalar) {written : String}
    (shown : writtenScalar document = .ok written) (depth : Nat) :
    ReadsAs (value depth) written.toList document := by
  cases plain with
  | boolean truth =>
    obtain rfl := Except.ok.inj shown
    exact reads_as_boolean truth depth
  | natural number =>
    rw [writtenScalar] at shown
    split at shown
    · rename_i within
      simp only [fitsSigned, Bool.and_eq_true, decide_eq_true_eq] at within
      obtain rfl := Except.ok.inj shown
      have digits : toString (number : Int) = .ofList (Nat.toDigits 10 number) :=
        Nat.toString_eq_ofList_toDigits
      rw [digits, String.toList_ofList]
      exact reads_as_natural (Int.ofNat_lt.mp within.2) depth
    · cases shown
  | text characters =>
    obtain rfl := Except.ok.inj shown
    rw [String.toList_ofList]
    exact reads_as_text characters depth

section Lists

variable {α : Type} {item : Reader α} {written : List Char} {found : α}

/-- The lines of a list that has a line for each item, behind its opening bracket. -/
def listLines (items : List (List Char)) (rest : List Char) : List Char :=
  items.foldr (fun written rest => '\n' :: ' ' :: ' ' :: ' ' :: ' ' :: (written ++ ',' :: rest))
    ('\n' :: ']' :: rest)

/-- A newline is skipped, with what may be skipped behind it. -/
@[simp] theorem skip_filler_newline (rest : List Char) :
    skipFiller ('\n' :: rest) = skipFiller rest := by
  rw [skipFiller]

/-- So is a space. -/
@[simp] theorem skip_filler_space (rest : List Char) :
    skipFiller (' ' :: rest) = skipFiller rest := by
  rw [skipFiller]
  · rfl
  all_goals simp

/-- Line breaks and indentation are skipped before an item. -/
theorem skip_filler_list_lines_cons (reads : ReadsAs item written found) (items : List (List Char))
    (rest : List Char) :
    skipFiller (listLines (written :: items) rest) = written ++ ',' :: listLines items rest := by
  obtain ⟨first, others, rfl, begins⟩ := reads.begins
  simp only [listLines, List.foldr_cons, skip_filler_newline, skip_filler_space, List.cons_append]
  exact skip_filler_of_begins begins _

/-- A closing bracket is not skipped. -/
theorem skip_filler_bracket (rest : List Char) : skipFiller (']' :: rest) = ']' :: rest := by
  rw [skipFiller]
  · rfl
  all_goals simp

/-- They are skipped before the closing bracket as well. -/
theorem skip_filler_list_lines_nil (rest : List Char) :
    skipFiller (listLines [] rest) = ']' :: rest := by
  rw [listLines, List.foldr_nil, skip_filler_newline, skip_filler_bracket]

/-- A reader of items reads the lines of a list, the comma behind the last item included. -/
theorem further_list_lines {values : List α} {items : List (List Char)}
    (reads : List.Forall₂ (ReadsAs item) items values) (several : items ≠ []) (rest : List Char) :
    arrayListing.further item (listLines items rest) = some (values, rest) := by
  induction reads with
  | nil => exact absurd rfl several
  | @cons written found items values reads others inductionHypothesis =>
    have front := skip_filler_list_lines_cons reads items rest
    have first := reads.reads (',' :: listLines items rest) (.comma _)
    have comma : skipFiller (',' :: listLines items rest) = ',' :: listLines items rest :=
      skip_filler_of_begins (by decide) _
    have shorter : (listLines items rest).length < (listLines (written :: items) rest).length := by
      simp only [listLines, List.foldr_cons, List.length_cons, List.length_append]
      omega
    rw [Text.Listing.further]
    simp only [arrayListing, front, first, comma]
    rw [if_neg (by decide), if_pos ⟨trivial, shorter⟩]
    cases others with
    | nil =>
      rw [skip_filler_list_lines_nil]
      rfl
    | @cons next _ later _ nextReads _ =>
      have further := inductionHypothesis (List.cons_ne_nil _ _)
      have opening := skip_filler_list_lines_cons nextReads later rest
      obtain ⟨mark, more, rfl, begins⟩ := nextReads.begins
      have inside : mark ≠ ']' := by
        rintro rfl
        cases begins
      rw [opening, List.cons_append]
      simp only [inside, and_false, if_false]
      rw [arrayListing] at further
      rw [further]
      rfl

/-- A list whose items have a line each is written in those lines. -/
theorem to_list_lines (items : List String) (rest : List Char) :
    '\n' :: ((String.join (items.map fun item => "    " ++ item ++ ",\n")).toList ++ ']' :: rest) =
      listLines (items.map String.toList) rest := by
  have indentation : "    ".toList = [' ', ' ', ' ', ' '] := rfl
  have lineEnd : ",\n".toList = [',', '\n'] := rfl
  induction items with
  | nil => rfl
  | cons item items inductionHypothesis =>
    rw [List.map_cons, List.map_cons, listLines, List.foldr_cons, ← listLines,
      ← inductionHypothesis]
    simp [String.toList_append, indentation, lineEnd]

/-- The items of a list on one line. -/
theorem items_single (reads : ReadsAs item written found) (rest : List Char) :
    arrayListing.items item (written ++ ']' :: rest) = some ([found], rest) := by
  have first := reads.reads (']' :: rest) (.bracket rest)
  obtain ⟨mark, others, rfl, begins⟩ := reads.begins
  have inside : mark ≠ ']' := by
    rintro rfl
    cases begins
  rw [List.cons_append] at first ⊢
  rw [Text.Listing.items, Text.Listing.further]
  simp only [arrayListing, skip_filler_of_begins begins, first, skip_filler_bracket, inside,
    if_false, if_true]

/-- The items of a list with a line for each. -/
theorem items_list_lines {values : List α} {items : List (List Char)}
    (reads : List.Forall₂ (ReadsAs item) items values) (several : items ≠ []) (rest : List Char) :
    arrayListing.items item (listLines items rest) = some (values, rest) := by
  have further := further_list_lines reads several rest
  cases reads with
  | nil => exact absurd rfl several
  | @cons next _ later _ nextReads _ =>
    have opening : arrayListing.skip (listLines (next :: later) rest) = _ :=
      skip_filler_list_lines_cons nextReads later rest
    obtain ⟨mark, more, rfl, begins⟩ := nextReads.begins
    have inside : mark ≠ ']' := by
      rintro rfl
      cases begins
    rw [Text.Listing.items]
    simp only [opening, List.cons_append]
    simp only [arrayListing, inside, if_false]
    exact further

/-- A list is read back from its items between brackets. -/
theorem reads_as_bracketed {depth : Nat} {documents : List Document} {items : List String}
    (reads : List.Forall₂ (ReadsAs (value depth)) (items.map String.toList) documents) :
    ReadsAs (value (depth + 1)) (bracketed items).toList (.list documents) := by
  have array (rest : List Char) : value (depth + 1) ('[' :: rest) =
      (arrayListing.items (value depth) rest).map fun found => (.list found.1, found.2) := rfl
  rcases items with _ | ⟨first, _ | ⟨second, others⟩⟩
  · cases reads
    refine ⟨⟨'[', [']'], rfl, rfl⟩, fun rest _ => (array (']' :: rest)).trans ?_⟩
    rw [Text.Listing.items]
    simp [arrayListing, skip_filler_bracket]
  · obtain ⟨document, _, single, none, rfl⟩ := List.forall₂_cons_left_iff.mp reads
    obtain rfl := List.forall₂_nil_left_iff.mp none
    have written : (bracketed [first]).toList = '[' :: (first.toList ++ [']']) := by
      have opening : "[".toList = ['['] := rfl
      have closing : "]".toList = [']'] := rfl
      simp [bracketed, opening, closing]
    refine ⟨⟨'[', _, written, rfl⟩, fun rest _ => ?_⟩
    rw [written, List.cons_append, List.append_assoc, array]
    exact congrArg _ (items_single single rest)
  · have written (rest : List Char) : (bracketed (first :: second :: others)).toList ++ rest =
        '[' :: listLines ((first :: second :: others).map String.toList) rest := by
      have opening : "[\n".toList = ['[', '\n'] := rfl
      have closing : "]".toList = [']'] := rfl
      rw [← to_list_lines]
      simp [bracketed, opening, closing]
    refine ⟨⟨'[', _, by simpa using written [], rfl⟩, fun rest _ => ?_⟩
    rw [written, array, items_list_lines reads (by simp) rest]
    rfl

end Lists

/-- A flat value is read back from what is written for it. -/
theorem reads_as_flat {document : Document} (plain : document.Flat) {written : String}
    (shown : writtenValue document = .ok written) (depth : Nat) :
    ReadsAs (value (depth + 1)) written.toList document := by
  cases plain with
  | scalar plain =>
    have alone : writtenValue document = writtenScalar document := by
      cases plain <;> rfl
    exact reads_as_scalar plain (alone ▸ shown) (depth + 1)
  | @list items plain =>
    cases each : items.mapM writtenScalar with
    | error reason =>
      rw [writtenValue, each] at shown
      cases shown
    | ok texts =>
      rw [writtenValue, each] at shown
      obtain rfl := Except.ok.inj shown
      have pairs := (List.forall₂_and_left _ _).mpr ⟨plain, forall₂_of_traverse each⟩
      refine reads_as_bracketed (List.forall₂_map_left_iff.mpr (List.Forall₂.flip ?_))
      exact pairs.imp fun item text both => reads_as_scalar both.1 both.2 depth

end Toml

end CustomerKeys
