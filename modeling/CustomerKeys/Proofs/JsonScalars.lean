import CustomerKeys.Json.Reader
import CustomerKeys.Json.Writer
import CustomerKeys.Proofs.WrittenValues

/-!
# Written JSON scalars read back

Texts, integers, truth values and null are read as what they were written for, and the reader stops
behind them. What follows matters for integers alone: a digit or a decimal point behind one would be
taken for a part of it. In the written layout a value is followed by a comma, by a line break or by
the end of the text, and `EndsValue` lists these.

A text is written character by character, and each character comes back from its own piece, escaped
or not. The control characters without a letter of their own are few enough to be looked at one by
one.
-/

namespace CustomerKeys.Json

open CustomerKeys.Text (Reader collect collect_end collect_piece hexDigits isHexDigit valueOfDigits)
open CustomerKeys.Toml (eq_digit exists_first_digit is_digit_of_to_digits)

/-- What may stand behind a value in the written layout: nothing more, the end of its line, or a
comma. -/
inductive EndsValue : List Char → Prop
  | nothing : EndsValue []
  | newline (rest : List Char) : EndsValue ('\n' :: rest)
  | comma (rest : List Char) : EndsValue (',' :: rest)

/-- A character with which a value or the entry of a table may begin: one that is not skipped before
it, and not a bracket that closes what it would be in. -/
def beginsValue (c : Char) : Bool :=
  !(c = ' ' || c = '\t' || c = '\n' || c = '\r') && c ≠ ']' && c ≠ '\x7d'

/-- What is written is taken for a value by a reader, whatever ends the value. -/
structure ReadsAs {α : Type} (item : Reader α) (written : List Char) (found : α) : Prop where
  begins : ∃ first others, written = first :: others ∧ beginsValue first = true
  reads : ∀ rest, EndsValue rest → item (written ++ rest) = some (found, rest)

/-- Nothing is skipped before a value, since none begins with a blank. -/
theorem skip_blanks_of_begins {first : Char} (begins : beginsValue first = true)
    (rest : List Char) : skipBlanks (first :: rest) = first :: rest := by
  simp only [beginsValue, Bool.and_eq_true, Bool.not_eq_true'] at begins
  exact List.dropWhile_cons_of_neg (by simp [begins.1.1])

/-- The four digits of a control character are read as its code point. There are few enough of these
characters to look at the digits of each. -/
theorem hex_unit_padded {point : Nat} (control : point < 0x20) (rest : List Char) :
    hexUnit (List.replicate (4 - (hexDigits point).length) '0' ++ hexDigits point ++ rest) =
      some (point, rest) := by
  have digits : ∀ point < 0x20,
      let padded := List.replicate (4 - (hexDigits point).length) '0' ++ hexDigits point
      padded.length = 4 ∧ padded.all isHexDigit = true ∧ valueOfDigits 16 padded = point := by
    decide
  obtain ⟨four, hex, value⟩ := digits point control
  revert four hex value
  generalize List.replicate (4 - (hexDigits point).length) '0' ++ hexDigits point = padded
  intro four hex value
  match padded, four with
  | [a, b, c, d], _ =>
    change (if [a, b, c, d].all isHexDigit = true then _ else _) = _
    rw [if_pos hex, value]
    rfl

/-- Every character of a text comes back from what is written for it. The cases are those of the
writer: seven characters with a letter of their own, the other control characters, and all that
stand for themselves. -/
theorem text_step_escaped (c : Char) (rest : List Char) :
    textStep (escaped c ++ rest) = some (some c, rest) := by
  unfold escaped
  iterate 7
    split
    · subst c
      rfl
  rename_i unquoted plain _ _ _ _ _
  split
  · rename_i control
    have read := hex_unit_padded control rest
    have small : ¬ (0xd800 ≤ c.toNat ∧ c.toNat < 0xdc00) := by omega
    have point : Text.charOfPoint? c.toNat = some c := by
      rw [Text.charOfPoint?, if_pos (.inl (by omega)), Char.ofNat_toNat]
    simp only [controlEscape, List.cons_append, textStep, read, Option.bind_eq_bind,
      Option.bind_some, unitCharacter, small, if_false, point]
    rfl
  · rename_i shown
    rw [List.singleton_append, textStep]
    · exact if_neg shown
    all_goals simp_all

/-- Something is written for every character, so reading one leaves a shorter text and the loop over
them goes on. -/
theorem escaped_ne_nil (c : Char) : escaped c ≠ [] := by
  unfold escaped controlEscape
  repeat' split
  all_goals simp

/-- The characters of a text are read up to the closing quote. The induction is on the text, and
each step reads one character. -/
theorem text_body_escaped (text rest : List Char) :
    textBody (text.flatMap escaped ++ '"' :: rest) = some (text, rest) := by
  induction text with
  | nil => exact collect_end rfl
  | cons c text inductionHypothesis =>
    rw [List.flatMap_cons, List.append_assoc]
    refine collect_piece (text_step_escaped c _) ?_ inductionHypothesis
    have written := List.length_pos_iff.mpr (escaped_ne_nil c)
    simp only [List.length_append]
    omega

/-- The characters of a text between quotes, as the reader sees them. -/
theorem to_list_quoted_text (text : String) :
    (quotedText text).toList = '"' :: (text.toList.flatMap escaped ++ ['"']) := by
  rw [quotedText, String.toList_ofList, List.cons_append]

/-- A text is read back as a value, at any depth. -/
theorem reads_as_text (text : String) (depth : Nat) :
    ReadsAs (value depth) (quotedText text).toList (.text text) := by
  rw [to_list_quoted_text]
  refine ⟨⟨_, _, rfl, rfl⟩, fun rest _ => ?_⟩
  have body := text_body_escaped text.toList rest
  have asText : value depth ('"' :: (text.toList.flatMap escaped ++ '"' :: rest)) =
      (textBody (text.toList.flatMap escaped ++ '"' :: rest)).map fun found =>
        (.text (String.ofList found.1), found.2) := by
    cases depth <;> rfl
  rw [List.cons_append, List.append_assoc, List.singleton_append, asText, body]
  simp

/-- A truth value is read back as a value, from the word that is written for it. -/
theorem reads_as_boolean (truth : Bool) (depth : Nat) :
    ReadsAs (value depth) (toString truth).toList (.boolean truth) := by
  cases truth
  all_goals
    refine ⟨⟨_, _, rfl, rfl⟩, fun rest _ => ?_⟩
    cases depth <;> rfl

/-- Null is read back as a value. -/
theorem reads_as_null (depth : Nat) : ReadsAs (value depth) "null".toList .null := by
  refine ⟨⟨_, _, rfl, rfl⟩, fun rest _ => ?_⟩
  cases depth <;> rfl

/-- The digits of a number are read up to the end of the value. A zero is read alone, and no other
number begins with one. -/
theorem whole_digits_of_number (number : Nat) {rest : List Char} (ends : EndsValue rest) :
    wholeDigits (Nat.toDigits 10 number ++ rest) = some (Nat.toDigits 10 number, rest) := by
  have decimal := is_digit_of_to_digits number
  have stops : rest.takeWhile Char.isDigit = [] ∧ rest.dropWhile Char.isDigit = rest := by
    cases ends <;> exact ⟨rfl, rfl⟩
  have read : digits (Nat.toDigits 10 number ++ rest) = some (Nat.toDigits 10 number, rest) := by
    simp only [digits, Text.spanWhile, List.takeWhile_append_of_pos decimal,
      List.dropWhile_append_of_pos decimal, stops, List.append_nil]
    exact if_neg (by simp)
  obtain ⟨first, others, written, -, alone⟩ := exists_first_digit number
  rw [written, List.cons_append] at read ⊢
  by_cases zero : first = '0'
  · obtain rfl := alone zero
    subst first
    rfl
  · rw [wholeDigits]
    · exact read
    · exact fun _ same => zero (List.cons.inj same).1

/-- A number without its sign is read from its digits. Behind them there is neither a point nor an
exponent, so it is taken for an integer. -/
theorem unsigned_number_of_digits (negative : Bool) (number : Nat) {rest : List Char}
    (ends : EndsValue rest) : unsignedNumber negative (Nat.toDigits 10 number ++ rest) =
      some (integerLiteral negative number, rest) := by
  have noFraction : fraction rest = some (none, rest) := by cases ends <;> rfl
  have noExponent : exponent rest = some (none, rest) := by cases ends <;> rfl
  simp only [unsignedNumber, whole_digits_of_number number ends, noFraction, noExponent,
    Option.bind_eq_bind, Option.bind_some, Nat.ofDigitChars_ten_toDigits]
  rfl

/-- A natural number of 64 bits is read back as a value. -/
theorem reads_as_natural {number : Nat} (fits : number < UInt64.size) (depth : Nat) :
    ReadsAs (value depth) (toString number).toList (.integer number) := by
  rw [Nat.toString_eq_ofList_toDigits, String.toList_ofList]
  have literal : integerLiteral false number = .integer number := if_pos fits
  obtain ⟨first, others, written, digit, -⟩ := exists_first_digit number
  refine ⟨⟨first, others, written, ?_⟩, fun rest ends => ?_⟩
  · rcases eq_digit digit with rfl | rfl | rfl | rfl | rfl | rfl | rfl | rfl | rfl | rfl <;> rfl
  · have read := unsigned_number_of_digits false number ends
    have unsigned : value depth (first :: (others ++ rest)) =
        unsignedNumber false (first :: (others ++ rest)) := by
      rcases eq_digit digit with rfl | rfl | rfl | rfl | rfl | rfl | rfl | rfl | rfl | rfl <;>
        cases depth <;> rfl
    rw [written, List.cons_append] at read ⊢
    rw [unsigned, read, literal]

/-- So is a negative number that 64 bits hold with its sign. Its sign is read first, and its digits
like those of any number. -/
theorem reads_as_negative {number : Nat} (positive : 0 < number) (fits : number ≤ signedBound)
    (depth : Nat) :
    ReadsAs (value depth) ('-' :: (toString number).toList) (.integer (-(number : Int))) := by
  rw [Nat.toString_eq_ofList_toDigits, String.toList_ofList]
  have literal : integerLiteral true number = .integer (-(number : Int)) :=
    (if_pos rfl).trans (if_pos ⟨positive, fits⟩)
  refine ⟨⟨_, _, rfl, rfl⟩, fun rest ends => ?_⟩
  have signed : value depth ('-' :: (Nat.toDigits 10 number ++ rest)) =
      unsignedNumber true (Nat.toDigits 10 number ++ rest) := by
    cases depth <;> rfl
  rw [List.cons_append, signed, unsigned_number_of_digits true number ends, literal]

/-- Every integer is read back that 64 bits hold, with or without a sign. -/
theorem reads_as_integer {number : Int} (least : -(signedBound : Int) ≤ number)
    (most : number < (UInt64.size : Int)) (depth : Nat) :
    ReadsAs (value depth) (toString number).toList (.integer number) := by
  cases number with
  | ofNat number => exact reads_as_natural (Int.ofNat_lt.mp most) depth
  | negSucc number =>
    have shown : (toString (Int.negSucc number)).toList = '-' :: (toString (number + 1)).toList :=
      String.toList_append
    rw [shown, Int.negSucc_eq]
    exact reads_as_negative (Nat.succ_pos number) (by omega) depth

end CustomerKeys.Json
