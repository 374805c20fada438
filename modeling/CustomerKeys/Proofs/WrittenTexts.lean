import CustomerKeys.Toml.Text
import CustomerKeys.Toml.Writer

/-!
# Written texts read back

Whatever a text contains, the form in which it is written is read as that text, and the reader stops
behind the closing delimiter. Nothing is demanded of what follows, except that it does not begin
with another quote or apostrophe.

The four forms are taken one after the other. Between tripled delimiters the length of a row of
delimiter characters decides what the first of them means, so the proofs there follow that length:
inside a text a row is one or two long, and at its end three, four or five.
-/

namespace CustomerKeys

namespace Text

variable {α : Type} {step : Reader (Option α)} {text rest : List Char}

/-- A step that answers with no piece is the end. -/
theorem collect_end (stepped : step text = some (none, rest)) :
    collect step text = some ([], rest) := by
  rw [collect, stepped]

/-- A step that answers with a piece puts it in front of what is collected from there on. -/
theorem collect_piece {piece : α} {others : List α} {beyond : List Char}
    (stepped : step text = some (some piece, beyond)) (shorter : beyond.length < text.length)
    (collected : collect step beyond = some (others, rest)) :
    collect step text = some (piece :: others, rest) := by
  rw [collect, stepped]
  simp only [shorter, if_true, collected, Option.map_some]

end Text

namespace Toml

open CustomerKeys.Text (Reader collect collect_end collect_piece isHexDigit valueOfDigits)

/-- A hidden character is an ASCII control. -/
theorem to_nat_lt_of_is_hidden {c : Char} (hidden : isHidden c = true) : c.toNat < 128 := by
  simp only [isHidden, isVisible, Bool.and_eq_true, Bool.not_eq_true', Bool.or_eq_false_iff,
    Bool.and_eq_false_iff, decide_eq_false_iff_not, decide_eq_true_eq] at hidden
  omega

/-- The four digits of a small code point are read as that code point. -/
theorem code_point_four_digits {point : Nat} (small : point < 128) (rest : List Char) :
    codePoint 4 (fourDigits point ++ rest) = some (Char.ofNat point, rest) := by
  have digits : (fourDigits point).all isHexDigit = true ∧
      valueOfDigits 16 (fourDigits point) = point := by
    revert point
    decide
  have length : (fourDigits point).length = 4 := rfl
  have taken : (fourDigits point ++ rest).take 4 = fourDigits point := rfl
  have dropped : (fourDigits point ++ rest).drop 4 = rest := rfl
  simp only [codePoint, taken, dropped, length, digits.1, digits.2, CustomerKeys.Text.charOfPoint?]
  simp [show point < 55296 by omega]

/-- What may follow a backslash. -/
def escapeMarks : List Char := ['b', 't', 'f', 'r', '"', '\\', 'u']

/-- A written escape is read as the character that it stands for. -/
theorem escape_of_escape? {c : Char} {written : List Char} (escaped : escape? c = some written) :
    ∃ mark ∈ escapeMarks, ∃ digits, written = '\\' :: mark :: digits ∧
      ∀ rest, escape (mark :: digits ++ rest) = some (c, rest) := by
  unfold escape? at escaped
  split at escaped
  · subst c
    exact ⟨'b', by decide, [], (Option.some.inj escaped).symm, fun rest => rfl⟩
  split at escaped
  · subst c
    exact ⟨'t', by decide, [], (Option.some.inj escaped).symm, fun rest => rfl⟩
  split at escaped
  · subst c
    exact ⟨'f', by decide, [], (Option.some.inj escaped).symm, fun rest => rfl⟩
  split at escaped
  · subst c
    exact ⟨'r', by decide, [], (Option.some.inj escaped).symm, fun rest => rfl⟩
  split at escaped
  · subst c
    exact ⟨'\\', by decide, [], (Option.some.inj escaped).symm, fun rest => rfl⟩
  split at escaped
  · rename_i hidden
    refine ⟨'u', by decide, fourDigits c.toNat, (Option.some.inj escaped).symm, fun rest => ?_⟩
    have read := code_point_four_digits (to_nat_lt_of_is_hidden hidden) rest
    rw [Char.ofNat_toNat] at read
    exact read
  · cases escaped

/-- A character that is not escaped is no backslash and not hidden. -/
theorem plain_of_escape? {c : Char} (plain : escape? c = none) :
    c ≠ '\\' ∧ isHidden c = false := by
  constructor
  · rintro rfl
    revert plain
    decide
  · cases hidden : isHidden c with
    | false => rfl
    | true =>
      simp only [escape?, hidden, if_true] at plain
      repeat' split at plain
      all_goals cases plain

/-- A character that is not hidden is a newline or visible. -/
theorem visible_of_not_hidden {c : Char} (shown : isHidden c = false) (inLine : c ≠ '\n') :
    isVisible c = true := by
  simpa [isHidden, inLine] using shown

/-- A text without newlines and hidden characters is visible throughout. -/
theorem forall_visible {text : List Char} (shown : text.any isHidden = false)
    (oneLine : '\n' ∉ text) : ∀ c ∈ text, isVisible c = true := by
  intro c member
  have notHidden : isHidden c = false := by
    have none := List.any_eq_false.mp shown c member
    simpa using none
  exact visible_of_not_hidden notHidden fun newline => oneLine (newline ▸ member)

/-- How a character other than a quote is written between double quotes, escaped or not. -/
def writtenChar (c : Char) : List Char := (escape? c).getD [c]

/-- A character other than a quote is written the same way everywhere, and the quotes behind it are
counted afresh. -/
theorem escaped_from_cons {c : Char} (other : c ≠ '"') (width room : Nat) (text : List Char) :
    escapedFrom width room (c :: text) = writtenChar c ++ escapedFrom width width text := by
  rw [escapedFrom]
  · rfl
  · exact other

/-- Something is written for every character. -/
theorem length_lt_written_char (c : Char) (rest : List Char) :
    rest.length < (writtenChar c ++ rest).length := by
  unfold writtenChar
  cases written : escape? c with
  | none => simp
  | some characters =>
    obtain ⟨mark, -, digits, rfl, -⟩ := escape_of_escape? written
    simp only [Option.getD_some, List.cons_append, List.length_cons, List.length_append]
    omega

/-- A character on a line comes back, whether it was escaped or not. -/
theorem basic_step_written_char {c : Char} (other : c ≠ '"') (inLine : c ≠ '\n')
    (rest : List Char) : basicStep (writtenChar c ++ rest) = some (some c, rest) := by
  unfold writtenChar
  cases written : escape? c with
  | none =>
    obtain ⟨unescaped, shown⟩ := plain_of_escape? written
    simp [basicStep, visible_of_not_hidden shown inLine]
  | some characters =>
    obtain ⟨mark, -, digits, rfl, read⟩ := escape_of_escape? written
    change (escape (mark :: digits ++ rest)).map _ = _
    rw [read]
    rfl

/-- Between double quotes: a quote is always escaped there. -/
theorem collect_basic_step {text : List Char} (oneLine : '\n' ∉ text) (rest : List Char) :
    collect basicStep (escapedFrom 0 0 text ++ '"' :: rest) = some (text, rest) := by
  induction text with
  | nil => exact collect_end rfl
  | cons c text inductionHypothesis =>
    simp only [List.mem_cons, not_or] at oneLine
    have others := inductionHypothesis oneLine.2
    by_cases quote : c = '"'
    · subst c
      exact collect_piece rfl (Nat.lt_succ_of_lt (Nat.lt_succ_self _)) others
    · rw [escaped_from_cons quote, List.append_assoc]
      exact collect_piece (basic_step_written_char quote (Ne.symm oneLine.1) _)
        (length_lt_written_char c _) others

/-- Between apostrophes, where nothing is escaped. -/
theorem collect_literal_step {text : List Char} (visible : ∀ c ∈ text, isVisible c = true)
    (unquoted : '\'' ∉ text) (rest : List Char) :
    collect literalStep (text ++ '\'' :: rest) = some (text, rest) := by
  induction text with
  | nil => exact collect_end rfl
  | cons c text inductionHypothesis =>
    simp only [List.mem_cons, not_or] at unquoted
    obtain ⟨shown, visible⟩ := List.forall_mem_cons.mp visible
    have other : c ≠ '\'' := Ne.symm unquoted.1
    have stepped : literalStep (c :: (text ++ '\'' :: rest)) =
        some (some c, text ++ '\'' :: rest) := by
      simp [literalStep, shown]
    exact collect_piece stepped (Nat.lt_succ_self _) (inductionHypothesis visible unquoted.2)

/-- How many of a character stand at the front of a text. -/
def row (delimiter : Char) (text : List Char) : Nat := (text.takeWhile (· = delimiter)).length

/-- Nothing begins with no row. -/
@[simp] theorem row_nil (delimiter : Char) : row delimiter [] = 0 := rfl

/-- One more of the character in front makes its row longer by one. -/
@[simp] theorem row_cons_self (delimiter : Char) (text : List Char) :
    row delimiter (delimiter :: text) = row delimiter text + 1 := by
  simp [row]

/-- Another character in front leaves no row. -/
theorem row_cons_of_ne {delimiter c : Char} (other : c ≠ delimiter) (text : List Char) :
    row delimiter (c :: text) = 0 := by
  simp [row, other]

section Delimiters

variable {delimiter : Char} {text : List Char}

/-- A delimiter inside a text stands in a row of one or two, or of four or five when the row goes on
as the closing delimiter. -/
theorem delimiter_step_inside (short : row delimiter text < 5) (inside : row delimiter text ≠ 2) :
    delimiterStep delimiter (delimiter :: text) = some (some [delimiter], text) := by
  have length : ((delimiter :: text).takeWhile (· = delimiter)).length = row delimiter text + 1 :=
    row_cons_self delimiter text
  simp only [delimiterStep, length]
  rw [if_neg (by omega), if_neg (by omega)]
  rfl

/-- Three of them are the closing delimiter. -/
theorem delimiter_step_closing (ends : row delimiter text = 0) :
    delimiterStep delimiter (delimiter :: delimiter :: delimiter :: text) = some (none, text) := by
  have length : ((delimiter :: delimiter :: delimiter :: text).takeWhile
      (· = delimiter)).length = 3 := by
    change row delimiter (delimiter :: delimiter :: delimiter :: text) = 3
    simp [ends]
  simp only [delimiterStep, length, if_true]
  rfl

end Delimiters

/-- A visible character begins no newline. -/
theorem newline_of_is_visible {c : Char} (shown : isVisible c = true) (rest : List Char) :
    newline? (c :: rest) = none := by
  unfold newline?
  split
  · rename_i same
    obtain rfl := (List.cons.inj same).1
    cases shown
  · rename_i same
    obtain rfl := (List.cons.inj same).1
    cases shown
  · rfl

/-- A character on several lines is read as itself, the newline included. -/
theorem line_step_of_not_hidden {c : Char} (shown : isHidden c = false) (rest : List Char) :
    lineStep (c :: rest) = some (some [c], rest) := by
  by_cases newline : c = '\n'
  · subst c
    rfl
  · have visible := visible_of_not_hidden shown newline
    rw [lineStep, newline_of_is_visible visible]
    exact if_pos visible

/-- What is written for a character does not begin with a quote, unless it is one. -/
theorem row_written_char {c : Char} (other : c ≠ '"') (rest : List Char) :
    row '"' (writtenChar c ++ rest) = 0 := by
  unfold writtenChar
  cases written : escape? c with
  | none => exact row_cons_of_ne other rest
  | some characters =>
    obtain ⟨mark, -, digits, rfl, -⟩ := escape_of_escape? written
    exact row_cons_of_ne (by decide) _

/-- No escape continues the text on another line. -/
theorem continued?_of_mark {mark : Char} (listed : mark ∈ escapeMarks) (rest : List Char) :
    continued? (mark :: rest) = none := by
  simp only [escapeMarks, List.mem_cons, List.not_mem_nil, or_false] at listed
  rcases listed with rfl | rfl | rfl | rfl | rfl | rfl | rfl <;> rfl

/-- A character other than a quote is read between tripled double quotes as it was written. -/
theorem basic_lines_step_written_char {c : Char} (other : c ≠ '"') (rest : List Char) :
    basicLinesStep (writtenChar c ++ rest) = some (some [c], rest) := by
  unfold writtenChar
  cases written : escape? c with
  | none =>
    obtain ⟨unescaped, shown⟩ := plain_of_escape? written
    have line : basicLinesStep (c :: rest) = lineStep (c :: rest) := by
      rw [basicLinesStep]
      · exact fun _ same => other (List.cons.inj same).1
      · exact fun _ same => unescaped (List.cons.inj same).1
    exact line.trans (line_step_of_not_hidden shown rest)
  | some characters =>
    obtain ⟨mark, listed, digits, rfl, read⟩ := escape_of_escape? written
    simp only [Option.getD_some, List.cons_append, basicLinesStep, continued?_of_mark listed]
    rw [← List.cons_append, read]
    rfl

/-- Between tripled double quotes the quotes at the front are as many as may be written plainly, or
they are the closing ones with those before them. -/
theorem row_escaped_from (width room : Nat) (text : List Char) {closing : List Char} {count : Nat}
    (ends : row '"' closing = count) :
    row '"' (escapedFrom width room text ++ closing) ≤ room ∨
      count ≤ row '"' (escapedFrom width room text ++ closing) ∧
        row '"' (escapedFrom width room text ++ closing) ≤ count + room := by
  induction text generalizing room with
  | nil =>
    simp only [escapedFrom, List.nil_append, ends]
    omega
  | cons c text inductionHypothesis =>
    by_cases quote : c = '"'
    · subst c
      cases room with
      | zero =>
        refine .inl (Nat.le_of_eq ?_)
        exact row_cons_of_ne (by decide) _
      | succ left =>
        have shorter := inductionHypothesis left
        have longer : row '"' (escapedFrom width (left + 1) ('"' :: text) ++ closing) =
            row '"' (escapedFrom width left text ++ closing) + 1 := row_cons_self '"' _
        rw [longer]
        omega
    · refine .inl ?_
      rw [escaped_from_cons quote, List.append_assoc, row_written_char quote]
      exact Nat.zero_le room

/-- Between tripled double quotes: two quotes in a row stand for themselves, and a third is escaped.
-/
theorem collect_basic_lines_step {room : Nat} (bounded : room ≤ 2) (text : List Char)
    {rest : List Char} (ends : row '"' rest = 0) :
    collect basicLinesStep (escapedFrom 2 room text ++ '"' :: '"' :: '"' :: rest) =
      some (text.map fun c => [c], rest) := by
  have closing : row '"' ('"' :: '"' :: '"' :: rest) = 3 := by simp [ends]
  induction text generalizing room with
  | nil => exact collect_end (delimiter_step_closing ends)
  | cons c text inductionHypothesis =>
    by_cases quote : c = '"'
    · subst c
      cases room with
      | zero =>
        have others := inductionHypothesis (Nat.le_refl 2)
        exact collect_piece rfl (Nat.lt_succ_of_lt (Nat.lt_succ_self _)) others
      | succ left =>
        have others := inductionHypothesis (Nat.le_of_succ_le bounded)
        have front := row_escaped_from 2 left text closing
        have stepped : delimiterStep '"'
            ('"' :: (escapedFrom 2 left text ++ '"' :: '"' :: '"' :: rest)) = _ :=
          delimiter_step_inside (by omega) (by omega)
        exact collect_piece stepped (Nat.lt_succ_self _) others
    · have others := inductionHypothesis (Nat.le_refl 2)
      rw [escaped_from_cons quote, List.append_assoc]
      exact collect_piece (basic_lines_step_written_char quote _) (length_lt_written_char c _)
        others

/-- A longer row before a text makes its longest row no shorter. -/
theorem longest_run_le {delimiter : Char} (text : List Char) {row longer : Nat}
    (more : row ≤ longer) : longestRun delimiter row text ≤ longestRun delimiter longer text := by
  induction text generalizing row longer with
  | nil => exact more
  | cons c text inductionHypothesis =>
    unfold longestRun
    split
    · exact inductionHypothesis (Nat.add_le_add_right more 1)
    · exact Nat.max_le.mpr ⟨Nat.le_trans more (Nat.le_max_left _ _), Nat.le_max_right _ _⟩

/-- The longest row of a text without its first character is no longer. -/
theorem longest_run_tail_le (delimiter c : Char) (text : List Char) :
    longestRun delimiter 0 text ≤ longestRun delimiter 0 (c :: text) := by
  rw [longestRun]
  split
  · exact longest_run_le text (Nat.zero_le 1)
  · exact Nat.le_max_right _ _

/-- The row at the front of a text is at most its longest one, or it is the closing one with what
comes before it. -/
theorem row_append (delimiter : Char) (before : Nat) (text : List Char) {closing : List Char}
    {count : Nat} (ends : row delimiter closing = count) :
    row delimiter (text ++ closing) + before ≤ longestRun delimiter before text ∨
      count ≤ row delimiter (text ++ closing) ∧
        row delimiter (text ++ closing) + before ≤ count + longestRun delimiter before text := by
  induction text generalizing before with
  | nil =>
    simp only [List.nil_append, ends, longestRun]
    omega
  | cons c text inductionHypothesis =>
    by_cases same : c = delimiter
    · subst c
      have shorter := inductionHypothesis (before + 1)
      simp only [List.cons_append, row_cons_self, longestRun, if_true]
      omega
    · simp only [List.cons_append, row_cons_of_ne same, longestRun, same, if_false]
      exact .inl (by omega)

/-- Between tripled apostrophes, where rows are short and nothing is escaped. -/
theorem collect_literal_lines_step {text : List Char} (shown : text.any isHidden = false)
    (short : longestRun '\'' 0 text ≤ 2) {rest : List Char} (ends : row '\'' rest = 0) :
    collect literalLinesStep (text ++ '\'' :: '\'' :: '\'' :: rest) =
      some (text.map fun c => [c], rest) := by
  have closing : row '\'' ('\'' :: '\'' :: '\'' :: rest) = 3 := by simp [ends]
  induction text with
  | nil => exact collect_end (delimiter_step_closing ends)
  | cons c text inductionHypothesis =>
    obtain ⟨visible, shown⟩ := Bool.or_eq_false_iff.mp shown
    have others := inductionHypothesis shown (Nat.le_trans (longest_run_tail_le _ c text) short)
    by_cases same : c = '\''
    · subst c
      rw [longestRun, if_pos rfl] at short
      have front := row_append '\'' (0 + 1) text closing
      have stepped : delimiterStep '\'' ('\'' :: (text ++ '\'' :: '\'' :: '\'' :: rest)) = _ :=
        delimiter_step_inside (by omega) (by omega)
      exact collect_piece stepped (Nat.lt_succ_self _) others
    · have stepped : literalLinesStep (c :: (text ++ '\'' :: '\'' :: '\'' :: rest)) =
          some (some [c], text ++ '\'' :: '\'' :: '\'' :: rest) := by
        rw [literalLinesStep]
        · exact line_step_of_not_hidden visible _
        · exact fun _ other => same (List.cons.inj other).1
      exact collect_piece stepped (Nat.lt_succ_self _) others

/-- The newline that a text with newlines has behind its opening delimiter. -/
def openingBreak (text : List Char) : List Char := if text.contains '\n' then ['\n'] else []

/-- Behind a tripled delimiter that newline is taken away again, and no other. -/
theorem lines_opening_break {step : Reader (Option (List Char))}
    {text inside closing rest : List Char}
    (begins : '\n' ∉ text → newline? (inside ++ closing) = none)
    (collected : collect step (inside ++ closing) = some (text.map fun c => [c], rest)) :
    lines step (openingBreak text ++ (inside ++ closing)) = some (text, rest) := by
  have flat : (text.map fun c => [c]).flatten = text := List.flatMap_singleton' text
  unfold lines openingBreak
  by_cases several : '\n' ∈ text
  · simp [several, newline?, collected, flat]
  · simp [several, begins several, collected, flat]

/-- When a form can hold a text. Tripled double quotes hold every text. -/
inductive TextForm.Suits (text : List Char) : TextForm → Prop
  | basic (oneLine : '\n' ∉ text) : Suits text .basic
  | literal (oneLine : '\n' ∉ text) (shown : text.any isHidden = false)
    (unquoted : longestRun '\'' 0 text = 0) : Suits text .literal
  | basicLines : Suits text .basicLines
  | literalLines (shown : text.any isHidden = false) (short : longestRun '\'' 0 text ≤ 2) :
    Suits text .literalLines

/-- The form that a text gets can hold it. -/
theorem TextForm.suits_of_text (text : List Char) : (ofText text).Suits text := by
  unfold ofText
  extract_lets hidden newline backslash quotes apostrophes
  have inLine (absent : newline = false) : '\n' ∉ text := by
    simpa [newline] using absent
  split
  · rename_i plain
    simp only [Bool.and_eq_true, Bool.not_eq_true'] at plain
    exact .basic (inLine plain.2)
  split
  · rename_i plain
    simp only [Bool.and_eq_true, Bool.not_eq_true', decide_eq_true_eq] at plain
    exact .literal (inLine plain.2) plain.1.1 plain.1.2
  split
  · exact .basicLines
  split
  · rename_i plain
    simp only [Bool.and_eq_true, Bool.not_eq_true', decide_eq_true_eq] at plain
    exact .literalLines plain.1 plain.2
  split
  · exact .basicLines
  · rename_i oneLine
    exact .basic (inLine (Bool.eq_false_iff.mpr oneLine))

/-- A character without a row does not occur. -/
theorem not_mem_of_longest_run {delimiter : Char} {text : List Char}
    (none : longestRun delimiter 0 text = 0) : delimiter ∉ text := by
  induction text with
  | nil => exact List.not_mem_nil
  | cons c text inductionHypothesis =>
    have below := longest_run_tail_le delimiter c text
    rw [none] at below
    intro member
    rcases List.mem_cons.mp member with rfl | member
    · have one := row_append delimiter (0 + 1) text (row_nil delimiter)
      rw [longestRun, if_pos rfl] at none
      omega
    · exact inductionHypothesis (Nat.le_zero.mp below) member

/-- A delimiter with at most one more behind it is not tripled. -/
theorem text_eq_short_text {delimiter : Char} {rest : List Char} (short : row delimiter rest < 2) :
    text (delimiter :: rest) = shortText (delimiter :: rest) := by
  unfold text
  split
  · rename_i more same
    obtain ⟨rfl, rfl⟩ := List.cons.inj same
    simp only [row_cons_self] at short
    omega
  · rename_i more same
    obtain ⟨rfl, rfl⟩ := List.cons.inj same
    simp only [row_cons_self] at short
    omega
  · rfl

/-- The newline behind the opening delimiter stands only before a text with newlines. -/
theorem newline_escaped_from {text : List Char} (oneLine : '\n' ∉ text) (width room : Nat)
    (rest : List Char) : newline? (escapedFrom width room text ++ '"' :: rest) = none := by
  cases text with
  | nil => exact newline_of_is_visible (by decide) rest
  | cons c text =>
    simp only [List.mem_cons, not_or] at oneLine
    by_cases quote : c = '"'
    · subst c
      cases room <;> exact newline_of_is_visible (by decide) _
    · rw [escaped_from_cons quote, List.append_assoc, writtenChar]
      cases written : escape? c with
      | none =>
        have shown := (plain_of_escape? written).2
        exact newline_of_is_visible (visible_of_not_hidden shown (Ne.symm oneLine.1)) _
      | some characters =>
        obtain ⟨mark, -, digits, rfl, -⟩ := escape_of_escape? written
        exact newline_of_is_visible (by decide) _

/-- The same holds where nothing is escaped. -/
theorem newline?_append {text : List Char} (visible : ∀ c ∈ text, isVisible c = true)
    (rest : List Char) : newline? (text ++ '\'' :: rest) = none := by
  cases text with
  | nil => exact newline_of_is_visible (by decide) rest
  | cons c text => exact newline_of_is_visible (visible c List.mem_cons_self) _

/-- A text in a form that can hold it is read back. -/
theorem text_of_suits {form : TextForm} {characters rest : List Char}
    (suits : form.Suits characters)
    (quoteEnds : row '"' rest = 0) (apostropheEnds : row '\'' rest = 0) :
    text (form.fence ++ openingBreak characters ++ form.inside characters ++ form.fence ++ rest) =
      some (characters, rest) := by
  cases suits with
  | basic oneLine =>
    have unbroken : openingBreak characters = [] := by simp [openingBreak, oneLine]
    have front := row_escaped_from 0 0 characters (row_cons_self '"' rest)
    have written : TextForm.basic.fence ++ [] ++ TextForm.basic.inside characters ++
        TextForm.basic.fence ++ rest = '"' :: (escapedFrom 0 0 characters ++ '"' :: rest) := by
      simp [TextForm.fence, TextForm.basic, TextForm.inside]
    rw [unbroken, written, text_eq_short_text (by omega)]
    exact collect_basic_step oneLine rest
  | literal oneLine shown unquoted =>
    have unbroken : openingBreak characters = [] := by simp [openingBreak, oneLine]
    have front := row_append '\'' 0 characters (row_cons_self '\'' rest)
    have written : TextForm.literal.fence ++ [] ++ TextForm.literal.inside characters ++
        TextForm.literal.fence ++ rest = '\'' :: (characters ++ '\'' :: rest) := by
      simp [TextForm.fence, TextForm.literal, TextForm.inside]
    rw [unbroken, written, text_eq_short_text (by omega)]
    exact collect_literal_step (forall_visible shown oneLine) (not_mem_of_longest_run unquoted) rest
  | basicLines =>
    have written : TextForm.basicLines.fence ++ openingBreak characters ++
        TextForm.basicLines.inside characters ++ TextForm.basicLines.fence ++ rest =
          '"' :: '"' :: '"' :: (openingBreak characters ++
            (escapedFrom 2 2 characters ++ '"' :: '"' :: '"' :: rest)) := by
      simp [TextForm.fence, TextForm.basicLines, TextForm.inside]
    rw [written]
    exact lines_opening_break (newline_escaped_from · 2 2 _)
      (collect_basic_lines_step (Nat.le_refl 2) characters quoteEnds)
  | literalLines shown short =>
    have written : TextForm.literalLines.fence ++ openingBreak characters ++
        TextForm.literalLines.inside characters ++ TextForm.literalLines.fence ++ rest =
          '\'' :: '\'' :: '\'' :: (openingBreak characters ++
            (characters ++ '\'' :: '\'' :: '\'' :: rest)) := by
      simp [TextForm.fence, TextForm.literalLines, TextForm.inside]
    rw [written]
    exact lines_opening_break (fun oneLine => newline?_append (forall_visible shown oneLine) _)
      (collect_literal_lines_step shown short apostropheEnds)

/-- Every text is read back from what is written for it, and the reader stops there. -/
theorem text_written_text (characters : List Char) {rest : List Char}
    (quoteEnds : row '"' rest = 0) (apostropheEnds : row '\'' rest = 0) :
    text (writtenText characters ++ rest) = some (characters, rest) :=
  text_of_suits (TextForm.suits_of_text characters) quoteEnds apostropheEnds

end Toml

end CustomerKeys
