import CustomerKeys.Text.Reader

/-!
# Blanks, comments and line ends

Between the parts of a line only spaces and tabs count as nothing. Between lines, and anywhere
inside an array, newlines and comments do so as well. A newline is a line feed, with or without a
carriage return before it; a carriage return that stands alone is no part of any text.
-/

namespace CustomerKeys.Toml

/-- A blank inside a line: a space or a tab. The ends of lines are never skipped with these. -/
def isSpace (c : Char) : Bool := c = ' ' || c = '\t'

/-- A character of a comment or a literal text: a tab or anything that is not an ASCII control. -/
def isVisible (c : Char) : Bool := c = '\t' || (0x20 ≤ c.toNat && c.toNat ≠ 0x7f)

/-- A text without its leading spaces and tabs. What stands around an equals sign or a dot is
skipped in this way. -/
def skipSpaces (text : List Char) : List Char := text.dropWhile isSpace

/-- A text without its leading newline, if it has one. A newline may have a carriage return before
it, and a lone one is none. -/
def newline? : List Char → Option (List Char)
  | '\n' :: rest => some rest
  | '\r' :: '\n' :: rest => some rest
  | _ => none

/-- A text without leading spaces and newlines, as they may stand behind a backslash that ends a
line. -/
def skipBreaks : List Char → List Char
  | '\n' :: rest => skipBreaks rest
  | '\r' :: '\n' :: rest => skipBreaks rest
  | c :: rest => if isSpace c then skipBreaks rest else c :: rest
  | [] => []

/-- A text without leading spaces, newlines and comments. The items of an array may have all of
these between them. -/
def skipFiller (text : List Char) : List Char :=
  match text with
  | [] => []
  | '#' :: rest => skipFiller (rest.dropWhile isVisible)
  | '\n' :: rest => skipFiller rest
  | '\r' :: '\n' :: rest => skipFiller rest
  | c :: rest => if isSpace c then skipFiller rest else c :: rest
termination_by text.length
decreasing_by
  · exact Nat.lt_succ_of_le (List.dropWhile_sublist _).length_le
  all_goals (simp only [List.length_cons]; omega)

/-- The rest of a line that should hold nothing more: spaces, perhaps a comment, and a newline or
the end of the text. -/
def lineEnd (text : List Char) : Option (List Char) :=
  let rest := match skipSpaces text with
    | '#' :: comment => comment.dropWhile isVisible
    | other => other
  if rest.isEmpty then some [] else newline? rest

end CustomerKeys.Toml
