import CustomerKeys.Text.Digits
import CustomerKeys.Toml.Lexeme

/-!
# Texts

A text is written in one of four forms. Between double quotes a backslash escapes; between
apostrophes every character stands for itself. Tripled delimiters let a text run over several lines:
a newline directly behind the opening delimiter does not count, one or two delimiter characters may
stand anywhere in the text, also right before the closing delimiter, and every newline is read as a
line feed.
-/

namespace CustomerKeys.Toml

open CustomerKeys.Text (Reader collect isHexDigit valueOfDigits charOfPoint?)

/-- The character whose code point is given by so many hexadecimal digits, if there is such a
character. -/
def codePoint (count : Nat) : Reader Char := fun text =>
  let digits := text.take count
  if digits.length = count ∧ digits.all isHexDigit then
    (charOfPoint? (valueOfDigits 16 digits)).map fun c => (c, text.drop count)
  else none

/-- The character that an escape stands for, its backslash being read already: one of seven letters,
or a code point behind one of two. -/
def escape : Reader Char
  | 'b' :: rest => some ('\x08', rest)
  | 't' :: rest => some ('\t', rest)
  | 'n' :: rest => some ('\n', rest)
  | 'f' :: rest => some ('\x0c', rest)
  | 'r' :: rest => some ('\r', rest)
  | '"' :: rest => some ('"', rest)
  | '\\' :: rest => some ('\\', rest)
  | 'u' :: rest => codePoint 4 rest
  | 'U' :: rest => codePoint 8 rest
  | _ => none

/-- A character between double quotes, or the closing one. Control characters are refused, and so is
the end of the line. -/
def basicStep : Reader (Option Char)
  | [] => none
  | '"' :: rest => some (none, rest)
  | '\\' :: rest => (escape rest).map fun (c, rest) => (some c, rest)
  | c :: rest => if isVisible c then some (some c, rest) else none

/-- A character between apostrophes, or the closing one. There are no escapes, so an apostrophe
cannot stand inside. -/
def literalStep : Reader (Option Char)
  | [] => none
  | '\'' :: rest => some (none, rest)
  | c :: rest => if isVisible c then some (some c, rest) else none

/-- What a delimiter character means inside its tripled form, judged by how many of them stand in a
row. Three end the text. Up to two more may come before those; there is no way to read six. -/
def delimiterStep (delimiter : Char) (text : List Char) :
    Option (Option (List Char) × List Char) :=
  let run := (text.takeWhile (· = delimiter)).length
  if run = 3 then some (none, text.drop 3)
  else if 5 < run then none
  else some (some [delimiter], text.drop 1)

/-- A character of a text over several lines that is neither escape nor delimiter. A newline counts
as one character, however it is written. -/
def lineStep (text : List Char) : Option (Option (List Char) × List Char) :=
  match newline? text with
  | some rest => some (some ['\n'], rest)
  | none =>
    match text with
    | [] => none
    | c :: rest => if isVisible c then some (some [c], rest) else none

/-- The text behind the end of a line and everything blank that follows it, for a backslash that
stands at the end of a line. -/
def continued? (text : List Char) : Option (List Char) :=
  (newline? (skipSpaces text)).map skipBreaks

/-- A piece of a text between tripled double quotes, or the end of it. A backslash at the end of a
line takes away everything up to the next visible character. -/
def basicLinesStep : Reader (Option (List Char))
  | '"' :: rest => delimiterStep '"' ('"' :: rest)
  | '\\' :: rest =>
    match continued? rest with
    | some beyond => some (some [], beyond)
    | none => (escape rest).map fun (c, rest) => (some [c], rest)
  | text => lineStep text

/-- A piece of a text between tripled apostrophes, or the end of it. Nothing in it is escaped. -/
def literalLinesStep : Reader (Option (List Char))
  | '\'' :: rest => delimiterStep '\'' ('\'' :: rest)
  | text => lineStep text

/-- A text over several lines behind its opening delimiter. A newline that follows the delimiter at
once is not a part of it. -/
def lines (step : Reader (Option (List Char))) : Reader (List Char) := fun text =>
  (collect step ((newline? text).getD text)).map fun (pieces, rest) => (pieces.flatten, rest)

/-- A text on one line, as names have it: between double quotes or between apostrophes. -/
def shortText : Reader (List Char)
  | '"' :: rest => collect basicStep rest
  | '\'' :: rest => collect literalStep rest
  | _ => none

/-- A text in any of the four forms. Which one it is, is seen by the first three characters. -/
def text : Reader (List Char)
  | '"' :: '"' :: '"' :: rest => lines basicLinesStep rest
  | '\'' :: '\'' :: '\'' :: rest => lines literalLinesStep rest
  | other => shortText other

end CustomerKeys.Toml
