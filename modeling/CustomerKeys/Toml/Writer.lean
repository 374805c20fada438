import CustomerKeys.Document.Basic
import CustomerKeys.Toml.Lexeme

/-!
# Documents as TOML text

A table is written with one entry to a line, in order. A list of fewer than two items stays on its
line; a longer one has a line for each item. An integer must fit in 64 bits with its sign.

A text gets the first of four forms that can show it as it is: between double quotes, between
apostrophes, and the same two with tripled delimiters. A text that none of them can show is escaped
between double quotes, which are tripled if it has a newline.
-/

namespace CustomerKeys.Toml

/-- A control character that no form shows as it is. A text with one is written between double
quotes, where it can be escaped. -/
def isHidden (c : Char) : Bool := !isVisible c && c ≠ '\n'

/-- The length of the longest row of a character, given the length of the row being read. Three in a
row would end a tripled form. -/
def longestRun (delimiter : Char) : (row : Nat) → List Char → Nat
  | row, [] => row
  | row, c :: rest =>
    if c = delimiter then longestRun delimiter (row + 1) rest
    else max row (longestRun delimiter 0 rest)

/-- How a text is written: with which delimiter, whether that is tripled. The four forms that TOML
has are the values. -/
structure TextForm where
  delimiter : Char
  tripled : Bool
  deriving DecidableEq, Repr

namespace TextForm

/-- Between double quotes, for a text on one line. Most texts get this form, and so do those on one
line that no other form suits. -/
def basic : TextForm := ⟨'"', false⟩

/-- Between apostrophes, for a text on one line with quotes or backslashes, which then need no
escapes. -/
def literal : TextForm := ⟨'\'', false⟩

/-- Between tripled double quotes. This form can hold every text. -/
def basicLines : TextForm := ⟨'"', true⟩

/-- Between tripled apostrophes, for a text with newlines or apostrophes that would need escapes
otherwise. -/
def literalLines : TextForm := ⟨'\'', true⟩

/-- The form that a text gets. Forms without escapes are tried first, those on one line before those
over several; a text that none of them suits gets one with escapes. -/
def ofText (text : List Char) : TextForm :=
  let hidden := text.any isHidden
  let newline := text.contains '\n'
  let backslash := text.contains '\\'
  let quotes := longestRun '"' 0 text
  let apostrophes := longestRun '\'' 0 text
  if !hidden && !backslash && quotes = 0 && !newline then basic
  else if !hidden && apostrophes = 0 && !newline then literal
  else if !hidden && !backslash && quotes ≤ 2 then basicLines
  else if !hidden && apostrophes ≤ 2 then literalLines
  else if newline then basicLines
  else basic

/-- The delimiter at either end, once or three times. -/
def fence (form : TextForm) : List Char :=
  List.replicate (if form.tripled then 3 else 1) form.delimiter

end TextForm

/-- A hexadecimal digit in upper case, as escapes are written; reading accepts both cases. -/
def upperHexDigit (digit : Nat) : Char := (Nat.digitChar digit).toUpper

/-- The four hexadecimal digits of a small code point, with zeros in front. -/
def fourDigits (point : Nat) : List Char :=
  [point / 4096 % 16, point / 256 % 16, point / 16 % 16, point % 16].map upperHexDigit

/-- How a character other than a quote is written between double quotes, if it is escaped. A newline
is not: only a tripled form holds one. -/
def escape? (c : Char) : Option (List Char) :=
  if c = '\x08' then some ['\\', 'b']
  else if c = '\t' then some ['\\', 't']
  else if c = '\x0c' then some ['\\', 'f']
  else if c = '\r' then some ['\\', 'r']
  else if c = '\\' then some ['\\', '\\']
  else if isHidden c then some ('\\' :: 'u' :: fourDigits c.toNat)
  else none

/-- The inside of a text between double quotes. `room` counts the quotes that may still be written
plainly before one has to be escaped, of at most `width` in a row. -/
def escapedFrom (width : Nat) : (room : Nat) → List Char → List Char
  | _, [] => []
  | room, '"' :: rest =>
    match room with
    | 0 => '\\' :: '"' :: escapedFrom width width rest
    | left + 1 => '"' :: escapedFrom width left rest
  | _, c :: rest => (escape? c).getD [c] ++ escapedFrom width width rest

/-- The inside of a text in a form: as it is between apostrophes, with escapes between double
quotes. -/
def TextForm.inside (form : TextForm) (text : List Char) : List Char :=
  if form.delimiter = '"' then
    let width := if form.tripled then 2 else 0
    escapedFrom width width text
  else text

/-- A text in the form it gets. A newline follows the opening delimiter when the text has one. -/
def writtenText (text : List Char) : List Char :=
  let form := TextForm.ofText text
  let opening := form.fence ++ (if text.contains '\n' then ['\n'] else [])
  opening ++ form.inside text ++ form.fence

/-- Why a document has no TOML text. Settings can only meet the first cause, since everything else
in them has a form. -/
inductive Unwritable where
  | wideInteger
  | noForm
  deriving DecidableEq, Repr

/-- The text of the reason, in the words of the writer that the tool uses. -/
def Unwritable.message : Unwritable → String
  | .wideInteger => "out-of-range value for u64 type"
  | .noForm => "unsupported value"

/-- A value that is neither a list nor a table. Null has no form in TOML, and neither have integers
beyond 64 bits with a sign. -/
def writtenScalar : Document → Except Unwritable String
  | .boolean value => .ok (toString value)
  | .integer value =>
    if fitsSigned value then .ok (toString value) else .error .wideInteger
  | .real value => .ok (RealLayout.plain.render value)
  | .text value => .ok (.ofList (writtenText value.toList))
  | _ => .error .noForm

/-- Items between brackets: none and one on the same line, several on a line each with a comma
behind every one. -/
def bracketed : List String → String
  | [] => "[]"
  | [only] => "[" ++ only ++ "]"
  | many => "[\n" ++ String.join (many.map fun item => "    " ++ item ++ ",\n") ++ "]"

/-- The value of an entry: a scalar, or a list of scalars. Documents of settings hold nothing
deeper. -/
def writtenValue : Document → Except Unwritable String
  | .list items => (items.mapM writtenScalar).map bracketed
  | other => writtenScalar other

/-- An entry on a line of its own, under a bare name. -/
def writtenEntry (entry : String × Document) : Except Unwritable String :=
  (writtenValue entry.2).map fun value => entry.1 ++ " = " ++ value ++ "\n"

/-- The text of a document, which must be a table with bare names. The entries are written in their
order, one after the other. -/
def write : Document → Except Unwritable String
  | .table entries => (entries.mapM writtenEntry).map String.join
  | _ => .error .noForm

end CustomerKeys.Toml
