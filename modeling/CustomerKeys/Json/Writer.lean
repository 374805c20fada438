import CustomerKeys.Document.Basic

/-!
# Documents as JSON text

Every entry of a list or a table has a line of its own, with an indent of two blanks a level; an
empty list or table stays on its line. Texts escape the quote, the backslash and the control
characters below the blank; those with a letter of their own use it.
-/

namespace CustomerKeys.Json

/-- A control character as a four-digit escape, for those that have no letter of their own. -/
def controlEscape (c : Char) : List Char :=
  let digits := Text.hexDigits c.toNat
  '\\' :: 'u' :: List.replicate (4 - digits.length) '0' ++ digits

/-- How one character is written inside a text: the quote, the backslash and the control characters
are escaped, every other stands for itself. -/
def escaped (c : Char) : List Char :=
  if c = '"' then ['\\', '"']
  else if c = '\\' then ['\\', '\\']
  else if c = '\n' then ['\\', 'n']
  else if c = '\r' then ['\\', 'r']
  else if c = '\t' then ['\\', 't']
  else if c = '\x08' then ['\\', 'b']
  else if c = '\x0c' then ['\\', 'f']
  else if c.toNat < 0x20 then controlEscape c
  else [c]

/-- A text between quotes, as values and as the names of entries are written. -/
def quotedText (text : String) : String :=
  String.ofList ('"' :: text.toList.flatMap escaped ++ ['"'])

/-- A number. What is not finite has no form in JSON and becomes null. -/
def number : Binary64 → String
  | .finite negative mantissa exponent =>
    RealLayout.compact.render (.finite negative mantissa exponent)
  | _ => "null"

/-- A document without lists and tables, which is written on the line on which it begins. Dates have
no form here. -/
def scalar? : Document → Option String
  | .null => some "null"
  | .boolean value => some (toString value)
  | .integer value => some (toString value)
  | .real value => some (number value)
  | .text value => some (quotedText value)
  | .moment => some "null"
  | .list _ => none
  | .table _ => none

/-- The beginning of a line at a level of indentation, two blanks for each. -/
def newline (level : Nat) : String := String.ofList ('\n' :: List.replicate (2 * level) ' ')

/-- Pieces between brackets, each on a line of its own, one level further in than the brackets. With
nothing between them the brackets stand together. -/
def bracketed (level : Nat) (opening closing : String) (pieces : List String) : String :=
  if pieces.isEmpty then opening ++ closing
  else
    let lines := pieces.map fun piece => newline (level + 1) ++ piece
    opening ++ String.intercalate "," lines ++ newline level ++ closing

mutual

/-- A document whose first line is indented to a level. The level matters only for the lines that
follow the first. -/
def render (level : Nat) : Document → String
  | .list items => bracketed level "[" "]" (renderItems (level + 1) items)
  | .table entries => bracketed level "\x7b" "\x7d" (renderEntries (level + 1) entries)
  | other => (scalar? other).getD ""

/-- The items of a list, each rendered at the level of the lines on which they are put. -/
def renderItems (level : Nat) : List Document → List String
  | [] => []
  | item :: rest => render level item :: renderItems level rest

/-- The entries of a table, each the quoted name with its value behind a colon, in the order in
which they stand. -/
def renderEntries (level : Nat) : List (String × Document) → List String
  | [] => []
  | (name, value) :: rest =>
    (quotedText name ++ ": " ++ render level value) :: renderEntries level rest

end

/-- The text of a whole document, as the reports of a run are printed when JSON is asked for. -/
def pretty (document : Document) : String := render 0 document

end CustomerKeys.Json
