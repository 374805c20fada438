import CustomerKeys.Document.Basic
import CustomerKeys.Text.Digits
import CustomerKeys.Text.Reader
import Std.Data.ExtTreeMap

/-!
# Documents from JSON text

The reader takes a whole text and answers with the document it denotes, or with nothing. Tables come
out sorted by name, and of two entries with one name the later one counts. An integer stays an
integer while it fits in 64 bits, with or without sign; every other number, a negative zero among
them, becomes a double. Lists and tables nest at most 127 deep.
-/

namespace CustomerKeys.Json

open Text (Reader Listing collect word)

/-- The text without leading blanks, which are the four that JSON knows: the space, the tab and the
two characters that end lines. -/
def skipBlanks (text : List Char) : List Char :=
  text.dropWhile fun c => c = ' ' || c = '\t' || c = '\n' || c = '\r'

/-- The four hexadecimal digits of an escape, in large or small letters, as the unit of 16 bits that
they write. -/
def hexUnit : Reader Nat
  | a :: b :: c :: d :: rest =>
    if [a, b, c, d].all Text.isHexDigit then some (Text.valueOfDigits 16 [a, b, c, d], rest)
    else none
  | _ => none

/-- The character of an escape that starts with the given unit. A leading surrogate must be followed
by the escape of a trailing one. -/
def unitCharacter (unit : Nat) : Reader Char := fun rest =>
  if 0xd800 ≤ unit ∧ unit < 0xdc00 then
    match rest with
    | '\\' :: 'u' :: rest => do
      let (second, rest) ← hexUnit rest
      if 0xdc00 ≤ second ∧ second < 0xe000 then
        let point := 0x10000 + (unit - 0xd800) * 0x400 + (second - 0xdc00)
        return (← Text.charOfPoint? point, rest)
      else none
    | _ => none
  else do return (← Text.charOfPoint? unit, rest)

/-- The character that an escape letter stands for. The solidus may be escaped, but never has to be.
-/
def letterEscape? : Char → Option Char
  | '"' => some '"'
  | '\\' => some '\\'
  | '/' => some '/'
  | 'b' => some '\x08'
  | 'f' => some '\x0c'
  | 'n' => some '\n'
  | 'r' => some '\r'
  | 't' => some '\t'
  | _ => none

/-- One character of a text, or the end of the text. Characters below the blank must be escaped, and
a lone surrogate is refused. -/
def textStep : Reader (Option Char)
  | '"' :: rest => some (none, rest)
  | '\\' :: 'u' :: rest => do
    let (unit, rest) ← hexUnit rest
    let (c, rest) ← unitCharacter unit rest
    return (some c, rest)
  | '\\' :: letter :: rest => do return (some (← letterEscape? letter), rest)
  | c :: rest => if c.toNat < 0x20 then none else some (some c, rest)
  | [] => none

/-- The characters of a text after its opening quote, up to the closing one and without it. -/
def textBody : Reader (List Char) := collect textStep

/-- Digits, at least one. They go on as long as there are any. -/
def digits : Reader (List Char) := fun text =>
  let (found, rest) := Text.spanWhile Char.isDigit text
  if found.isEmpty then none else some (found, rest)

/-- The digits of an integer: a zero stands alone, so what follows it is not a part of the number.
-/
def wholeDigits : Reader (List Char)
  | '0' :: rest => some (['0'], rest)
  | text => digits text

/-- The digits behind a decimal point, if there is one. A point without digits is refused. -/
def fraction : Reader (Option (List Char))
  | '.' :: rest => (digits rest).map fun (found, rest) => (some found, rest)
  | text => some (none, text)

/-- The exponent, if there is one: a letter, perhaps a sign, and at least one digit. -/
def exponent : Reader (Option Int) := fun text =>
  match text with
  | mark :: rest =>
    if mark = 'e' ∨ mark = 'E' then
      match rest with
      | '-' :: rest =>
        (digits rest).map fun (found, rest) => (some (- (Nat.ofDigitChars 10 found 0 : Int)), rest)
      | '+' :: rest =>
        (digits rest).map fun (found, rest) => (some (Nat.ofDigitChars 10 found 0 : Int), rest)
      | rest =>
        (digits rest).map fun (found, rest) => (some (Nat.ofDigitChars 10 found 0 : Int), rest)
    else some (none, text)
  | [] => some (none, [])

/-- The number that an integer literal denotes: an integer as far as 64 bits reach with or without a
sign, and a double beyond. -/
def integerLiteral (negative : Bool) (value : Nat) : Document :=
  if negative then
    if 0 < value ∧ value ≤ signedBound then .integer (- (value : Int))
    else .real (.ofDecimal true value 0)
  else if value < UInt64.size then .integer value
  else .real (.ofDecimal false value 0)

/-- A number behind its sign, if it had one. It is an integer only when it is written without a
point and without an exponent. -/
def unsignedNumber (negative : Bool) : Reader Document := fun text => do
  let (whole, rest) ← wholeDigits text
  let (part, rest) ← fraction rest
  let (power, rest) ← exponent rest
  match part, power with
  | none, none => return (integerLiteral negative (Nat.ofDigitChars 10 whole 0), rest)
  | _, _ =>
    let part := part.getD []
    let value := Nat.ofDigitChars 10 (whole ++ part) 0
    let number := Binary64.ofDecimal negative value (power.getD 0 - (part.length : Int))
    return (.real number, rest)

/-- Items between commas, without a comma behind the last one, as both lists and tables have them.
-/
def listing (closing : Char) : Listing := ⟨skipBlanks, closing, false⟩

/-- An entry of a table: a name, a colon and a value, with blanks anywhere between them. -/
def entry (value : Reader Document) : Reader (String × Document)
  | '"' :: rest => do
    let (name, rest) ← textBody rest
    match skipBlanks rest with
    | ':' :: rest =>
      let (document, rest) ← value (skipBlanks rest)
      return ((String.ofList name, document), rest)
    | _ => none
  | _ => none

/-- Entries sorted by name, the last of each name. Texts do not say in which order a table was
written, and neither does what is read from them. -/
def sortedTable (entries : List (String × Document)) : Document :=
  .table (Std.ExtTreeMap.ofList entries).toList

/-- A value with at most so many lists and tables inside one another. Which kind of value it is, is
seen by its first character. -/
def value : Nat → Reader Document
  | _, '"' :: rest => (textBody rest).map fun (text, rest) => (.text (String.ofList text), rest)
  | _, 't' :: rest => word "rue" (.boolean true) rest
  | _, 'f' :: rest => word "alse" (.boolean false) rest
  | _, 'n' :: rest => word "ull" .null rest
  | depth + 1, '[' :: rest =>
    ((listing ']').items (value depth) rest).map fun (items, rest) => (.list items, rest)
  | depth + 1, '\x7b' :: rest =>
    ((listing '\x7d').items (entry (value depth)) rest).map fun (entries, rest) =>
      (sortedTable entries, rest)
  | _, '-' :: rest => unsignedNumber true rest
  | _, text => unsignedNumber false text

/-- The document of a whole text, with nothing but blanks before and behind it. -/
def parse (text : String) : Option Document :=
  match value 127 (skipBlanks text.toList) with
  | some (document, rest) => if (skipBlanks rest).isEmpty then some document else none
  | none => none

end CustomerKeys.Json
