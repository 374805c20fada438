import CustomerKeys.Document.Basic
import CustomerKeys.Text.Digits
import CustomerKeys.Text.Reader

/-!
# Numbers

Digits may be grouped by single underscores. An integer has no leading zeros and fits in 64 bits
with its sign; without a sign it may also be hexadecimal, octal or binary. A number with a fraction
or an exponent is a double. One too large to be a double is refused, while one too far below zero
becomes the negative infinity.
-/

namespace CustomerKeys.Toml

open CustomerKeys.Text (Reader isHexDigit valueOfDigits)

/-- Digits without the single underscores between them, and the rest. An underscore counts only
between two digits. -/
def groupedDigits (isDigit : Char → Bool) : List Char → List Char × List Char
  | '_' :: c :: rest =>
    if isDigit c then
      let (others, rest) := groupedDigits isDigit rest
      (c :: others, rest)
    else ([], '_' :: c :: rest)
  | c :: rest =>
    if isDigit c then
      let (others, rest) := groupedDigits isDigit rest
      (c :: others, rest)
    else ([], c :: rest)
  | [] => ([], [])

/-- Digits, at least one, the first of which has no underscore before it. -/
def digits (isDigit : Char → Bool) : Reader (List Char)
  | [] => none
  | c :: rest => if isDigit c then some (groupedDigits isDigit (c :: rest)) else none

/-- The digits of a decimal integer: a zero stands alone, so numbers with leading zeros are refused
behind it. -/
def wholeDigits : Reader (List Char)
  | '0' :: rest => some (['0'], rest)
  | text => digits Char.isDigit text

/-- Whether a minus sign stands in front, and the text without its sign. A plus is allowed and says
nothing. -/
def sign : List Char → Bool × List Char
  | '-' :: rest => (true, rest)
  | '+' :: rest => (false, rest)
  | text => (false, text)

/-- The exponent of a double, which may be missing. Here its digits may begin with zeros. -/
def exponent : Reader (Option Int)
  | [] => some (none, [])
  | c :: rest =>
    if c = 'e' ∨ c = 'E' then
      let (negative, rest) := sign rest
      (digits Char.isDigit rest).map fun (found, rest) =>
        let value : Int := valueOfDigits 10 found
        (some (if negative then -value else value), rest)
    else some (none, c :: rest)

/-- The digits behind a decimal point, if there is one. They may be grouped like those before it. -/
def fraction : Reader (Option (List Char))
  | '.' :: rest => (digits Char.isDigit rest).map fun (found, rest) => (some found, rest)
  | text => some (none, text)

/-- An integer that fits in 64 bits with its sign. There are no others in TOML, so what does not fit
is refused. -/
def bounded? (value : Int) : Option Document :=
  if fitsSigned value then some (.integer value) else none

/-- A double unless it is the positive infinity. A literal too large for a double is refused, while
the negative one is not. -/
def finite? (value : Binary64) : Option Document :=
  if value = .infinite false then none else some (.real value)

/-- A decimal number without its sign. It is a double when it has a point or an exponent, and an
integer otherwise. -/
def decimal (negative : Bool) : Reader Document := fun text => do
  let (whole, rest) ← wholeDigits text
  let (part, rest) ← fraction rest
  let (power, rest) ← exponent rest
  if part.isNone ∧ power.isNone then
    let value : Int := valueOfDigits 10 whole
    return (← bounded? (if negative then -value else value), rest)
  else
    let part := part.getD []
    let value := Binary64.ofDecimal negative (valueOfDigits 10 (whole ++ part))
      (power.getD 0 - (part.length : Int))
    return (← finite? value, rest)

/-- An integer in another base, its mark being read already. Such an integer has no sign. -/
def inBase (base : Nat) (isDigit : Char → Bool) : Reader Document := fun text => do
  let (found, rest) ← digits isDigit text
  return (← bounded? (valueOfDigits base found), rest)

/-- A number or one of the words for infinity and for what is not a number. Decimal numbers and the
words may have a sign in front. -/
def number : Reader Document
  | '0' :: 'x' :: rest => inBase 16 isHexDigit rest
  | '0' :: 'o' :: rest => inBase 8 (fun c => '0' ≤ c && c ≤ '7') rest
  | '0' :: 'b' :: rest => inBase 2 (fun c => c = '0' || c = '1') rest
  | text =>
    match sign text with
    | (negative, 'i' :: 'n' :: 'f' :: rest) => some (.real (.infinite negative), rest)
    | (_, 'n' :: 'a' :: 'n' :: rest) => some (.real .notANumber, rest)
    | (negative, rest) => decimal negative rest

end CustomerKeys.Toml
