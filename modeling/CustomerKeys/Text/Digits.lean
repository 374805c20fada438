/-!
# Digits

Reading numbers from their digits. Decimal digits are read by the standard library; this module
adds hexadecimal ones and the scan that takes digits off the front of a text.
-/

namespace CustomerKeys.Text

/-- The character is a hexadecimal digit, in large or small letters. Escapes in JSON and TOML are
written with them. -/
def isHexDigit (c : Char) : Bool :=
  c.isDigit || ('a' ≤ c && c ≤ 'f') || ('A' ≤ c && c ≤ 'F')

/-- The value of a hexadecimal digit; other characters count as zero. The readers only ask it of
characters that they have found to be digits. -/
def digitValue (c : Char) : Nat :=
  if c.isDigit then c.toNat - '0'.toNat
  else if 'a' ≤ c ∧ c ≤ 'f' then 10 + (c.toNat - 'a'.toNat)
  else if 'A' ≤ c ∧ c ≤ 'F' then 10 + (c.toNat - 'A'.toNat)
  else 0

/-- The number that digits write in a base, the first of them counting most. Without digits it is
zero. -/
def valueOfDigits (base : Nat) (digits : List Char) : Nat :=
  digits.foldl (fun value c => value * base + digitValue c) 0

/-- The character with a code point, if the point is one of a character: not a surrogate and not
beyond the last plane. -/
def charOfPoint? (point : Nat) : Option Char :=
  if point < 0xd800 ∨ (0xdfff < point ∧ point < 0x110000) then some (Char.ofNat point) else none

/-- The leading characters with a property, and the rest, which begins with the first character that
lacks it or is empty. -/
def spanWhile (property : Char → Bool) (text : List Char) : List Char × List Char :=
  (text.takeWhile property, text.dropWhile property)

end CustomerKeys.Text
