import CustomerKeys.Number.Binary64

/-!
# Shortest decimal text of a double

`shortestDigits` finds the fewest decimal digits that still read back as the same double, and of
those the ones nearest to its value. The decimals that read back form an interval around the value;
its ends belong to it when the mantissa is even. For one, two, … digits the two decimals next to
the value are tried, and the first hit wins.

Formats differ in two decisions, which `RealLayout` records: which digit an exact half goes to, and
when an exponent takes the place of zeros.
-/

namespace CustomerKeys

/-- Which of two equally near decimals is written. The two formats in which numbers are written
differ in this. -/
inductive Tie where
  | up
  | even
  deriving DecidableEq, Repr

/-- The decimal below is preferred over the one above, given twice the distance to it and the
distance between the two. -/
def Tie.prefersBelow (tie : Tie) (below twiceDistance step : Nat) : Bool :=
  twiceDistance < step || (tie = .even && twiceDistance = step && below % 2 = 0)

namespace Binary64

/-- The interval that rounds to a double, in quarters of the distance to the double above: its
value, how far the interval reaches below and above, and whether its ends belong to it. -/
structure Neighbourhood where
  value : Nat
  below : Nat
  above : Nat
  closed : Bool

/-- The interval of decimals that round to `mantissa * 2 ^ exponent`. The gap below a power of two
is half the gap above it. -/
def neighbourhood (mantissa : Nat) (exponent : Int) : Neighbourhood where
  value := 4 * mantissa
  below := if 2 * mantissa = mantissaBound ∧ -1074 < exponent then 1 else 2
  above := 2
  closed := mantissa % 2 = 0

/-- A count of quarter units as a ratio, each unit being `2 ^ exponent`. The interval of a double
has its ends on quarters. -/
def quarters (count : Nat) (exponent : Int) : Nat × Nat :=
  match exponent with
  | .ofNat up => (count * Nat.pow 2 up, 4)
  | .negSucc down => (count, 4 * Nat.pow 2 (down + 1))

/-- A ratio divided by a power of ten, for either sign of the power. -/
def perPowerOfTen (ratio : Nat × Nat) (exponent : Int) : Nat × Nat :=
  match exponent with
  | .ofNat up => (ratio.1, ratio.2 * Nat.pow 10 up)
  | .negSucc down => (ratio.1 * Nat.pow 10 (down + 1), ratio.2)

/-- The decimal exponent of the leading digit of a positive ratio. The decimals that are tried all
have their first digit there. -/
def leadingExponent (ratio : Nat × Nat) : Int :=
  if ratio.2 ≤ ratio.1 then (digitCount (ratio.1 / ratio.2) : Int) - 1
  else - (digitCount ((ratio.2 - 1) / ratio.1) : Int)

/-- Whether an integer lies in the interval, all three measured on the same decimal grid, with the
ends if they belong to it. -/
def within (closed : Bool) (low high : Nat × Nat) (candidate : Nat) : Bool :=
  if closed then low.1 ≤ candidate * low.2 && candidate * high.2 ≤ high.1
  else low.1 < candidate * low.2 && candidate * high.2 < high.1

/-- The decimal with `count` digits that reads back as the double, if there is one: the nearer of
the two neighbours of the value on that grid. -/
def decimalWithDigits (tie : Tie) (mantissa : Nat) (exponent : Int) (count : Nat) :
    Option (Nat × Int) :=
  let near := neighbourhood mantissa exponent
  let value := quarters near.value exponent
  let grid := leadingExponent value - (count : Int) + 1
  let scaled := perPowerOfTen value grid
  let low := perPowerOfTen (quarters (near.value - near.below) exponent) grid
  let high := perPowerOfTen (quarters (near.value + near.above) exponent) grid
  let down := scaled.1 / scaled.2
  let rest := scaled.1 % scaled.2
  let fits := within near.closed low high
  if rest = 0 then some (down, grid)
  else if fits down && (tie.prefersBelow down (2 * rest) scaled.2 || !fits (down + 1)) then
    some (down, grid)
  else if fits (down + 1) then some (down + 1, grid)
  else none

/-- Digits and decimal exponent without trailing zeros. The bound counts the digits that may still
be dropped. -/
def withoutTrailingZeros : Nat → Nat → Int → Nat × Int
  | 0, digits, exponent => (digits, exponent)
  | bound + 1, digits, exponent =>
    if digits % 10 = 0 then withoutTrailingZeros bound (digits / 10) (exponent + 1)
    else (digits, exponent)

/-- The shortest decimal that reads back as a positive finite double. Seventeen digits always
suffice. -/
def shortestDigits (tie : Tie) (mantissa : Nat) (exponent : Int) : Nat × Int :=
  let found := (List.range 17).findSome? fun shorter =>
    decimalWithDigits tie mantissa exponent (shorter + 1)
  let (digits, power) := found.getD (mantissa, exponent)
  withoutTrailingZeros (digitCount digits) digits power

end Binary64

/-- How a format writes numbers. `positional point` is asked with the place of the decimal point,
counted from the first digit; where it does not hold, one digit stands before the point and an
exponent follows. -/
structure RealLayout where
  tie : Tie
  positional : Int → Bool

namespace RealLayout

/-- Every number is written out in full, and a half goes up. TOML and the messages about it use this
layout. -/
def plain : RealLayout := ⟨.up, fun _ => true⟩

/-- An exponent appears from the seventeenth integer digit on and after five leading zeros; a half
goes to the even digit. -/
def compact : RealLayout := ⟨.even, fun point => -5 < point && point ≤ 16⟩

/-- Digits with the point at a given place and at least one digit on either side of it. -/
def placePoint (digits : List Char) (point : Int) : List Char :=
  match point with
  | .negSucc before => '0' :: '.' :: List.replicate (before + 1) '0' ++ digits
  | .ofNat 0 => '0' :: '.' :: digits
  | .ofNat place =>
    let padded := digits ++ List.replicate (place - digits.length) '0'
    let fraction := padded.drop place
    padded.take place ++ '.' :: (if fraction.isEmpty then ['0'] else fraction)

/-- An exponent with its sign, which is written in front of a positive one too. -/
def signedExponent : Int → List Char
  | .ofNat up => '+' :: Nat.toDigits 10 up
  | .negSucc down => '-' :: Nat.toDigits 10 (down + 1)

/-- One digit, the others behind a point, and the exponent of the first. A single digit stands
without a point. -/
def withExponent (digits : List Char) (point : Int) : List Char :=
  let exponent := signedExponent (point - 1)
  match digits with
  | [] => []
  | [digit] => digit :: 'e' :: exponent
  | digit :: others => digit :: '.' :: others ++ 'e' :: exponent

/-- The text of a double under a layout. A finite number always shows that it is no integer: it has
a point or an exponent. -/
def render (layout : RealLayout) : Binary64 → String
  | .notANumber => "NaN"
  | .infinite negative => if negative then "-inf" else "inf"
  | .finite negative 0 _ => if negative then "-0.0" else "0.0"
  | .finite negative mantissa exponent =>
    let (digits, power) := Binary64.shortestDigits layout.tie mantissa exponent
    let shown := Nat.toDigits 10 digits
    let point := (shown.length : Int) + power
    let body := if layout.positional point then placePoint shown point else withExponent shown point
    String.ofList (if negative then '-' :: body else body)

end RealLayout

end CustomerKeys
