/-!
# Double-precision numbers

A finite double is a signed natural mantissa times a power of two. `ofDecimal` rounds a decimal
literal to the nearest double, an exact half going to the even mantissa; a literal beyond the
largest double becomes an infinity and one below half the smallest becomes a signed zero. All of
it is exact arithmetic on natural numbers.
-/

namespace CustomerKeys

/-- A double. The finite value is `mantissa * 2 ^ exponent`, negated when `negative` holds. -/
inductive Binary64 where
  | finite (negative : Bool) (mantissa : Nat) (exponent : Int)
  | infinite (negative : Bool)
  | notANumber
  deriving DecidableEq, Repr

namespace Binary64

/-- The number of decimal digits of a natural number; zero has one. It tells the magnitude of a
literal before its power of ten is computed. -/
def digitCount (n : Nat) : Nat := (Nat.toDigits 10 n).length

/-- The integer nearest to a quotient; an exact half goes to the even neighbour, as the rounding of
doubles demands. -/
def nearestQuotient (numerator denominator : Nat) : Nat :=
  let below := numerator / denominator
  let rest := numerator % denominator
  if 2 * rest < denominator then below
  else if denominator < 2 * rest then below + 1
  else if below % 2 = 0 then below
  else below + 1

/-- The numerator and denominator of a ratio divided by `2 ^ exponent`, with whole numbers for
either sign of the exponent. -/
def unscaled (numerator denominator : Nat) (exponent : Int) : Nat × Nat :=
  match exponent with
  | .ofNat up => (numerator, denominator * Nat.pow 2 up)
  | .negSucc down => (numerator * Nat.pow 2 (down + 1), denominator)

/-- Mantissas stay below this bound: they have 53 binary digits, and the exponent says where these
stand. -/
def mantissaBound : Nat := 9007199254740992

/-- The exponent at which a positive ratio has a mantissa of 53 binary digits, but never below the
least exponent of a double. The first guess is at most one too small. -/
def mantissaExponent (numerator denominator : Nat) : Int :=
  let guess : Int := (numerator.log2 : Int) - (denominator.log2 : Int) - 53
  let (scaledNumerator, scaledDenominator) := unscaled numerator denominator guess
  let exponent :=
    if scaledNumerator / scaledDenominator < mantissaBound then guess else guess + 1
  if exponent < -1074 then -1074 else exponent

/-- The double nearest to a ratio of natural numbers with the given sign. -/
def ofRatio (negative : Bool) (numerator denominator : Nat) : Binary64 :=
  if numerator = 0 then .finite negative 0 (-1074)
  else
    let exponent := mantissaExponent numerator denominator
    let (scaledNumerator, scaledDenominator) := unscaled numerator denominator exponent
    let mantissa := nearestQuotient scaledNumerator scaledDenominator
    let (mantissa, exponent) :=
      if mantissa = mantissaBound then (mantissaBound / 2, exponent + 1) else (mantissa, exponent)
    if 971 < exponent then .infinite negative else .finite negative mantissa exponent

/-- The double nearest to `digits * 10 ^ exponent` with the given sign. Literals far outside the
range of a double are decided by their magnitude alone, so no power of ten grows without bound. -/
def ofDecimal (negative : Bool) (digits : Nat) (exponent : Int) : Binary64 :=
  let magnitude := (digitCount digits : Int) + exponent
  if digits = 0 ∨ magnitude < -330 then .finite negative 0 (-1074)
  else if 310 < magnitude then .infinite negative
  else match exponent with
    | .ofNat up => ofRatio negative (digits * Nat.pow 10 up) 1
    | .negSucc down => ofRatio negative digits (Nat.pow 10 (down + 1))

end Binary64

end CustomerKeys
