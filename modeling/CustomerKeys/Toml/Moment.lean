import CustomerKeys.Text.Digits
import CustomerKeys.Text.Reader

/-!
# Dates and times

A date is a day of the Gregorian calendar, written year, month, day. A time has seconds, perhaps
with a fraction, and the sixtieth second of a minute is allowed for the sake of leap seconds. A date
may be followed by a time, and that by an offset. Only whether a text begins with one of these
matters here, and where it ends; the value is not kept.
-/

namespace CustomerKeys.Toml

open CustomerKeys.Text (Reader valueOfDigits spanWhile)

/-- A number of exactly so many decimal digits. More digits than that are left for what comes next.
-/
def fixedDigits (count : Nat) : Reader Nat := fun text =>
  let digits := text.take count
  if digits.length = count ∧ digits.all Char.isDigit then
    some (valueOfDigits 10 digits, text.drop count)
  else none

/-- A given character, as dates and times have them between their numbers. -/
def mark (expected : Char) : List Char → Option (List Char)
  | c :: rest => if c = expected then some rest else none
  | [] => none

/-- The year has a twenty-ninth of February, by the rule of the Gregorian calendar for all years. -/
def isLeapYear (year : Nat) : Bool := year % 4 = 0 && (year % 100 ≠ 0 || year % 400 = 0)

/-- The number of days of a month; there are none in a month that does not exist, so such a date is
refused with its day. -/
def daysInMonth (year month : Nat) : Nat :=
  if month = 2 then if isLeapYear year then 29 else 28
  else if month ∈ [4, 6, 9, 11] then 30
  else if 1 ≤ month ∧ month ≤ 12 then 31
  else 0

/-- The text behind a date, whose month must exist and have that day. -/
def afterDate (text : List Char) : Option (List Char) := do
  let (year, rest) ← fixedDigits 4 text
  let (month, rest) ← fixedDigits 2 (← mark '-' rest)
  let (day, rest) ← fixedDigits 2 (← mark '-' rest)
  if 1 ≤ day ∧ day ≤ daysInMonth year month then some rest else none

/-- The text behind the fraction of a second, which may be missing. A point has to be followed by a
digit. -/
def afterFraction : List Char → List Char
  | '.' :: rest =>
    let (digits, beyond) := spanWhile Char.isDigit rest
    if digits.isEmpty then '.' :: rest else beyond
  | text => text

/-- The text behind hours and minutes, each with two digits and within their bounds. -/
def afterMinutes (text : List Char) : Option (List Char) := do
  let (hour, rest) ← fixedDigits 2 text
  let (minute, rest) ← fixedDigits 2 (← mark ':' rest)
  if hour ≤ 23 ∧ minute ≤ 59 then some rest else none

/-- The text behind a time. Seconds have to be given and may be sixty, for the minutes that have one
more. -/
def afterTime (text : List Char) : Option (List Char) := do
  let (second, rest) ← fixedDigits 2 (← mark ':' (← afterMinutes text))
  if second ≤ 60 then some (afterFraction rest) else none

/-- The text behind the offset of a time, which may be missing: the letter for none, or hours and
minutes behind a sign. -/
def afterOffset (text : List Char) : List Char :=
  match text with
  | [] => []
  | c :: rest =>
    if c = 'Z' ∨ c = 'z' then rest
    else if c = '+' ∨ c = '-' then (afterMinutes rest).getD text
    else text

/-- The text behind the time that may follow a date, apart from it by a letter or a single space. -/
def afterTimeOfDay (text : List Char) : List Char :=
  match text with
  | [] => []
  | c :: rest =>
    if c = 'T' ∨ c = 't' ∨ c = ' ' then
      match afterTime rest with
      | some beyond => afterOffset beyond
      | none => text
    else text

/-- The text behind a date, a time, or both. Only where it ends is asked, as the value of a moment
is never used. -/
def afterMoment (text : List Char) : Option (List Char) :=
  match afterDate text with
  | some rest => some (afterTimeOfDay rest)
  | none => afterTime text

end CustomerKeys.Toml
