/-!
# Durations

A duration is a whole number of nanoseconds whose seconds fit in 64 bits. Adding durations has no
answer past that bound; a sum of many has none exactly when the total passes it.
-/

namespace CustomerKeys

/-- Nanoseconds in a second. Durations are counted in nanoseconds, so that the whole seconds of a
schedule and the milliseconds of a clock can be added without rounding. -/
def nanosPerSecond : Nat := 1000000000

/-- A length of time in nanoseconds, below 2⁶⁴ seconds. The bound is part of the value, so a
duration that has been built never has to be checked again. -/
structure Duration where
  nanos : Nat
  bounded : nanos < UInt64.size * nanosPerSecond
  deriving DecidableEq

namespace Duration

/-- No time at all: what a wait has slept before its first sleep, and the sum of no durations. -/
def zero : Duration := ⟨0, by decide⟩

/-- A duration of so many nanoseconds, if they keep the bound. Every sum of durations goes through
here, and this is the only way in which it can fail to exist. -/
def ofNanos? (nanos : Nat) : Option Duration :=
  if bounded : nanos < UInt64.size * nanosPerSecond then some ⟨nanos, bounded⟩ else none

/-- A duration of whole seconds. It exists for every number of 64 bits, since the bound is stated in
seconds, so a single wait of a schedule is never too long. -/
def ofSeconds (seconds : UInt64) : Duration where
  nanos := seconds.toNat * nanosPerSecond
  bounded := Nat.mul_lt_mul_of_pos_right seconds.toNat_lt (by decide)

/-- The sum of two durations, if it keeps the bound. A wait adds its sleeps up in this way one by
one and cannot go on when there is no sum. -/
def add? (first second : Duration) : Option Duration := ofNanos? (first.nanos + second.nanos)

/-- The sum of a list of durations, if it keeps the bound. No partial sum is greater than the whole,
so the list can then be added up one by one as well. -/
def total? (durations : List Duration) : Option Duration :=
  ofNanos? (durations.foldr (fun duration sum => duration.nanos + sum) 0)

/-- A duration is its number of nanoseconds: two durations with the same number are equal, since the
bound that comes along is a proof. -/
@[ext] theorem ext_nanos {first second : Duration} (same : first.nanos = second.nanos) :
    first = second := by
  cases first; cases second; simp_all

/-- A sum exists exactly when the nanoseconds add up within the bound, and then it is that sum.
Later proofs about waits use this law and not the test behind it. -/
theorem add?_eq_some_iff {first second sum : Duration} :
    first.add? second = some sum ↔ first.nanos + second.nanos = sum.nanos := by
  have bounded := sum.bounded
  unfold add? ofNanos?
  split
  · simp only [Option.some.injEq]
    exact ⟨fun same => by rw [← same], fun same => ext_nanos same⟩
  · simp only [reduceCtorEq, false_iff]
    omega

end Duration

end CustomerKeys
