/-!
# Intervals

The time between two reloads, in nanoseconds. It is at least a millisecond; a shorter
one that is asked for becomes a millisecond.
-/

namespace LastGood

/-- The time between two reloads. -/
structure Interval where
  /-- The number of nanoseconds. -/
  nanos : Nat
  /-- There are enough of them. -/
  enough : 1000000 ≤ nanos := by decide
  deriving DecidableEq, Repr

namespace Interval

/-- The interval in use when a number of nanoseconds is asked for. -/
def ofNanos (nanos : Nat) : Interval := ⟨max 1000000 nanos, Nat.le_max_left ..⟩

/-- The interval in use when a number of microseconds is asked for. -/
def ofMicros (micros : Nat) : Interval := ofNanos (micros * 1000)

/-- The interval of a number of seconds. -/
def ofSeconds (seconds : Nat) : Interval := ofNanos (seconds * 1000000000)

/-- The whole microseconds of an interval. -/
def micros (interval : Interval) : Nat := interval.nanos / 1000

/-- A fraction of `10 ^ width` as decimal places, without zeros at the end. -/
def placesText (width fraction : Nat) : String :=
  let digits := Nat.toDigits 10 fraction
  let padded := List.replicate (width - digits.length) '0' ++ digits
  let kept := (padded.reverse.dropWhile (· == '0')).reverse
  if kept.isEmpty then "" else String.ofList ('.' :: kept)

/-- The interval in words: seconds if there is a whole one, and milliseconds otherwise. -/
def text (interval : Interval) : String :=
  let n := interval.nanos
  if 1000000000 ≤ n then toString (n / 1000000000) ++ placesText 9 (n % 1000000000) ++ "s"
  else toString (n / 1000000) ++ placesText 6 (n % 1000000) ++ "ms"

end Interval

end LastGood
