/-!
# Binary floating-point numbers

A finite number is `±significand · 2 ^ exponent` with a significand of at most
fifty-three bits and an exponent of at least `-1074`. Decimal text is rounded to
the nearest such number, a tie going to the even significand; what lies beyond the
largest one becomes infinite. In the other direction a number is shown by the
fewest decimal digits that still round to it, and by the nearest of those.

All arithmetic is exact, on natural numbers, so the two directions can be compared
as theorems; the machine's own floating point is not involved.
-/

namespace LastGood

/-- A binary floating-point number of sixty-four bits, by its meaning. -/
inductive Binary64 where
  /-- The number `±significand · 2 ^ exponent`. -/
  | finite (negative : Bool) (significand : Nat) (exponent : Int)
  /-- An infinity, with its sign. -/
  | infinite (negative : Bool)
  /-- No number. -/
  | nan
  deriving DecidableEq, Repr, Inhabited

namespace Binary64

/-- One more than the greatest significand: two to the power of fifty-three. -/
def significandBound : Nat := 9007199254740992

/-- The least exponent of a finite number. -/
def minExponent : Int := -1074

/-- The greatest exponent of a finite number. -/
def maxExponent : Int := 971

/-- The integer nearest to `num / den`, a tie going to the even one. -/
def nearest (num den : Nat) : Nat :=
  let low := num / den
  let rest := num % den
  if 2 * rest < den then low
  else if den < 2 * rest then low + 1
  else if low % 2 == 0 then low else low + 1

/-- A ratio `num / den` divided by `2 ^ exponent`, as a ratio. -/
def scaled (num den : Nat) (exponent : Int) : Nat × Nat :=
  if 0 ≤ exponent then (num, den * Nat.pow 2 exponent.toNat)
  else (num * Nat.pow 2 (-exponent).toNat, den)

/-- The exponent at which `num / den` has a significand of fifty-three bits, or the
    least exponent if that is larger. -/
def exponentOf (num den : Nat) : Int :=
  let guess : Int := (num.log2 : Int) - (den.log2 : Int) - 53
  let (n, d) := scaled num den guess
  let exact := if significandBound ≤ n / d then guess + 1 else guess
  max exact minExponent

/-- The finite number nearest to the positive ratio `num / den`, with a sign. -/
def ofRatio (negative : Bool) (num den : Nat) : Binary64 :=
  if num == 0 then .finite negative 0 minExponent
  else
    let exponent := exponentOf num den
    let (n, d) := scaled num den exponent
    let significand := nearest n d
    let (significand, exponent) :=
      if significand == significandBound then (significandBound / 2, exponent + 1)
      else (significand, exponent)
    if maxExponent < exponent then .infinite negative
    else .finite negative significand exponent

/-- The finite number nearest to `±digits · 10 ^ power`. Powers so large or so small
    that the answer is an infinity or zero are settled without the arithmetic. -/
def ofDecimal (negative : Bool) (digits : Nat) (power : Int) : Binary64 :=
  let width : Int := ((Nat.toDigits 10 digits).length : Int)
  if digits == 0 then .finite negative 0 minExponent
  else if 310 < width + power then .infinite negative
  else if width + power < -330 then .finite negative 0 minExponent
  else if 0 ≤ power then ofRatio negative (digits * Nat.pow 10 power.toNat) 1
  else ofRatio negative digits (Nat.pow 10 (-power).toNat)

/-- Whether the number is neither infinite nor undefined. -/
def isFinite : Binary64 → Bool
  | .finite .. => true
  | _ => false

/-- The ratio `num / den` divided by `10 ^ power`, as a ratio. -/
def decimalScaled (num den : Nat) (power : Int) : Nat × Nat :=
  if 0 ≤ power then (num, den * Nat.pow 10 power.toNat)
  else (num * Nat.pow 10 (-power).toNat, den)

/-- The power of ten of the leading digit of the positive ratio `num / den`. -/
def leadingPower (num den : Nat) : Int :=
  if den ≤ num then ((Nat.toDigits 10 (num / den)).length : Int) - 1
  else
    let zeros := (List.range 400).find? fun j => den ≤ num * Nat.pow 10 (j + 1)
    Int.negSucc (zeros.getD 400)

/-- The numbers that round to a given one, as an interval of ratios over one
    denominator: the value itself, the two ends, and whether the ends belong to it. -/
structure Neighbourhood where
  /-- Numerator of the value. -/
  value : Nat
  /-- Numerator of the lower end. -/
  low : Nat
  /-- Numerator of the upper end. -/
  high : Nat
  /-- The common denominator. -/
  den : Nat
  /-- Whether the two ends round to the value as well. -/
  closed : Bool

/-- The interval around `significand · 2 ^ exponent`. Just above a power of two the
    gap below is half as wide as the gap above. -/
def neighbourhood (significand : Nat) (exponent : Int) : Neighbourhood :=
  let unit : Nat := if 2 ≤ exponent then Nat.pow 2 (exponent - 2).toNat else 1
  let den : Nat := if 2 ≤ exponent then 1 else Nat.pow 2 (2 - exponent).toNat
  let narrow := significand == significandBound / 2 && decide (minExponent < exponent)
  { value := 4 * significand * unit
    low := (4 * significand - (if narrow then 1 else 2)) * unit
    high := (4 * significand + 2) * unit
    den := den
    closed := significand % 2 == 0 }

/-- The better of the two decimals with `power` as the place of their last digit that
    enclose the value, if one of them lies in the interval. -/
def Neighbourhood.onGrid? (near : Neighbourhood) (power : Int) : Option Nat :=
  let (num, den) := decimalScaled near.value near.den power
  let below := num / den
  let inside (digits : Nat) : Bool :=
    let (lowNum, lowDen) := decimalScaled near.low near.den power
    let (highNum, highDen) := decimalScaled near.high near.den power
    if near.closed then decide (lowNum ≤ digits * lowDen) && decide (digits * highDen ≤ highNum)
    else decide (lowNum < digits * lowDen) && decide (digits * highDen < highNum)
  let distanceBelow := num - below * den
  let distanceAbove := (below + 1) * den - num
  match inside below, inside (below + 1) with
  | true, true =>
      if distanceBelow < distanceAbove then some below
      else if distanceAbove < distanceBelow then some (below + 1)
      else if below % 2 == 0 then some below else some (below + 1)
  | true, false => some below
  | false, true => some (below + 1)
  | false, false => none

/-- The digits of a positive number without zeros at the end, and the power of ten of
    the last of them. -/
def withoutZeros : Nat → Nat → Int → Nat × Int
  | 0, digits, power => (digits, power)
  | fuel + 1, digits, power =>
      if digits != 0 && digits % 10 == 0 then withoutZeros fuel (digits / 10) (power + 1)
      else (digits, power)

/-- The fewest digits that round to `significand · 2 ^ exponent`, with the power of
    ten of the last digit. Seventeen digits always suffice. -/
def shortest (significand : Nat) (exponent : Int) : Nat × Int :=
  if significand == 0 then (0, 0)
  else
    let near := neighbourhood significand exponent
    let lead := leadingPower near.value near.den
    let attempt := (List.range 17).findSome? fun (count : Nat) =>
      let power := lead - (count : Int)
      (near.onGrid? power).map fun digits => (digits, power)
    let (digits, power) := attempt.getD (0, 0)
    withoutZeros 20 digits power

end Binary64

end LastGood
