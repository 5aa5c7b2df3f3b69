/-!
# Ranges of code points

A set of characters is written as ranges of code points in ascending order, so that
membership is one binary search.
-/

namespace LastGood.Text

/-- Whether `n` lies in one of the ranges whose index is at least `low` and below
    `high`; the width of that window halves in every step. -/
def inRanges (ranges : Array (Nat × Nat)) (n low high : Nat) : Bool :=
  if high ≤ low then false
  else
    let middle := (low + high) / 2
    match ranges[middle]? with
    | none => false
    | some (first, last) =>
        if n < first then inRanges ranges n low middle
        else if last < n then inRanges ranges n (middle + 1) high
        else true
termination_by high - low
decreasing_by all_goals omega

end LastGood.Text
