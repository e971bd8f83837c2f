/-! Sets of code points given by the points at which membership changes. A number belongs to the set
when an odd number of bounds is at or below it, so a table of ranges `[a, b)` is the sorted list
`a, b, a', b', …`. -/

namespace BigO.Text

/-- A set of numbers, by the sorted bounds at which membership changes. -/
structure Ranges where
  bounds : Array Nat

namespace Ranges

/-- How many of the bounds between `lo` and `hi` and before them are at or below `n`, by halving the
interval at most `steps` times. -/
def countFrom (bounds : Array Nat) (n : Nat) : (steps lo hi : Nat) → Nat
  | 0, lo, _ => lo
  | steps + 1, lo, hi =>
    if lo < hi then
      let mid := (lo + hi) / 2
      if bounds.getD mid 0 ≤ n then countFrom bounds n steps (mid + 1) hi
      else countFrom bounds n steps lo mid
    else lo

/-- How many bounds are at or below `n`. Seventeen halvings are enough for any table here. -/
def count (r : Ranges) (n : Nat) : Nat := countFrom r.bounds n 17 0 r.bounds.size

/-- Membership: the number of bounds at or below `n` is odd. -/
def contains (r : Ranges) (n : Nat) : Bool := r.count n % 2 == 1

end Ranges

end BigO.Text
