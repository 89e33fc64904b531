/-!
# Tables of code points

A class of characters is kept as a list of closed ranges of code points in increasing
order. Looking a code point up stops at the first range that begins beyond it.
-/

namespace ExprScript.Text

namespace RangeTable

/-- Whether the ranges are non-empty, increasing and apart, all from `start` on. -/
def increasingFrom (start : Nat) : List (Nat × Nat) → Bool
  | [] => true
  | (low, high) :: rest => start ≤ low && low ≤ high && increasingFrom (high + 1) rest

/-- Whether one of the ranges holds `n`, if they are increasing. -/
def holds : List (Nat × Nat) → Nat → Bool
  | [], _ => false
  | (low, high) :: rest, n =>
    if n < low then false else if n ≤ high then true else holds rest n

end RangeTable

/-- Closed ranges of code points, the first below the second and so on. -/
structure RangeTable where
  ranges : List (Nat × Nat)
  increasing : RangeTable.increasingFrom 0 ranges = true

/-- Whether some range of the table holds `n`. -/
def RangeTable.covers (table : RangeTable) (n : Nat) : Bool :=
  holds table.ranges n

end ExprScript.Text
