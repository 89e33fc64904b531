import ExprScript.Number.Basic
import ExprScript.Text.DecimalDigit

/-!
# Shortest decimals

A positive finite number is written with the fewest decimal digits that no other number
is nearer to, and of those decimals with the one nearest to it.

All decimals that lie between the midpoints to the two neighbouring numbers read back as
the number itself; the midpoints belong to it when its significand is even. Counting in
quarters of the last place, the number is `4 * m` for the significand `m`, the upper
midpoint is `4 * m + 2` and the lower one `4 * m - 2`, or `4 * m - 1` where the numbers
below are twice as dense.
-/

namespace ExprScript.Number

/-- A positive decimal `digits * 10 ^ scale`. -/
structure Decimal where
  digits : Nat
  scale : Int

/-- A positive number with the bounds of what reads back as it, all over one denominator:
the number is `value / denominator`. -/
structure Reading where
  value : Nat
  low : Nat
  high : Nat
  denominator : Nat
  closed : Bool

/-- What reads back as the magnitude of the given rank. -/
def reading (rank : Nat) : Reading :=
  let m := significand rank
  let below := if m = fractions ∧ fractions < rank then 1 else 2
  let quarter := exponent rank - 2
  let up := Nat.pow 2 quarter.toNat
  { value := 4 * m * up
    low := (4 * m - below) * up
    high := (4 * m + 2) * up
    denominator := Nat.pow 2 (-quarter).toNat
    closed := m % 2 = 0 }

/-- Whether the decimal `d * 10 ^ e` reads back as the number. -/
def Reading.admits (r : Reading) (d : Nat) (e : Int) : Bool :=
  let x := d * Nat.pow 10 e.toNat * r.denominator
  let unit := Nat.pow 10 (-e).toNat
  if r.closed then r.low * unit ≤ x && x ≤ r.high * unit
  else r.low * unit < x && x < r.high * unit

/-- How many decimal digits `n` has. -/
def digitCount (n : Nat) : Nat :=
  (Text.decimalDigits n).length

/-- The exponent `e` with `10 ^ e ≤ value < 10 ^ (e + 1)`. -/
def Reading.magnitude (r : Reading) : Int :=
  if r.denominator ≤ r.value then (digitCount (r.value / r.denominator) : Int) - 1
  else
    let k := digitCount (r.denominator / r.value)
    if r.denominator ≤ r.value * Nat.pow 10 (k - 1) then 1 - (k : Int) else -(k : Int)

/-- The decimals `d * 10 ^ e` next to the number that read back as it, the nearer one first
and on a tie the even one. -/
def Reading.neighbour? (r : Reading) (e : Int) : Option Nat :=
  let scaled := r.value * Nat.pow 10 (-e).toNat
  let unit := r.denominator * Nat.pow 10 e.toNat
  let d := scaled / unit
  let rest := scaled % unit
  let upFirst := unit < 2 * rest || (unit == 2 * rest && d % 2 == 1)
  let (first, second) := if upFirst then (d + 1, d) else (d, d + 1)
  if r.admits first e then some first
  else if r.admits second e then some second
  else none

/-- The decimal `d * 10 ^ e` without a zero at its end. A neighbour with `count` digits ends
in at most one: only where it is the next power of ten. -/
def Decimal.ofNeighbour (d : Nat) (e : Int) : Decimal :=
  if d % 10 = 0 then ⟨d / 10, e + 1⟩ else ⟨d, e⟩

/-- The first decimal that reads back as the number, with `count` digits or up to `more`
digits more. -/
def Reading.search (r : Reading) (top : Int) : (more count : Nat) → Decimal
  | 0, count =>
    ⟨r.value * Nat.pow 10 (count - 1 - top).toNat / r.denominator, top - (count - 1)⟩
  | more + 1, count =>
    let e := top - (count - 1)
    match r.neighbour? e with
    | some d => .ofNeighbour d e
    | none => r.search top more (count + 1)

/-- The shortest decimal that reads back as the magnitude of the given positive rank. Its
digits do not end in zero. -/
def shortest (rank : Nat) : Decimal :=
  let r := reading rank
  r.search r.magnitude 17 1

end ExprScript.Number
