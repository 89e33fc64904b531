import ExprScript.Number.Basic

/-!
# Whole numbers

`Number.whole?` gives the integer a number is equal to, if there is one, and
`Number.ofNat` and `Number.ofInt` give the number nearest to an integer, on a tie the one
with the even significand, and an infinite number when the integer is too large.
-/

namespace ExprScript.Number

/-- The natural number the magnitude of the given rank is equal to, if it is whole. -/
def wholeMagnitude? (rank : Nat) : Option Nat :=
  let m := significand rank
  match exponent rank with
  | .ofNat k => some (m * Nat.pow 2 k)
  | .negSucc k =>
    let unit := Nat.pow 2 (k + 1)
    if m % unit = 0 then some (m / unit) else none

/-- The integer with the given sign and magnitude. -/
def signedInt (negative : Bool) (n : Nat) : Int :=
  if negative then -(n : Int) else n

/-- The integer a number is equal to, if it is finite and whole. -/
def whole? : Number → Option Int
  | .finite negative rank => (wholeMagnitude? rank.val).map (signedInt negative)
  | _ => none

/-- `n / 2 ^ k` rounded to the nearest integer, on a tie to the even one. -/
def halveEven (n k : Nat) : Nat :=
  let unit := Nat.pow 2 k
  let q := n / unit
  let r := n % unit
  if 2 * r < unit then q
  else if unit < 2 * r then q + 1
  else q + q % 2

/-- The 53 leading binary digits of a positive `n`, rounded if there are more. When
rounding carries beyond them the result is `2 ^ 53`. -/
def leading (n : Nat) : Nat :=
  if n.log2 ≤ 52 then n * Nat.pow 2 (52 - n.log2) else halveEven n (n.log2 - 52)

/-- The rank of the magnitude nearest to `n`; it is `magnitudes` or more when `n` is too
large for a finite number. -/
def rankOfNat (n : Nat) : Nat :=
  if n = 0 then 0 else (n.log2 + 1022) * fractions + leading n

/-- The number with the given sign and rank, infinite when no finite magnitude has that
rank. -/
def ofRank (negative : Bool) (rank : Nat) : Number :=
  if h : rank < magnitudes then .finite negative ⟨rank, h⟩ else .infinite negative

/-- The number nearest to `n`. -/
def ofNat (n : Nat) : Number :=
  ofRank false (rankOfNat n)

/-- The number nearest to `i`. -/
def ofInt (i : Int) : Number :=
  ofRank (i < 0) (rankOfNat i.natAbs)

end ExprScript.Number
