import ExprScript.Number.Text
import Mathlib.Algebra.Order.Field.Basic
import Mathlib.Algebra.Order.Field.Rat
import Mathlib.Order.Monotone.Basic
import Mathlib.Tactic.Linarith

/-!
# Equality of numbers

The magnitudes increase with their ranks (`magnitude_strictMono`), so a finite number is determined
by its value up to the sign of zero.  Two numbers are therefore the same exactly when they are one
number, with its origin if it is undefined, or have one value (`same_iff`).  Sameness is an
equivalence (`same_equivalence`), and the same numbers are written alike (`text_of_same`).
-/

namespace ExprScript.Number

/-! ### Values -/

/-- The magnitude of the given rank. -/
def magnitude (rank : Nat) : ℚ := significand rank * 2 ^ exponent rank

/-- From one rank to the next the significand grows by one, or it starts again at half of that with
the next exponent. -/
theorem significand_succ (rank : Nat) :
  (exponent (rank + 1) = exponent rank ∧ significand (rank + 1) = significand rank + 1) ∨
    (exponent (rank + 1) = exponent rank + 1 ∧ 2 * significand (rank + 1) = significand rank + 1)
  := by
  unfold exponent significand fractions
  split <;> split <;> omega

theorem magnitude_lt_succ (rank : Nat) :
  magnitude rank < magnitude (rank + 1)
  := by
  have hunit : (0 : ℚ) < 2 ^ exponent rank := zpow_pos two_pos _
  have hnext : magnitude (rank + 1) = (significand rank + 1 : Nat) * 2 ^ exponent rank := by
    rcases significand_succ rank with ⟨hexponent, hsignificand⟩ | ⟨hexponent, hsignificand⟩
    · rw [magnitude, hexponent, hsignificand]
    · rw [magnitude, hexponent, ← hsignificand, zpow_add_one₀ two_ne_zero, Nat.cast_mul,
        Nat.cast_two, mul_comm (2 ^ exponent rank) 2, mul_left_comm, mul_assoc]
  rw [hnext, magnitude, Nat.cast_add_one, add_one_mul]
  apply lt_add_of_pos_right _ hunit

/-- The magnitudes increase with their ranks. -/
theorem magnitude_strictMono :
  StrictMono magnitude
  := strictMono_nat_of_lt_succ magnitude_lt_succ

theorem magnitude_zero :
  magnitude 0 = 0
  := by
  simp [magnitude, significand, fractions]

theorem magnitude_nonneg (rank : Nat) :
  0 ≤ magnitude rank
  := by
  rw [← magnitude_zero]
  apply magnitude_strictMono.monotone (Nat.zero_le rank)

/-- The value of the finite number with the given sign and rank. -/
def finiteValue (negative : Bool) (rank : Nat) : ℚ :=
  if negative then -magnitude rank else magnitude rank

/-- Finite numbers have one value exactly when they have one rank, and one sign unless they are
zero. -/
theorem finiteValue_eq_iff {s t : Bool} {m n : Nat} :
  finiteValue s m = finiteValue t n ↔ m = n ∧ (s = t ∨ m = 0)
  := by
  have hinjective : magnitude m = magnitude n ↔ m = n := magnitude_strictMono.injective.eq_iff
  have hopposite : magnitude m = -magnitude n ↔ m = n ∧ m = 0 := by
    constructor
    · intro h
      have hm : magnitude m = magnitude 0 := by
        rw [magnitude_zero]
        linarith [magnitude_nonneg m, magnitude_nonneg n]
      have hn : magnitude n = magnitude 0 := by
        rw [magnitude_zero]
        linarith [magnitude_nonneg m, magnitude_nonneg n]
      have hm0 := magnitude_strictMono.injective hm
      have hn0 := magnitude_strictMono.injective hn
      exact ⟨hm0.trans hn0.symm, hm0⟩
    · rintro ⟨rfl, rfl⟩
      rw [magnitude_zero, neg_zero]
  cases s <;> cases t
  · simpa [finiteValue] using hinjective
  · simpa [finiteValue] using hopposite
  · simpa [finiteValue, neg_eq_iff_eq_neg] using hopposite
  · simpa [finiteValue] using hinjective

/-- Whether two numbers have one value: a finite one, or the same infinite one.  Undefined numbers
have none. -/
inductive HaveOneValue : Number → Number → Prop
  | finite {s t : Bool} {m n : Fin magnitudes} :
      finiteValue s m = finiteValue t n → HaveOneValue (.finite s m) (.finite t n)
  | infinite {s : Bool} : HaveOneValue (.infinite s) (.infinite s)

theorem HaveOneValue.symm {x y : Number} (h : HaveOneValue x y) :
  HaveOneValue y x
  := by
  cases h with
  | finite h => exact .finite h.symm
  | infinite => exact .infinite

theorem HaveOneValue.trans {x y z : Number} (hxy : HaveOneValue x y) (hyz : HaveOneValue y z) :
  HaveOneValue x z
  := by
  cases hxy with
  | finite hxy =>
      cases hyz with
      | finite hyz => exact .finite (hxy.trans hyz)
  | infinite => exact hyz

/-! ### Sameness -/

theorem same_finite_iff {s t : Bool} {m n : Fin magnitudes} :
  (Number.finite s m).same (.finite t n) = true ↔ finiteValue s m = finiteValue t n
  := by
  rw [finiteValue_eq_iff]
  simp [same]

theorem same_self (x : Number) :
  x.same x = true
  := by
  cases x <;> simp [same]

/-- Two numbers are the same exactly when they are one number or have one value. -/
theorem same_iff {x y : Number} :
  x.same y = true ↔ x = y ∨ HaveOneValue x y
  := by
  constructor
  · intro h
    cases x with
    | finite s m =>
        cases y with
        | finite t n => exact .inr (.finite (same_finite_iff.mp h))
        | infinite | undefined => cases h
    | infinite s =>
        cases y with
        | infinite t => exact .inl (congrArg Number.infinite (eq_of_beq h))
        | finite | undefined => cases h
    | undefined i =>
        cases y with
        | undefined j => exact .inl (congrArg Number.undefined (eq_of_beq h))
        | finite | infinite => cases h
  · rintro (rfl | h)
    · apply same_self
    · cases h with
      | finite h => exact same_finite_iff.mpr h
      | infinite => apply same_self

/-- Sameness of numbers is reflexive, symmetric and transitive. -/
theorem same_equivalence :
  Equivalence (fun x y : Number => x.same y = true)
  := by
  simp only [same_iff]
  constructor
  · intro x
    exact .inl rfl
  · rintro x y (rfl | h)
    · exact .inl rfl
    · exact .inr h.symm
  · rintro x y z (rfl | hxy) hyz
    · exact hyz
    · rcases hyz with rfl | hyz
      · exact .inr hxy
      · exact .inr (hxy.trans hyz)

/-- Zero is equal to the integer zero, whatever its sign. -/
theorem whole?_of_zero {rank : Fin magnitudes} (h : rank.val = 0) (negative : Bool) :
  (Number.finite negative rank).whole? = some 0
  := by
  have hmagnitude : wholeMagnitude? 0 = some 0 := by decide +kernel
  rw [whole?, h, hmagnitude]
  cases negative <;> rfl

/-- The same numbers are written alike: the sign of zero is not written. -/
theorem text_of_same {x y : Number} (h : x.same y = true) :
  x.text = y.text
  := by
  rcases same_iff.mp h with rfl | hvalue
  · rfl
  cases hvalue with
  | @finite s t m n hvalue =>
      obtain ⟨hrank, hsign⟩ := finiteValue_eq_iff.mp hvalue
      obtain rfl := Fin.ext hrank
      rcases hsign with rfl | hzero
      · rfl
      · rw [Number.text, Number.text, whole?_of_zero hzero, whole?_of_zero hzero]
  | infinite => rfl

end ExprScript.Number
