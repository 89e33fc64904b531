import ExprScript.Number.Arithmetic
import ExprScript.Number.Text
import Mathlib.Tactic.Common

/-!
# Numbers up to the names of their origins

A relation `ρ` pairs the origins of undefined numbers on one side with those on another.  Two
numbers are alike when they are the same defined number, or both undefined with paired origins.

Alike numbers are written alike, compare alike, and give alike results (`Alike.same`,
`Alike.divide`, `Alike.power`), provided that `ρ` is a pairing: it pairs each origin with at most
one on the other side, and the shared origin with itself.
-/

namespace ExprScript.Number

/-- A relation that pairs each origin with at most one other, and the shared origin with itself. -/
structure Pairing (ρ : Nat → Nat → Prop) : Prop where
  eq_iff : ∀ {i i' j j'}, ρ i i' → ρ j j' → (i = j ↔ i' = j')
  shared : ρ sharedOrigin sharedOrigin

/-- Every origin pairs with itself. -/
theorem pairing_eq :
  Pairing Eq
  := by
  constructor
  · rintro i _ j _ rfl rfl
    exact Iff.rfl
  · rfl

/-- The same defined number, or undefined numbers with paired origins. -/
inductive Alike (ρ : Nat → Nat → Prop) : Number → Number → Prop
  | finite (negative : Bool) (rank : Fin magnitudes) :
      Alike ρ (.finite negative rank) (.finite negative rank)
  | infinite (negative : Bool) : Alike ρ (.infinite negative) (.infinite negative)
  | undefined {i j : Nat} : ρ i j → Alike ρ (.undefined i) (.undefined j)

theorem alike_eq_iff {x y : Number} :
  Alike Eq x y ↔ x = y
  := by
  constructor
  · rintro (_ | _ | rfl) <;> rfl
  · rintro rfl
    cases x with
    | finite negative rank => apply Alike.finite
    | infinite negative => apply Alike.infinite
    | undefined i => apply Alike.undefined rfl

variable {ρ : Nat → Nat → Prop} {x x' y y' : Number}

/-! ### What does not depend on the origin -/

theorem Alike.toFloat (h : Alike ρ x x') :
  x.toFloat = x'.toFloat
  := by
  cases h <;> rfl

theorem Alike.isZero (h : Alike ρ x x') :
  x.isZero = x'.isZero
  := by
  cases h <;> rfl

theorem Alike.isFinite (h : Alike ρ x x') :
  x.isFinite = x'.isFinite
  := by
  cases h <;> rfl

theorem Alike.isUndefined (h : Alike ρ x x') :
  x.isUndefined = x'.isUndefined
  := by
  cases h <;> rfl

theorem Alike.isNegative (h : Alike ρ x x') :
  x.isNegative = x'.isNegative
  := by
  cases h <;> rfl

theorem Alike.isOdd (h : Alike ρ x x') :
  x.isOdd = x'.isOdd
  := by
  cases h <;> rfl

/-- Alike numbers are written alike. -/
theorem Alike.text (h : Alike ρ x x') :
  x.text = x'.text
  := by
  cases h <;> rfl

theorem Alike.less (hx : Alike ρ x x') (hy : Alike ρ y y') :
  x.less y = x'.less y'
  := by
  rw [Number.less, Number.less, hx.toFloat, hy.toFloat]

/-- Alike numbers are equal to alike numbers. -/
theorem Alike.same (hρ : Pairing ρ) (hx : Alike ρ x x') (hy : Alike ρ y y') :
  x.same y = x'.same y'
  := by
  cases hx with
  | finite | infinite => cases hy <;> rfl
  | @undefined i i' hi =>
      cases hy with
      | finite | infinite => rfl
      | @undefined j j' hj =>
          rw [Number.same, Number.same, Bool.eq_iff_iff, beq_iff_eq, beq_iff_eq]
          apply hρ.eq_iff hi hj

/-! ### Results -/

theorem ofFloat_alike {i j : Nat} (h : ρ i j) (x : Float) :
  Alike ρ (ofFloat i x) (ofFloat j x)
  := by
  simp only [ofFloat, ofBits]
  split_ifs
  · apply Alike.undefined h
  · apply Alike.finite
  · apply Alike.infinite
  · apply Alike.undefined h

theorem Alike.divide
    (hshared : ρ sharedOrigin sharedOrigin) {i j : Nat} (h : ρ i j) (hx : Alike ρ x x')
    (hy : Alike ρ y y') :
  Alike ρ (Number.divide i x y) (Number.divide j x' y')
  := by
  unfold Number.divide
  rw [hx.isZero, hx.isUndefined, hx.isNegative, hx.toFloat, hy.isZero, hy.isNegative, hy.toFloat]
  split
  · split
    · apply Alike.undefined hshared
    · apply Alike.infinite
  · apply ofFloat_alike h

theorem Alike.power
    (hshared : ρ sharedOrigin sharedOrigin) {i j : Nat} (h : ρ i j) (hx : Alike ρ x x')
    (hy : Alike ρ y y') :
  Alike ρ (Number.power i x y) (Number.power j x' y')
  := by
  have hresult := ofFloat_alike hshared (Float.pow x'.toFloat y'.toFloat)
  unfold Number.power infinitePower
  rw [hx.isZero, hx.isFinite, hx.isNegative, hx.toFloat, hy.isNegative, hy.isZero, hy.isFinite,
    hy.isOdd, hy.toFloat]
  split
  · apply Alike.infinite
  generalize ofFloat sharedOrigin (Float.pow x'.toFloat y'.toFloat) = result at hresult ⊢
  split
  · apply Alike.infinite
  · exact hresult
  · apply Alike.undefined h
  · exact hresult

theorem Alike.negate {i j : Nat} (h : ρ i j) (hx : Alike ρ x x') :
  Alike ρ (Number.negate i x) (Number.negate j x')
  := by
  cases hx with
  | finite negative rank => apply Alike.finite
  | infinite negative => apply Alike.infinite
  | undefined _ => apply Alike.undefined h

end ExprScript.Number
