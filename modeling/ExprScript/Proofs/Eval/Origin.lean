import ExprScript.Eval.Error
import ExprScript.Proofs.Number.Origin

/-!
# Values and errors up to the names of origins

Two values are alike when they are numbers that are alike, or the same value of another type.  Two
errors are alike when they are of one kind and about alike values.  Alike values are shown alike,
and alike errors have the same message and belong to the same class (`EvalError.Alike.message`,
`EvalError.Alike.title`).
-/

namespace ExprScript

open Number (Pairing)

variable {ρ : Nat → Nat → Prop}

/-- Alike numbers, or the same value of another type. -/
inductive Value.Alike (ρ : Nat → Nat → Prop) : Value → Value → Prop
  | number {x y : Number} : x.Alike ρ y → Alike ρ (.number x) (.number y)
  | truth (b : Bool) : Alike ρ (.truth b) (.truth b)
  | text (s : String) : Alike ρ (.text s) (.text s)
  | symbol (name : String) : Alike ρ (.symbol name) (.symbol name)
  | nothing : Alike ρ .nothing .nothing

theorem Value.alike_eq_iff {v w : Value} :
  v.Alike Eq w ↔ v = w
  := by
  constructor
  · rintro (h | _ | _ | _ | _)
    · rw [Number.alike_eq_iff.mp h]
    all_goals rfl
  · rintro rfl
    cases v with
    | number x => apply Value.Alike.number (Number.alike_eq_iff.mpr rfl)
    | truth b => apply Value.Alike.truth
    | text s => apply Value.Alike.text
    | symbol name => apply Value.Alike.symbol
    | nothing => apply Value.Alike.nothing

/-- Alike values are equal to alike values. -/
theorem Value.Alike.same
    (hρ : Pairing ρ) {v v' w w' : Value} (hv : v.Alike ρ v') (hw : w.Alike ρ w') :
  v.same w = v'.same w'
  := by
  cases hv with
  | number hx =>
      cases hw with
      | number hy => apply hx.same hρ hy
      | _ => rfl
  | _ => cases hw <;> rfl

/-- Alike values are of one type and shown alike. -/
theorem Value.Alike.typed {v w : Value} (h : v.Alike ρ w) :
  EvalError.typed v = EvalError.typed w
  := by
  cases h with
  | number h =>
      rw [EvalError.typed, EvalError.typed, Value.shown, Value.shown, h.text]
      rfl
  | _ => rfl

/-- The same error, or errors of one kind about alike values. -/
inductive EvalError.Alike (ρ : Nat → Nat → Prop) : EvalError → EvalError → Prop
  | operandNotNumber (operation : AtomKind) {v w : Value} :
      v.Alike ρ w → Alike ρ (.operandNotNumber operation v) (.operandNotNumber operation w)
  | operandsNotNumbers (operation : AtomKind) {v v' w w' : Value} :
      v.Alike ρ v' → w.Alike ρ w' →
      Alike ρ (.operandsNotNumbers operation v w) (.operandsNotNumbers operation v' w')
  | conditionNotTruth (head : AtomKind) {v w : Value} :
      v.Alike ρ w → Alike ρ (.conditionNotTruth head v) (.conditionNotTruth head w)
  | same (e : EvalError) : Alike ρ e e

namespace EvalError

theorem Alike.eq {e f : EvalError} (h : e.Alike Eq f) :
  e = f
  := by
  cases h with
  | operandNotNumber operation hv => rw [Value.alike_eq_iff.mp hv]
  | operandsNotNumbers operation hv hw => rw [Value.alike_eq_iff.mp hv, Value.alike_eq_iff.mp hw]
  | conditionNotTruth head hv => rw [Value.alike_eq_iff.mp hv]
  | same e => rfl

/-- Alike errors have the same message. -/
theorem Alike.message {e f : EvalError} (h : e.Alike ρ f) :
  e.message = f.message
  := by
  unfold EvalError.message
  cases h with
  | operandNotNumber operation hv => simp only [hv.typed]
  | operandsNotNumbers operation hv hw => simp only [hv.typed, hw.typed]
  | conditionNotTruth head hv => simp only [hv.typed]
  | same e => rfl

/-- Alike errors belong to the same class. -/
theorem Alike.title {e f : EvalError} (h : e.Alike ρ f) :
  e.title = f.title
  := by
  cases h <;> rfl

end EvalError

end ExprScript
