import ExprScript.Eval.Basic
import Mathlib.Tactic.Common

/-!
# Congruence of the rules of evaluation

The rules of evaluation take an evaluator of operands and use it in sequences only.  Hence a
relation of computations that holds of every computation with itself and is kept by sequences passes
from evaluators of operands to the rules (`Congruent.node`).  Assignments are left to their users:
they also look at how high a target is.
-/

namespace ExprScript.Eval

/-! ### Chains -/

/-- A node that is not arithmetic ends a chain. -/
theorem chainOf_of_not_isArithmetic
    (links : List Link) {head : Atom} (hhead : ¬ head.kind.isArithmetic = true) (tail : List Tree) :
  chainOf links (.node head tail) = some (links, .node head tail)
  := by
  cases tail with
  | nil => rw [chainOf, if_neg hhead]
  | cons first others => rw [chainOf, if_neg hhead]

/-! ### Congruence -/

/-- Whether the relation of computations holds of every computation with itself and is kept by
sequences. -/
structure Congruent (R : ∀ {α : Type}, EvalM α → EvalM α → Prop) : Prop where
  refl : ∀ {α : Type} (x : EvalM α), R x x
  bind : ∀ {α β : Type} {x y : EvalM α} {f g : α → EvalM β}, R x y → (∀ a, R (f a) (g a)) →
    R (x >>= f) (y >>= g)

section Rules

variable {R : ∀ {α : Type}, EvalM α → EvalM α → Prop} (hR : Congruent R)
  {expression other : Tree → EvalM Value} (h : ∀ t, R (expression t) (other t))
include hR h

theorem Congruent.climb (links : List Link) (result : Value) :
  R (climb expression links result) (climb other links result)
  := by
  induction links generalizing result with
  | nil => apply hR.refl
  | cons link links ih =>
      unfold Eval.climb
      cases link.second with
      | none => apply hR.refl
      | some second =>
          apply hR.bind (h second)
          intro left
          apply hR.bind (hR.refl _)
          intro result'
          apply ih

theorem Congruent.chain (tree : Tree) :
  R (chain expression tree) (chain other tree)
  := by
  unfold Eval.chain
  cases chainOf [] tree with
  | none => apply hR.refl
  | some chained =>
      apply hR.bind (h chained.2)
      intro result
      apply hR.climb h

theorem Congruent.block (trees : List Tree) :
  R (block expression trees) (block other trees)
  := by
  induction trees with
  | nil => apply hR.refl
  | cons first rest ih =>
      cases rest with
      | nil => apply h first
      | cons second rest =>
          apply hR.bind (h first)
          intro value
          apply ih

/-- The operand at a place of the tail is evaluated before what comes next. -/
theorem Congruent.operandValue
    (tail : List Tree) (place : Nat) {α : Type} {f g : Value → EvalM α}
    (hfg : ∀ value, R (f value) (g value)) :
  R (operand tail place >>= fun t => expression t >>= f)
    (operand tail place >>= fun t => other t >>= g)
  := by
  apply hR.bind (hR.refl _)
  intro t
  apply hR.bind (h t) hfg

theorem Congruent.comparison (operation : AtomKind) (tail : List Tree) :
  R (comparison expression operation tail) (comparison other operation tail)
  := by
  apply hR.operandValue h
  intro a
  apply hR.bind (hR.refl _)
  intro x
  apply hR.operandValue h
  intro b
  apply hR.refl

theorem Congruent.equality (operation : AtomKind) (tail : List Tree) :
  R (equality expression operation tail) (equality other operation tail)
  := by
  apply hR.operandValue h
  intro a
  apply hR.operandValue h
  intro b
  apply hR.refl

/-- The heads may differ, if the complaints about a condition are related. -/
theorem Congruent.conditional
    {head head' : AtomKind}
    (hhead : ∀ value, R (throw (.conditionNotTruth head value) : EvalM Value)
      (throw (.conditionNotTruth head' value))) (tail : List Tree) :
  R (conditional expression head tail) (conditional other head' tail)
  := by
  have hbranch : ∀ place, R (operand tail place >>= expression) (operand tail place >>= other) := by
    intro place
    apply hR.bind (hR.refl _) h
  apply hR.operandValue h
  intro condition
  split
  · apply hbranch
  · apply hbranch
  · apply hhead

theorem Congruent.negation (tail : List Tree) :
  R (negation expression tail) (negation other tail)
  := by
  apply hR.operandValue h
  intro a
  apply hR.refl

theorem Congruent.node
    {limit limit' : Nat} {head : Atom} {tail : List Tree}
    (hassign : head.kind = .assign →
      R (assignment expression limit tail) (assignment other limit' tail)) :
  R (node expression limit head tail) (node other limit' head tail)
  := by
  obtain ⟨kind, datum⟩ := head
  cases kind with
  | plus | minus | times | divide | power => apply hR.chain h
  | negate => apply hR.negation h
  | assign => apply hassign rfl
  | greater | less => apply hR.comparison h
  | equal | notEqual => apply hR.equality h
  | block => apply hR.block h
  | conditional | orConditional =>
      apply hR.conditional h
      intro value
      apply hR.refl
  | _ => apply hR.refl

end Rules

end ExprScript.Eval
