import ExprScript.Proofs.Eval.Congruence
import ExprScript.Proofs.Eval.Safety
import ExprScript.Proofs.Outcome

/-!
# Evaluation and depth

An evaluator of operands nested less deep approximates an evaluator of operands nested deeper: it
gives the same value, or stops with the same error, or runs out of depth.  Every rule of evaluation
keeps this, and so evaluating up to a depth approximates evaluating up to any larger one
(`evalAt_approximates`).

Operands are lower than their node, and so a depth no smaller than the height of a tree is enough
for it (`evalAt_ne_tooDeep`).
-/

namespace ExprScript

/-! ### The height of operands -/

namespace Tree

theorem height_le_heightAll {t : Tree} {ts : List Tree} (h : t ∈ ts) :
  t.height ≤ heightAll ts
  := by
  induction ts with
  | nil => cases h
  | cons first rest ih =>
      rw [heightAll]
      rcases List.mem_cons.mp h with rfl | hrest
      · apply Nat.le_max_left
      · apply Nat.le_trans (ih hrest) (Nat.le_max_right _ _)

/-- An operand is lower than its node. -/
theorem height_operand
    {head : Atom} {tail : List Tree} {n : Nat} (h : (node head tail).height ≤ n + 1) {t : Tree}
    (ht : t ∈ tail) :
  t.height ≤ n
  := by
  rw [height] at h
  apply Nat.le_trans (height_le_heightAll ht) (Nat.le_of_succ_le_succ h)

end Tree

namespace Eval

/-! ### Larger depths -/

/-- Approximation passes from evaluators of operands to the rules of evaluation. -/
theorem congruent_approximates :
  Congruent (Approximates .tooDeep)
  where
  refl := Approximates.refl EvalError.tooDeep
  bind := Approximates.bind

section Approximation

variable {expression deeper : Tree → EvalM Value}
  (h : ∀ t, Approximates .tooDeep (expression t) (deeper t))
include h

theorem chain_approximates (tree : Tree) :
  Approximates .tooDeep (chain expression tree) (chain deeper tree)
  := congruent_approximates.chain h tree

/-- A target that is too high to be reported with the smaller limit may be reported with the
larger. -/
theorem assignment_approximates {limit larger : Nat} (hlimit : limit ≤ larger)
    (tail : List Tree) :
  Approximates .tooDeep (assignment expression limit tail) (assignment deeper larger tail)
  := by
  apply congruent_approximates.operandValue h
  intro value
  apply (Approximates.refl _ _).bind
  intro target
  split
  · apply Approximates.refl
  · apply Approximates.refl
  · by_cases hheight : target.height ≤ limit
    · rw [if_pos hheight, if_pos (Nat.le_trans hheight hlimit)]
      apply Approximates.refl
    · rw [if_neg hheight]
      apply Approximates.of_throw

theorem node_approximates {limit larger : Nat} (hlimit : limit ≤ larger) (head : Atom)
    (tail : List Tree) :
  Approximates .tooDeep (node expression limit head tail) (node deeper larger head tail)
  := by
  apply congruent_approximates.node h
  intro _
  apply assignment_approximates h hlimit

end Approximation

/-- Evaluating operands nested up to `depth` approximates evaluating operands nested one
deeper. -/
theorem evalAt_approximates_succ (depth : Nat) (t : Tree) :
  Approximates .tooDeep (evalAt depth t) (evalAt (depth + 1) t)
  := by
  induction depth generalizing t with
  | zero => apply Approximates.of_throw
  | succ depth ih =>
      cases t with
      | atom a => apply Approximates.refl
      | node head tail => apply node_approximates ih (Nat.le_succ depth)

/-- Evaluating operands nested up to `depth` approximates evaluating operands nested deeper. -/
theorem evalAt_approximates {depth deeper : Nat} (h : depth ≤ deeper) (t : Tree) :
  Approximates .tooDeep (evalAt depth t) (evalAt deeper t)
  := by
  induction h with
  | refl => apply Approximates.refl
  | step _ ih => apply ih.trans (evalAt_approximates_succ _ t)

/-! ### Depths that are large enough -/

/-- One step of evaluating a tree of at most the given height does not run out of depth, if
evaluating lower trees does not. -/
theorem confinesStep_height (n : Nat) :
  ConfinesStep (·.height ≤ n + 1) (·.height ≤ n) n (· ≠ .tooDeep)
  where
  operands h _ ht := Tree.height_operand h ht
  nested h := Nat.le_succ_of_le h
  badDatum _ _ := by rintro ⟨⟩
  operationAsLeaf _ _ := by rintro ⟨⟩
  unknownOperation _ _ := by rintro ⟨⟩
  missingOperand _ _ := by rintro ⟨⟩
  tooDeep h hlimit := absurd h (Nat.not_le_of_lt hlimit)
  expected _ hdeep _ := hdeep

/-- A tree that is no higher than the depth is evaluated without running out of it. -/
theorem evalAt_ne_tooDeep {depth : Nat} {t : Tree} (h : t.height ≤ depth) :
  GivesValue (· ≠ .tooDeep) (evalAt depth t)
  := by
  induction depth generalizing t with
  | zero => cases t <;> cases h
  | succ depth ih => apply (confinesStep_height depth).tree ih h

end Eval

end ExprScript
