import ExprScript.Proofs.Eval.Recursion
import ExprScript.Proofs.Grammar.Calculation
import ExprScript.Proofs.Number.Origin

/-!
# Evaluating calculations

The value of a spine folds its operands from the left: an operation takes the next operand as its
left one and the value so far as its right one.  The value of a calculation is that of the spine of
its products (`Calculation.value`).

Evaluating the tree of a calculation gives this value, and however long the calculation is, it
costs the same depth (`Calculation.evalAt_gives`).  Undefined numbers count as the same here,
whatever their origins.
-/

namespace ExprScript

/-- The result of the operator on numbers.  An undefined result has the shared origin. -/
def Operator.apply : Operator → (left right : Number) → Number
  | .plus, left, right => left.add Number.sharedOrigin right
  | .minus, left, right => left.sub Number.sharedOrigin right
  | .times, left, right => left.mul Number.sharedOrigin right
  | .divide, left, right => Number.divide Number.sharedOrigin left right

theorem Operator.head_isArithmetic (op : Operator) :
  op.head.isArithmetic = true
  := by
  cases op <;> rfl

/-- The value so far, with each operand on the left of it in turn. -/
def Spine.fold {α : Type} (f : α → Number) (result : Number) (steps : List (Spine.Step α)) :
    Number :=
  steps.foldl (fun result step => step.operator.apply (f step.operand) result) result

/-- The value of a spine. -/
def Spine.value {α : Type} (f : α → Number) (s : Spine α) : Number :=
  Spine.fold f (f s.first) s.steps

/-- The value of a run of literals joined by `*` and `/`. -/
def Calculation.productValue (p : Calculation) : Number :=
  p.value Literal.number

/-- The value of a calculation. -/
def Calculation.value (c : Calculation) : Number :=
  c.cut.value productValue

/-- The same number, where all undefined numbers count as one. -/
abbrev Number.IsLike (x y : Number) : Prop :=
  x.Alike (fun _ _ => True) y

theorem Number.IsLike.refl (x : Number) :
  x.IsLike x
  := by
  cases x with
  | finite negative rank => apply Alike.finite
  | infinite negative => apply Alike.infinite
  | undefined origin => apply Alike.undefined trivial

namespace Eval

/-- The arithmetic of the evaluator is that of the operators. -/
theorem compute_isLike
    (op : Operator) (origin : Nat) {x x' y y' : Number} (hx : x.IsLike x') (hy : y.IsLike y') :
  (compute op.head origin x y).IsLike (op.apply x' y')
  := by
  cases op with
  | plus =>
      rw [Operator.apply, Number.add, ← hx.toFloat, ← hy.toFloat]
      apply Number.ofFloat_alike trivial
  | minus =>
      rw [Operator.apply, Number.sub, ← hx.toFloat, ← hy.toFloat]
      apply Number.ofFloat_alike trivial
  | times =>
      rw [Operator.apply, Number.mul, ← hx.toFloat, ← hy.toFloat]
      apply Number.ofFloat_alike trivial
  | divide => apply hx.divide trivial trivial hy

/-- Whether the evaluation gives the number in every machine, and changes nothing but the origins
drawn. -/
def Gives (x : EvalM Value) (value : Number) : Prop :=
  ∀ m, ∃ y fresh, x.run m = .ok (.number y) { m with fresh := fresh } ∧ y.IsLike value

theorem gives_leaf (depth : Nat) (l : Literal) :
  Gives (evalAt (depth + 1) l.leaf) l.number
  := fun m => ⟨l.number, m.fresh, rfl, .refl _⟩

/-- A node of an operator takes the value of its second operand as the left one. -/
theorem Gives.operation
    {expression : Tree → EvalM Value} (op : Operator) {inner second : Tree} {right left : Number}
    (hinner : Gives (chain expression inner) right) (hsecond : Gives (expression second) left) :
  Gives (chain expression (.node (.ofKind op.head) [inner, second])) (op.apply left right)
  := by
  intro m
  obtain ⟨y, fresh, hy, hright⟩ := hinner m
  obtain ⟨x, fresh', hx, hleft⟩ := hsecond { m with fresh := fresh }
  refine ⟨compute op.head fresh' x y, fresh' + 1, ?_, compute_isLike op fresh' hleft hright⟩
  rw [chain_cons expression op.head_isArithmetic, run_bind_of_ok hy, climb]
  apply Eq.trans (run_bind_of_ok hx)
  rfl

/-- The chain of a spine gives its value, if its operands give theirs. -/
theorem Gives.nest
    {expression : Tree → EvalM Value} {α : Type} {f : α → Tree} {g : α → Number}
    {steps : List (Spine.Step α)}
    (hsteps : ∀ step ∈ steps, Gives (expression (f step.operand)) (g step.operand)) {inner : Tree}
    {result : Number} (hinner : Gives (chain expression inner) result) :
  Gives (chain expression (Spine.nest f inner steps)) (Spine.fold g result steps)
  := by
  induction steps generalizing inner result with
  | nil => exact hinner
  | cons step steps ih =>
      rw [List.forall_mem_cons] at hsteps
      apply ih hsteps.2
      apply hinner.operation step.operator hsteps.1

/-- Whether the tree is a leaf or an arithmetic node. -/
def IsArithmetic : Tree → Prop
  | .atom _ => True
  | .node head _ => head.kind.isArithmetic = true

theorem IsArithmetic.nest
    {α : Type} (f : α → Tree) {inner : Tree} (h : IsArithmetic inner)
    (steps : List (Spine.Step α)) :
  IsArithmetic (Spine.nest f inner steps)
  := by
  induction steps generalizing inner with
  | nil => exact h
  | cons step steps ih =>
      apply ih
      exact step.operator.head_isArithmetic

/-- A leaf or an arithmetic node is evaluated as a chain of operands one level below. -/
theorem evalAt_of_isArithmetic (depth : Nat) {t : Tree} (h : IsArithmetic t) :
  evalAt (depth + 2) t = chain (evalAt (depth + 1)) t
  := by
  cases t with
  | atom a => exact (bind_pure _).symm
  | node head tail => exact node_of_isArithmetic _ _ h tail

end Eval

open Eval

namespace Calculation

theorem productTree_isArithmetic (p : Calculation) :
  IsArithmetic p.productTree
  := by
  have hfirst : IsArithmetic p.first.leaf := trivial
  apply hfirst.nest

theorem tree_isArithmetic (c : Calculation) :
  IsArithmetic c.tree
  := by
  apply (productTree_isArithmetic c.cut.first).nest

/-- The chain of a product gives its value. -/
theorem chain_product_gives (p : Calculation) (depth : Nat) :
  Gives (chain (evalAt (depth + 1)) p.productTree) p.productValue
  := by
  have hfirst : Gives (chain (evalAt (depth + 1)) p.first.leaf) p.first.number := by
    have hchain : chain (evalAt (depth + 1)) p.first.leaf = evalAt (depth + 1) p.first.leaf :=
      bind_pure _
    rw [hchain]
    apply gives_leaf
  apply Gives.nest _ hfirst
  intro step _
  apply gives_leaf

/-- Evaluating a calculation of any length at depth three gives its value. -/
theorem evalAt_gives (c : Calculation) (depth : Nat) :
  Gives (evalAt (depth + 3) c.tree) c.value
  := by
  rw [evalAt_of_isArithmetic _ c.tree_isArithmetic]
  -- the first product is a part of the chain, and the others are operands of it
  apply Gives.nest _ (chain_product_gives c.cut.first (depth + 1))
  intro step _
  rw [evalAt_of_isArithmetic _ (productTree_isArithmetic step.operand)]
  apply chain_product_gives

end Calculation

end ExprScript
