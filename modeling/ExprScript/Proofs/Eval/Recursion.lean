import ExprScript.Program
import ExprScript.Proofs.Eval.Depth

/-!
# Arithmetic by recursion

An arithmetic node may be evaluated by plain recursion: its first operand, then its second operand,
then the operation on the two values.  The evaluator walks down a whole chain of such nodes
instead, and then evaluates the second operands from the inside out.

The two agree on every tree, whatever the number of operands of its nodes: where recursion does not
run out of depth, the evaluator gives the same value or stops with the same error, and leaves the
same machine (`evaluate_eq_recursive`).
-/

namespace ExprScript.Eval

/-! ### Chains -/

/-- Links below a chain stay below it. -/
theorem chainOf_append (links more : List Link) (tree : Tree) :
  chainOf (links ++ more) tree =
    (chainOf links tree).map fun chained => (chained.1 ++ more, chained.2)
  := by
  fun_induction chainOf links tree with
  | case1 links a => rfl
  | case2 links head hmath =>
      rw [chainOf, if_pos hmath]
      rfl
  | case3 links head hmath =>
      rw [chainOf, if_neg hmath]
      rfl
  | case4 links head first others hmath ih =>
      rw [chainOf, if_pos hmath]
      exact ih
  | case5 links head first others hmath =>
      rw [chainOf, if_neg hmath]
      rfl

theorem climb_append (expression : Tree → EvalM Value) (links more : List Link) (result : Value) :
  climb expression (links ++ more) result =
    (climb expression links result >>= climb expression more)
  := by
  induction links generalizing result with
  | nil => rfl
  | cons link links ih =>
      rw [List.cons_append, climb, climb]
      cases link.second with
      | none => rfl
      | some second => simp only [ih, bind_assoc]

/-- A chain of one node and the chain that begins with its first operand. -/
theorem chain_cons (expression : Tree → EvalM Value) {head : Atom}
    (hhead : head.kind.isArithmetic = true) (first : Tree) (others : List Tree) :
  chain expression (.node head (first :: others)) =
    (chain expression first >>= climb expression [⟨head.kind, others.head?⟩])
  := by
  have hchain : chainOf [] (.node head (first :: others)) =
      (chainOf [] first).map fun chained =>
        (chained.1 ++ [⟨head.kind, others.head?⟩], chained.2) := by
    rw [chainOf, if_pos hhead]
    exact chainOf_append [] _ first
  rw [chain, hchain, chain]
  cases chainOf [] first with
  | none => rfl
  | some chained => simp only [Option.map_some, climb_append, bind_assoc]

/-- A node that is not arithmetic is no part of a chain: it is evaluated as an operand. -/
theorem chain_of_not_isArithmetic (expression : Tree → EvalM Value) {head : Atom}
    (hhead : ¬ head.kind.isArithmetic = true) (tail : List Tree) :
  chain expression (.node head tail) = expression (.node head tail)
  := by
  rw [chain, chainOf_of_not_isArithmetic [] hhead]
  exact bind_pure _

theorem node_of_isArithmetic (expression : Tree → EvalM Value) (limit : Nat) {head : Atom}
    (hhead : head.kind.isArithmetic = true) (tail : List Tree) :
  node expression limit head tail = chain expression (.node head tail)
  := by
  obtain ⟨kind, datum⟩ := head
  cases kind <;> first | rfl | cases hhead

/-- Evaluating a tree as an operand approximates evaluating the chain that begins with it, which
costs its nodes no depth. -/
theorem evalAt_approximates_chain (depth : Nat) (t : Tree) :
  Approximates .tooDeep (evalAt depth t) (chain (evalAt depth) t)
  := by
  cases t with
  | atom a =>
      have hchain : chain (evalAt depth) (.atom a) = evalAt depth (.atom a) := bind_pure _
      rw [hchain]
      apply Approximates.refl
  | node head tail =>
      by_cases hhead : head.kind.isArithmetic = true
      · cases depth with
        | zero => apply Approximates.of_throw
        | succ depth =>
            have heval : evalAt (depth + 1) (.node head tail) =
                chain (evalAt depth) (.node head tail) := node_of_isArithmetic _ _ hhead tail
            rw [heval]
            apply chain_approximates (evalAt_approximates_succ depth)
      · rw [chain_of_not_isArithmetic _ hhead]
        apply Approximates.refl

/-! ### Recursion -/

section Rules

variable (expression : Tree → EvalM Value)

/-- The value of an arithmetic node from the values of its first and then its second operand. -/
def operation (kind : AtomKind) (tail : List Tree) : EvalM Value := do
  let right ← expression (← operand tail 0)
  let left ← expression (← operand tail 1)
  arithmetic kind left right

/-- The value of a tree, with every arithmetic node on its own. -/
def recursiveTree (limit : Nat) : Tree → EvalM Value
  | .atom a => leaf a
  | .node head tail =>
    if head.kind.isArithmetic then operation expression head.kind tail
    else node expression limit head tail

end Rules

/-- The value of a tree with operands nested in it up to the given depth, where every arithmetic
node costs depth. -/
def recursiveAt : (depth : Nat) → Tree → EvalM Value
  | 0, _ => throw .tooDeep
  | depth + 1, t => recursiveTree (recursiveAt depth) depth t

/-- An arithmetic node on its own approximates the chain that begins with it, if the evaluator of
operands approximates both the evaluator of operands of the chain and its chains. -/
theorem operation_approximates
    {expression deeper : Tree → EvalM Value}
    (h : ∀ t, Approximates .tooDeep (expression t) (deeper t))
    (hchain : ∀ t, Approximates .tooDeep (expression t) (chain deeper t)) {head : Atom}
    (hhead : head.kind.isArithmetic = true) (tail : List Tree) :
  Approximates .tooDeep (operation expression head.kind tail) (chain deeper (.node head tail))
  := by
  cases tail with
  | nil =>
      have hmissing : chain deeper (.node head []) = throw .missingOperand := by
        rw [chain, chainOf, if_pos hhead]
      rw [hmissing]
      apply Approximates.refl
  | cons first others =>
      rw [chain_cons deeper hhead]
      apply (hchain first).bind
      intro right
      cases others with
      | nil => apply Approximates.refl
      | cons second others =>
          apply (h second).bind
          intro left
          have hlast : (arithmetic head.kind left right >>= climb deeper []) =
              arithmetic head.kind left right := bind_pure _
          rw [hlast]
          apply Approximates.refl

/-- Evaluating by recursion approximates evaluating by chains. -/
theorem recursiveAt_approximates (depth : Nat) (t : Tree) :
  Approximates .tooDeep (recursiveAt depth t) (evalAt depth t)
  := by
  induction depth generalizing t with
  | zero => apply Approximates.refl
  | succ depth ih =>
      cases t with
      | atom a => apply Approximates.refl
      | node head tail =>
          rw [recursiveAt, recursiveTree, evalAt, tree]
          by_cases hhead : head.kind.isArithmetic = true
          · rw [if_pos hhead, node_of_isArithmetic _ _ hhead]
            apply operation_approximates ih _ hhead
            intro t
            apply (ih t).trans (evalAt_approximates_chain depth t)
          · rw [if_neg hhead]
            apply node_approximates ih (Nat.le_refl depth)

end ExprScript.Eval

namespace ExprScript.Program

/-- The value of a tree, with every arithmetic node evaluated by recursion. -/
def evaluateByRecursion (limit : Nat) (tree : Tree) : EStateM Error Machine Value := fun m =>
  match (Eval.recursiveAt limit tree).run m with
  | .ok value after => .ok value after
  | .error cause after => .error (.eval cause) after

/-- For every tree, whatever the number of operands of its nodes, and every machine, whatever its
environment: if recursion does not run out of depth, then the evaluator gives the same value or
stops with the same error, and leaves the same machine, with the same bindings in every scope. -/
theorem evaluate_eq_recursive
    (limit : Nat) (tree : Tree) (m : Machine)
    (h : ∀ m', (evaluateByRecursion limit tree).run m ≠ .error (.eval .tooDeep) m') :
  (evaluate limit tree).run m = (evaluateByRecursion limit tree).run m
  := by
  rcases Eval.recursiveAt_approximates limit tree m with heq | ⟨m', hdeep⟩
  · have hevaluate : (evaluate limit tree).run m =
        match (Eval.evalAt limit tree).run m with
        | .ok value after => .ok value after
        | .error cause after => .error (.eval cause) after := rfl
    rw [hevaluate, ← heq]
    rfl
  · apply absurd _ (h m')
    rw [EStateM.run, evaluateByRecursion, hdeep]

/-- The first operand of a chain binds `x`, and then the inner of its two nodes lacks its second
operand. -/
theorem evaluate_eq_recursive_missing :
  ∃ m', (evaluate 5 (.node (.ofKind .plus)
      [.node (.ofKind .times)
        [.node (.ofKind .assign) [.atom ⟨.symbol, some (.text "x")⟩, .atom (.ofKind .truth)]],
      .atom ⟨.symbol, some (.text "y")⟩])).run (.ofEnvironment .empty) =
      .error (.eval .missingOperand) m' ∧ m'.env.get? "x" = some (.truth true)
  := by
  refine ⟨_, (evaluate_eq_recursive 5 _ _ ?_).trans rfl, rfl⟩
  nofun

end ExprScript.Program
