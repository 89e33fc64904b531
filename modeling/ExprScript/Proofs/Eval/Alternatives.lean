import ExprScript.Program
import ExprScript.Proofs.Eval.Congruence
import ExprScript.Proofs.Outcome

/-!
# Alternatives as nested conditionals

A conditional that goes on with the alternatives of another may be written as a block that holds a
conditional of its own.  `Tree.nestAlternatives` does so everywhere in a tree.  Where neither runs
out of depth, evaluating the tree and evaluating it with its alternatives nested give the same value
or stop with errors of one class, and leave the same machine (`evaluate_nestAlternatives`).

The rules of evaluation see the operands of a node through the evaluator of operands only.  So a
rule on rewritten operands is the rule on the operands themselves with an evaluator that first
rewrites (`node_nestAlternatives`), assignments apart, which look at the target itself.
-/

namespace ExprScript

/-! ### Nesting alternatives -/

namespace Tree

mutual

/-- The tree with every conditional that goes on with the alternatives of another replaced by a
block that holds a conditional. -/
def nestAlternatives : Tree → Tree
  | .atom a => .atom a
  | .node head tail =>
    if head.kind = .orConditional then
      .node (.ofKind .block) [.node (.ofKind .conditional) (nestAlternativesAll tail)]
    else .node head (nestAlternativesAll tail)

/-- The trees of a list with their alternatives nested. -/
def nestAlternativesAll : List Tree → List Tree
  | [] => []
  | t :: ts => nestAlternatives t :: nestAlternativesAll ts

end

theorem nestAlternativesAll_eq_map (ts : List Tree) :
  nestAlternativesAll ts = ts.map nestAlternatives
  := by
  induction ts with
  | nil => rfl
  | cons t ts ih => rw [nestAlternativesAll, ih, List.map_cons]

theorem nestAlternatives_orConditional
    {head : Atom} (h : head.kind = .orConditional) (tail : List Tree) :
  nestAlternatives (.node head tail) =
    .node (.ofKind .block) [.node (.ofKind .conditional) (tail.map nestAlternatives)]
  := by
  rw [nestAlternatives, if_pos h, nestAlternativesAll_eq_map]

theorem nestAlternatives_node
    {head : Atom} (h : head.kind ≠ .orConditional) (tail : List Tree) :
  nestAlternatives (.node head tail) = .node head (tail.map nestAlternatives)
  := by
  rw [nestAlternatives, if_neg h, nestAlternativesAll_eq_map]

/-- A node stays a node, and it is arithmetic if it was. -/
theorem exists_nestAlternatives (head : Atom) (tail : List Tree) :
  ∃ head' tail', nestAlternatives (.node head tail) = .node head' tail' ∧
    head'.kind.isArithmetic = head.kind.isArithmetic
  := by
  by_cases h : head.kind = .orConditional
  · rw [nestAlternatives_orConditional h, h]
    exact ⟨_, _, rfl, rfl⟩
  · rw [nestAlternatives_node h]
    exact ⟨_, _, rfl, rfl⟩

end Tree

namespace Eval

/-! ### Rules on rewritten operands -/

section Map

variable (expression : Tree → EvalM Value) (rewriting : Tree → Tree)

theorem operand_map_bind
    (tail : List Tree) (place : Nat) {α : Type} (f : Tree → EvalM α) :
  (operand (tail.map rewriting) place >>= f) = (operand tail place >>= fun t => f (rewriting t))
  := by
  rw [operand, operand, List.getElem?_map]
  cases tail[place]? with
  | none => rfl
  | some t => rfl

theorem block_map (trees : List Tree) :
  block expression (trees.map rewriting) = block (fun t => expression (rewriting t)) trees
  := by
  induction trees with
  | nil => rfl
  | cons first rest ih =>
      cases rest with
      | nil => rfl
      | cons second rest =>
          exact congrArg (fun next => expression (rewriting first) >>= fun _ => next) ih

theorem comparison_map (operation : AtomKind) (tail : List Tree) :
  comparison expression operation (tail.map rewriting) =
    comparison (fun t => expression (rewriting t)) operation tail
  := by
  simp only [comparison, operand_map_bind]

theorem equality_map (operation : AtomKind) (tail : List Tree) :
  equality expression operation (tail.map rewriting) =
    equality (fun t => expression (rewriting t)) operation tail
  := by
  simp only [equality, operand_map_bind]

theorem conditional_map (head : AtomKind) (tail : List Tree) :
  conditional expression head (tail.map rewriting) =
    conditional (fun t => expression (rewriting t)) head tail
  := by
  simp only [conditional, operand_map_bind]

theorem negation_map (tail : List Tree) :
  negation expression (tail.map rewriting) = negation (fun t => expression (rewriting t)) tail
  := by
  simp only [negation, operand_map_bind]

/-- The link with its second operand rewritten. -/
def Link.map (link : Link) : Link :=
  ⟨link.operation, link.second.map rewriting⟩

theorem climb_map (links : List Link) (result : Value) :
  climb expression (links.map (Link.map rewriting)) result =
    climb (fun t => expression (rewriting t)) links result
  := by
  induction links generalizing result with
  | nil => rfl
  | cons link links ih =>
      obtain ⟨operation, second⟩ := link
      cases second with
      | none => rfl
      | some second =>
          rw [List.map_cons, climb, climb]
          simp only [Link.map, Option.map_some, ih]

end Map

/-- The chain of a tree with its alternatives nested is the chain of the tree with the alternatives
of its operands nested. -/
theorem chainOf_nestAlternatives (links : List Link) (tree : Tree) :
  chainOf (links.map (Link.map Tree.nestAlternatives)) tree.nestAlternatives =
    (chainOf links tree).map fun chained =>
      (chained.1.map (Link.map Tree.nestAlternatives), chained.2.nestAlternatives)
  := by
  have hends : ∀ {links head tail}, ¬ head.kind.isArithmetic = true →
      chainOf links (Tree.nestAlternatives (.node head tail)) =
        some (links, Tree.nestAlternatives (.node head tail)) := by
    intro links head tail hmath
    obtain ⟨head', tail', hnode, hkind⟩ := Tree.exists_nestAlternatives head tail
    rw [hnode]
    apply chainOf_of_not_isArithmetic
    rwa [hkind]
  have hnode : ∀ {head : Atom} {tail}, head.kind.isArithmetic = true →
      Tree.nestAlternatives (.node head tail) = .node head (tail.map Tree.nestAlternatives) := by
    intro head tail hmath
    apply Tree.nestAlternatives_node
    intro hkind
    rw [hkind] at hmath
    cases hmath
  fun_induction chainOf links tree with
  | case1 links a => rfl
  | case2 links head hmath =>
      rw [hnode hmath, List.map_nil, chainOf, if_pos hmath]
      rfl
  | case3 links head hmath => apply hends hmath
  | case4 links head first others hmath ih =>
      rw [hnode hmath, List.map_cons, chainOf, if_pos hmath, ← ih, List.map_cons, Link.map,
        List.head?_map]
  | case5 links head first others hmath => apply hends hmath

theorem chain_nestAlternatives (expression : Tree → EvalM Value) (tree : Tree) :
  chain expression tree.nestAlternatives = chain (fun t => expression t.nestAlternatives) tree
  := by
  have hchain := chainOf_nestAlternatives [] tree
  rw [List.map_nil] at hchain
  rw [chain, chain, hchain]
  cases chainOf [] tree with
  | none => rfl
  | some chained => simp only [Option.map_some, climb_map]

/-- A node other than an assignment is evaluated with the alternatives of its operands nested as by
an evaluator that first nests the alternatives of the operands. -/
theorem node_nestAlternatives
    (expression : Tree → EvalM Value) (limit : Nat) {head : Atom}
    (halternative : head.kind ≠ .orConditional) (hassign : head.kind ≠ .assign)
    (tail : List Tree) :
  node expression limit head (tail.map Tree.nestAlternatives) =
    node (fun t => expression t.nestAlternatives) limit head tail
  := by
  have hchain : chain expression (.node head (tail.map Tree.nestAlternatives)) =
      chain (fun t => expression t.nestAlternatives) (.node head tail) := by
    rw [← Tree.nestAlternatives_node halternative]
    apply chain_nestAlternatives
  obtain ⟨kind, datum⟩ := head
  cases kind with
  | plus | minus | times | divide | power => exact hchain
  | negate => apply negation_map
  | assign => cases hassign rfl
  | greater | less => apply comparison_map
  | equal | notEqual => apply equality_map
  | block => apply block_map
  | conditional => apply conditional_map
  | orConditional => cases halternative rfl
  | _ => rfl

/-! ### Evaluation with alternatives nested -/

/-- Whether two errors belong to one class. -/
def SameTitle (e f : EvalError) : Prop := e.title = f.title

theorem congruent_mirrors :
  Congruent (Mirrors .tooDeep SameTitle)
  where
  refl := Mirrors.refl EvalError.tooDeep (fun _ => rfl)
  bind := Mirrors.bind

/-- Targets that are no symbols are reported by errors of one class, unless one of them is too high
to be reported. -/
theorem invalidTarget_mirrors (limit limit' : Nat) (target target' : Tree) :
  Mirrors .tooDeep SameTitle
    (if target.height ≤ limit then throw (.invalidTarget target) else throw .tooDeep : EvalM Value)
    (if target'.height ≤ limit' then throw (.invalidTarget target') else throw .tooDeep)
  := by
  split
  · split
    · exact Mirrors.throw rfl
    · apply Mirrors.of_throw_right
  · apply Mirrors.of_throw_left

theorem assignment_mirrors
    {expression other : Tree → EvalM Value}
    (h : ∀ t, Mirrors .tooDeep SameTitle (expression t) (other t.nestAlternatives))
    (limit limit' : Nat) (tail : List Tree) :
  Mirrors .tooDeep SameTitle (assignment expression limit tail)
    (assignment other limit' (tail.map Tree.nestAlternatives))
  := by
  simp only [assignment, operand_map_bind]
  apply congruent_mirrors.operandValue h
  intro value
  apply congruent_mirrors.bind (congruent_mirrors.refl _)
  intro target
  cases target with
  | atom a =>
      obtain ⟨kind, datum⟩ := a
      rw [Tree.nestAlternatives]
      cases kind with
      | symbol => rcases datum with _ | ⟨name | x⟩ <;> apply congruent_mirrors.refl
      | _ => exact invalidTarget_mirrors limit limit' _ _
  | node head tail =>
      obtain ⟨head', tail', hnode, -⟩ := Tree.exists_nestAlternatives head tail
      rw [hnode]
      exact invalidTarget_mirrors limit limit' _ _

/-- A conditional that goes on with alternatives mirrors a conditional of its own. -/
theorem orConditional_mirrors
    {expression : Tree → EvalM Value}
    (h : ∀ depth t, Mirrors .tooDeep SameTitle (expression t) (evalAt depth t.nestAlternatives))
    (limit depth : Nat) {head : Atom} (hhead : head.kind = .orConditional) (tail : List Tree) :
  Mirrors .tooDeep SameTitle (node expression limit head tail)
    (evalAt depth (.node (.ofKind .conditional) (tail.map Tree.nestAlternatives)))
  := by
  cases depth with
  | zero => apply Mirrors.of_throw_right
  | succ depth =>
      have hnode : node expression limit head tail =
          conditional expression .orConditional tail := by
        rw [node, hhead]
      have hnested : evalAt (depth + 1)
          (.node (.ofKind .conditional) (tail.map Tree.nestAlternatives)) =
            conditional (evalAt depth) .conditional (tail.map Tree.nestAlternatives) := rfl
      rw [hnode, hnested, conditional_map]
      apply congruent_mirrors.conditional (h depth)
      intro value
      exact Mirrors.throw rfl

/-- Evaluating a tree mirrors evaluating it with its alternatives nested, whatever the depths. -/
theorem evalAt_mirrors (depth depth' : Nat) (tree : Tree) :
  Mirrors .tooDeep SameTitle (evalAt depth tree) (evalAt depth' tree.nestAlternatives)
  := by
  induction depth generalizing depth' tree with
  | zero => apply Mirrors.of_throw_left
  | succ depth ih =>
      cases depth' with
      | zero => apply Mirrors.of_throw_right
      | succ depth' =>
          cases tree with
          | atom a => apply congruent_mirrors.refl
          | node head tail =>
              by_cases halternative : head.kind = .orConditional
              · -- the block around the conditional takes one more level of depth
                rw [Tree.nestAlternatives_orConditional halternative]
                exact orConditional_mirrors ih depth depth' halternative tail
              · rw [Tree.nestAlternatives_node halternative, evalAt, Eval.tree, evalAt, Eval.tree]
                by_cases hassign : head.kind = .assign
                · rw [node, node, hassign]
                  apply assignment_mirrors (ih depth')
                · rw [node_nestAlternatives _ _ halternative hassign]
                  apply congruent_mirrors.node (ih depth')
                  intro h
                  cases hassign h

end Eval

namespace Program

/-- For every tree and every machine, whatever its environment and whatever the limits: if neither
evaluating the tree nor evaluating it with its alternatives nested runs out of depth, then the two
give the same value or stop with errors of one class, and leave the same machine, with the same
bindings in every scope. -/
theorem evaluate_nestAlternatives
    (limit limit' : Nat) (tree : Tree) (m : Machine)
    (h : ∀ m', (evaluate limit tree).run m ≠ .error (.eval .tooDeep) m')
    (h' : ∀ m', (evaluate limit' tree.nestAlternatives).run m ≠ .error (.eval .tooDeep) m') :
  RelatedOutcome Eq (fun e f => e.title = f.title) Eq ((evaluate limit tree).run m)
    ((evaluate limit' tree.nestAlternatives).run m)
  := by
  rcases Eval.evalAt_mirrors limit limit' tree m with houtcome | ⟨m', hdeep⟩ | ⟨m', hdeep⟩
  · rw [EStateM.run, EStateM.run, evaluate, evaluate]
    generalize (Eval.evalAt limit tree).run m = outcome at houtcome
    generalize (Eval.evalAt limit' tree.nestAlternatives).run m = outcome' at houtcome
    cases houtcome with
    | ok hvalue hm => exact .ok hvalue hm
    | error htitle hm => exact .error htitle hm
  · apply absurd _ (h m')
    rw [EStateM.run, evaluate, hdeep]
  · apply absurd _ (h' m')
    rw [EStateM.run, evaluate, hdeep]

/-- A condition binds `x` and is false, and the condition of the alternative, which has no third
operand, reads `x`. -/
theorem evaluate_nestAlternatives_binding :
  ∃ m', (evaluate 4 (Tree.nestAlternatives (.node (.ofKind .conditional)
      [.node (.ofKind .block)
        [.node (.ofKind .assign) [.atom ⟨.symbol, some (.text "x")⟩, .atom (.ofKind .truth)],
        .atom (.ofKind .falsity)],
      .node (.ofKind .block) [],
      .node (.ofKind .orConditional)
        [.atom ⟨.symbol, some (.text "x")⟩, .atom ⟨.string, some (.text "y")⟩]]))).run
        (.ofEnvironment .empty) = .ok (.text "y") m' ∧
    m'.env.get? "x" = some (.truth true)
  := by
  let tree : Tree := .node (.ofKind .conditional)
    [.node (.ofKind .block)
      [.node (.ofKind .assign) [.atom ⟨.symbol, some (.text "x")⟩, .atom (.ofKind .truth)],
      .atom (.ofKind .falsity)],
    .node (.ofKind .block) [],
    .node (.ofKind .orConditional)
      [.atom ⟨.symbol, some (.text "x")⟩, .atom ⟨.string, some (.text "y")⟩]]
  have hrun : ∃ m', (evaluate 4 tree).run (.ofEnvironment .empty) = .ok (.text "y") m' ∧
      m'.env.get? "x" = some (.truth true) := ⟨_, rfl, rfl⟩
  obtain ⟨m', hm, hx⟩ := hrun
  have h := evaluate_nestAlternatives 4 4 tree (.ofEnvironment .empty) nofun nofun
  rw [hm] at h
  change ∃ m', (evaluate 4 tree.nestAlternatives).run (.ofEnvironment .empty) = .ok (.text "y") m' ∧
    m'.env.get? "x" = some (.truth true)
  generalize (evaluate 4 tree.nestAlternatives).run (.ofEnvironment .empty) = outcome at h ⊢
  obtain ⟨rfl, rfl⟩ := h
  exact ⟨m', rfl, hx⟩

end Program

end ExprScript
