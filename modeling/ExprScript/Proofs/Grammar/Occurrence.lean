import ExprScript.Proofs.Grammar.Derivation
import ExprScript.Proofs.Tree.Occurrence

/-!
# How the trees that occur in a program are made

Every tree that occurs in a tree read as an expression is made by one of the rules: it is the leaf
of a literal, the leaf that stands for nothing, a negation, an operation, a block, or a conditional
(`reads_everywhere`, `BlockReading.everywhere`).  What the rules say of these trees therefore holds
everywhere in a program.
-/

namespace ExprScript.Parser

open ExprScript.Tree (Everywhere everywhere_atom everywhere_node)

/-- Whether the tree is made by a rule, from expressions read by `E`. -/
inductive MadeByRule (E : Int → Reading Tree) : Tree → Prop
  | literal {token : Token} {atom : Atom} :
      IsLiteral token → token.toAtom = .ok atom → MadeByRule E (.atom atom)
  | nothing :
      MadeByRule E (.atom (.ofKind .nothing))
  | negation {operand : Tree} :
      MadeByRule E (.node (.ofKind .negate) [operand])
  | operation {token : Token} {op : Atom} {left right : Tree} :
      isOperator token.kind = true → token.toAtom = .ok op → MadeByRule E (.node op [left, right])
  | block {trees : List Tree} :
      MadeByRule E (.node (.ofKind .block) trees)
  | conditional {head : AtomKind} {condition otherwise : Tree} {trees : List Tree}
      {ts rest : List Token} :
      head = .conditional ∨ head = .orConditional → AlternativeReading E ts otherwise rest →
      MadeByRule E (.node (.ofKind head) [condition, .node (.ofKind .block) trees, otherwise])

section Everywhere

variable {E : Int → Reading Tree} {P : Tree → Prop} (hmade : ∀ {t}, MadeByRule E t → P t)
  (hE : ∀ {bound ts tree rest}, E bound ts tree rest → Everywhere P tree)
include hE

theorem BlockReading.everywhere {ts rest : List Token} {trees : List Tree}
    (h : BlockReading E ts trees rest) :
  ∀ t ∈ trees, Everywhere P t
  := by
  induction h with
  | close _ => simp
  | more _ hfirst _ ih =>
      rw [List.forall_mem_cons]
      exact ⟨hE hfirst, ih⟩

include hmade

theorem AlternativeReading.everywhere {ts rest : List Token} {tree : Tree}
    (h : AlternativeReading E ts tree rest) :
  Everywhere P tree
  := by
  cases h with
  | close _ => apply everywhere_atom (hmade .nothing)
  | other _ hother => apply hE hother

theorem ConditionalReading.everywhere {head : AtomKind} {ts rest : List Token} {tree : Tree}
    (hhead : head = .conditional ∨ head = .orConditional)
    (h : ConditionalReading E head ts tree rest) :
  Everywhere P tree
  := by
  obtain ⟨hcondition, -, hblock, halternative⟩ := h
  have hbranch := everywhere_node.mpr ⟨hmade .block, hblock.everywhere hE⟩
  rw [everywhere_node]
  constructor
  · apply hmade (.conditional hhead halternative)
  · simp only [List.forall_mem_cons, List.not_mem_nil, false_implies, implies_true, and_true]
    exact ⟨hE hcondition, hbranch, halternative.everywhere hmade hE⟩

theorem StartReading.everywhere {token : Token} {ts rest : List Token} {tree : Tree}
    (h : StartReading E token ts tree rest) :
  Everywhere P tree
  := by
  cases h with
  | leaf hkind hatom => apply everywhere_atom (hmade (.literal hkind hatom))
  | parentheses _ hinner _ => apply hE hinner
  | plus _ hoperand => apply hE hoperand
  | minus _ hoperand =>
      rw [everywhere_node]
      constructor
      · apply hmade .negation
      · apply List.forall_mem_singleton.mpr (hE hoperand)
  | conditional _ hconditional => apply hconditional.everywhere hmade hE (.inl rfl)
  | orConditional _ hconditional => apply hconditional.everywhere hmade hE (.inr rfl)
  | otherwise _ hblock _ => exact everywhere_node.mpr ⟨hmade .block, hblock.everywhere hE⟩

theorem ContinuationReading.everywhere
    {bound : Int} {left tree : Tree} {ts rest : List Token}
    (h : ContinuationReading E bound left ts tree rest) (hleft : Everywhere P left) :
  Everywhere P tree
  := by
  induction h with
  | stop _ => apply hleft
  | step _ hoperator hop hright _ ih =>
      apply ih
      rw [everywhere_node]
      constructor
      · apply hmade (.operation hoperator hop)
      · simp only [List.forall_mem_cons, List.not_mem_nil, false_implies, implies_true, and_true]
        exact ⟨hleft, hE hright⟩

end Everywhere

/-- What holds of the trees that the rules make holds everywhere in a tree that is read. -/
theorem reads_everywhere
    {P : Tree → Prop} (hmade : ∀ {depth t}, MadeByRule (Reads depth) t → P t) {depth : Nat}
    {bound : Int} {ts rest : List Token} {tree : Tree} (h : Reads depth bound ts tree rest) :
  Everywhere P tree
  := by
  induction depth generalizing bound ts tree rest with
  | zero => cases h
  | succ depth ih =>
      obtain ⟨hstart, hcontinuation⟩ := h
      apply hcontinuation.everywhere hmade ih (hstart.everywhere hmade ih)

end ExprScript.Parser
