import ExprScript.Proofs.Tree.Occurrence

/-!
# Branches of conditionals

A tree is well branched when every conditional that occurs in it has a block as its second operand,
and nothing, a block, or a conditional that goes on with the alternatives as its third one
(`wellBranched_conditional`, `wellBranched_node`).
-/

namespace ExprScript.Tree

/-- Whether the tree is a node with a head of the kind. -/
def IsHeadedBy (kind : AtomKind) : Tree → Prop
  | .atom _ => False
  | .node head _ => head.kind = kind

/-- Whether the tree is a block or a conditional that goes on with the alternatives. -/
def IsAlternative (tree : Tree) : Prop :=
  tree.IsHeadedBy .block ∨ tree.IsHeadedBy .orConditional

/-- Whether the tree may be the third operand of a conditional. -/
def IsOtherwise (tree : Tree) : Prop :=
  tree = .atom (.ofKind .nothing) ∨ tree.IsAlternative

/-- Whether the tree, if it is a conditional, has three operands, of which the second is a block and
the third is in `P`. -/
def Branches (P : Tree → Prop) (tree : Tree) : Prop :=
  ∀ head tail, tree = .node head tail → head.kind = .conditional ∨ head.kind = .orConditional →
    ∃ condition branch otherwise, tail = [condition, branch, otherwise] ∧
      branch.IsHeadedBy .block ∧ P otherwise

/-- Whether the third operand of every conditional that occurs in the tree is one that it may
have. -/
def WellBranched (tree : Tree) : Prop :=
  tree.Everywhere (Branches IsOtherwise)

theorem wellBranched_atom (a : Atom) :
  WellBranched (.atom a)
  := by
  apply everywhere_atom
  rintro _ _ ⟨⟩

/-- A node that is no conditional is well branched exactly when its operands are. -/
theorem wellBranched_node
    {head : Atom} (hhead : ¬ (head.kind = .conditional ∨ head.kind = .orConditional))
    {tail : List Tree} :
  WellBranched (.node head tail) ↔ ∀ t ∈ tail, WellBranched t
  := by
  rw [WellBranched, everywhere_node]
  apply and_iff_right
  rintro _ _ ⟨⟩ h
  exact absurd h hhead

theorem wellBranched_block {trees : List Tree} :
  WellBranched (.node (.ofKind .block) trees) ↔ ∀ t ∈ trees, WellBranched t
  := by
  apply wellBranched_node
  simp [Atom.ofKind]

/-- A conditional with a block is well branched exactly when its operands are, and its third operand
is one that it may have. -/
theorem wellBranched_conditional
    {head : AtomKind} (hhead : head = .conditional ∨ head = .orConditional)
    {condition otherwise : Tree} {trees : List Tree} :
  WellBranched (.node (.ofKind head) [condition, .node (.ofKind .block) trees, otherwise]) ↔
    WellBranched condition ∧ (∀ t ∈ trees, WellBranched t) ∧ WellBranched otherwise ∧
      otherwise.IsOtherwise
  := by
  have hshape : Branches IsOtherwise
      (.node (.ofKind head) [condition, .node (.ofKind .block) trees, otherwise]) ↔
        otherwise.IsOtherwise := by
    constructor
    · intro h
      obtain ⟨_, _, _, ⟨⟩, -, hotherwise⟩ := h _ _ rfl hhead
      exact hotherwise
    · rintro hotherwise _ _ ⟨⟩ -
      exact ⟨_, _, _, rfl, rfl, hotherwise⟩
  rw [WellBranched, everywhere_node, hshape, ← wellBranched_block]
  simp only [List.forall_mem_cons, List.not_mem_nil, false_implies, implies_true, and_true]
  rw [and_comm, and_assoc, and_assoc]
  exact Iff.rfl

end ExprScript.Tree
