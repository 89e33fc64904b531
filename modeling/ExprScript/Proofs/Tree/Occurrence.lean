import ExprScript.Tree.Basic
import Mathlib.Tactic.Common

/-!
# Occurrences in a tree

A tree occurs in itself and in every node of which it occurs in an operand.  A tree mentions the
names of the symbols that occur in it as leaves, and it assigns to the names of the symbols that are
the first operand of an assignment in it.  What holds everywhere in a tree holds of every tree that
occurs in it.
-/

namespace ExprScript.Tree

/-- Whether the first tree is the second or occurs in an operand of it. -/
inductive OccursIn (t : Tree) : Tree → Prop
  | self : OccursIn t t
  | operand {head : Atom} {tail : List Tree} {u : Tree} :
      u ∈ tail → OccursIn t u → OccursIn t (.node head tail)

/-- An operand of a node occurs where the node does. -/
theorem OccursIn.of_mem
    {head : Atom} {tail : List Tree} {tree : Tree} (h : OccursIn (.node head tail) tree) {t : Tree}
    (ht : t ∈ tail) :
  OccursIn t tree
  := by
  induction h with
  | self => apply OccursIn.operand ht .self
  | operand hu _ ih => apply OccursIn.operand hu ih

theorem occursIn_atom {a b : Atom} :
  OccursIn (.atom a) (.atom b) ↔ a = b
  := by
  constructor
  · rintro ⟨⟩
    rfl
  · rintro rfl
    apply OccursIn.self

/-- A leaf occurs in a node exactly when it occurs in an operand. -/
theorem atom_occursIn_node {a head : Atom} {tail : List Tree} :
  OccursIn (.atom a) (.node head tail) ↔ ∃ t ∈ tail, OccursIn (.atom a) t
  := by
  constructor
  · rintro (_ | ⟨ht, h⟩)
    exact ⟨_, ht, h⟩
  · rintro ⟨t, ht, h⟩
    apply OccursIn.operand ht h

/-- Whether every tree that occurs in the tree is in `P`. -/
def Everywhere (P : Tree → Prop) (tree : Tree) : Prop :=
  ∀ t, OccursIn t tree → P t

theorem everywhere_atom {P : Tree → Prop} {a : Atom} (h : P (.atom a)) :
  Everywhere P (.atom a)
  := by
  rintro _ ⟨⟩
  exact h

/-- What holds everywhere in a node holds of the node and everywhere in its operands. -/
theorem everywhere_node {P : Tree → Prop} {head : Atom} {tail : List Tree} :
  Everywhere P (.node head tail) ↔ P (.node head tail) ∧ ∀ t ∈ tail, Everywhere P t
  := by
  constructor
  · intro h
    constructor
    · apply h _ .self
    · intro t ht u hu
      apply h u (.operand ht hu)
  · rintro ⟨hnode, htail⟩ _ (_ | ⟨ht, h⟩)
    · exact hnode
    · apply htail _ ht _ h

/-- Whether a symbol with the name occurs in the tree. -/
def Mentions (tree : Tree) (name : String) : Prop :=
  OccursIn (.atom ⟨.symbol, some (.text name)⟩) tree

/-- Whether a symbol with the name is the target of an assignment in the tree. -/
def Assigns (tree : Tree) (name : String) : Prop :=
  ∃ datum others,
    OccursIn (.node ⟨.assign, datum⟩ (.atom ⟨.symbol, some (.text name)⟩ :: others)) tree

end ExprScript.Tree
