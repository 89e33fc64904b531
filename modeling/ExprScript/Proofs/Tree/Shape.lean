import ExprScript.Tree.Build
import Mathlib.Tactic.Common

/-!
# Shapes of trees

A tree is well shaped when each of its leaves carries what its kind needs, and each of its nodes
is headed by an operation with a rule of evaluation and has as many operands as the operation
takes.  A well-shaped tree passes the checks of the constructors (`WellShaped.wellFormed`), which
know nothing of numbers of operands.
-/

namespace ExprScript

/-- Whether a node headed by the kind takes `n` operands.  No kind without a rule of evaluation
takes any number of operands. -/
def AtomKind.takes : AtomKind → (n : Nat) → Bool
  | .plus, n | .minus, n | .times, n | .divide, n | .power, n | .equal, n | .notEqual, n
  | .greater, n | .less, n | .assign, n => n == 2
  | .negate, n => n == 1
  | .conditional, n | .orConditional, n => n == 3
  | .block, _ => true
  | _, _ => false

/-- How many operands the rule of evaluation of a kind looks for.  The rule of a block looks for
none in particular. -/
def AtomKind.asksFor : AtomKind → Nat
  | .plus | .minus | .times | .divide | .power | .equal | .notEqual | .greater | .less
  | .assign => 2
  | .negate => 1
  | .conditional | .orConditional => 3
  | _ => 0

/-- Whether a node headed by the kind has a rule of evaluation. -/
def AtomKind.hasRule : AtomKind → Bool
  | .invert | .otherwise | .close => false
  | kind => !kind.isLeaf

/-- A kind that takes operands has a rule of evaluation, which looks for no more of them. -/
theorem AtomKind.hasRule_of_takes {kind : AtomKind} {n : Nat} (h : kind.takes n = true) :
  kind.hasRule = true ∧ kind.asksFor ≤ n
  := by
  cases kind with
  | block => exact ⟨rfl, Nat.zero_le n⟩
  | plus | minus | times | divide | power | equal | notEqual | greater | less | assign | negate
  | conditional | orConditional => exact ⟨rfl, Nat.le_of_eq (eq_of_beq h).symm⟩
  | _ => cases h

/-- The rule of an arithmetic operation looks for two operands. -/
theorem AtomKind.asksFor_of_isArithmetic {kind : AtomKind} (h : kind.isArithmetic = true) :
  kind.asksFor = 2
  := by
  cases kind <;> first | rfl | cases h

/-- A kind that takes operands is no leaf. -/
theorem AtomKind.isLeaf_of_takes {kind : AtomKind} {n : Nat} (h : kind.takes n = true) :
  kind.isLeaf = false
  := by
  cases kind <;> first | rfl | cases h

/-- An atom that is no leaf has no fault. -/
theorem Atom.fault?_of_not_isLeaf {a : Atom} (h : a.kind.isLeaf = false) :
  a.fault? = none
  := by
  obtain ⟨kind, datum⟩ := a
  cases kind <;> first | rfl | cases h

namespace Tree

/-- Whether every leaf carries what its kind needs and every node has as many operands as its
head takes. -/
inductive WellShaped : Tree → Prop
  | leaf {a : Atom} :
      a.fault? = none → a.kind.isLeaf = true → WellShaped (.atom a)
  | node {head : Atom} {tail : List Tree} :
      head.datum = none → head.kind.takes tail.length = true → (∀ t ∈ tail, WellShaped t) →
      WellShaped (.node head tail)

/-- Well-shaped trees may stand together in a tail. -/
theorem WellShaped.tailFault? {tail : List Tree} (h : ∀ t ∈ tail, WellShaped t) :
  Tree.tailFault? tail = none
  := by
  induction tail with
  | nil => rfl
  | cons t tail ih =>
      rw [List.forall_mem_cons] at h
      obtain ⟨ht, htail⟩ := h
      cases ht with
      | leaf _ hleaf =>
          rw [Tree.tailFault?, if_pos hleaf]
          apply ih htail
      | node _ _ _ => apply ih htail

theorem wellFormedAll_iff (ts : List Tree) :
  WellFormedAll ts ↔ ∀ t ∈ ts, WellFormed t
  := by
  induction ts with
  | nil => simp [WellFormedAll]
  | cons t ts ih => rw [WellFormedAll, List.forall_mem_cons, ih]

/-- A well-shaped tree passes the checks of the constructors, and so does every tree in it. -/
theorem WellShaped.wellFormed {tree : Tree} (h : WellShaped tree) :
  WellFormed tree
  := by
  induction h with
  | leaf hfault _ => rwa [WellFormed]
  | @node head tail _ htakes htail ih =>
      have hleaf := AtomKind.isLeaf_of_takes htakes
      rw [WellFormed, wellFormedAll_iff]
      refine ⟨Atom.fault?_of_not_isLeaf hleaf, ?_, WellShaped.tailFault? htail, ih⟩
      rw [headFault?, hleaf]
      rfl

end Tree

end ExprScript
