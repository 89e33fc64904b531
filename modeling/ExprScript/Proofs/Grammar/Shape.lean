import ExprScript.Proofs.Grammar.Realization

/-!
# Shapes of the trees read

Every tree that is read is well shaped (`reads_wellShaped`, `BlockReading.wellShaped`).  The
tables of the parser and of the trees agree: the atom of an operator heads nodes of two operands,
and the atom of a literal is a leaf that carries what it needs.  This holds of any tokens, since a
token without its payload is no atom.
-/

namespace ExprScript.Parser

open ExprScript.Tree (WellShaped)

/-- The atom of a token carries what its kind needs. -/
theorem fault?_of_toAtom {token : Token} {atom : Atom} (h : token.toAtom = .ok atom) :
  atom.fault? = none
  := by
  obtain ⟨kind, payload⟩ := token
  cases kind with
  | number | symbol =>
      rcases payload with _ | ⟨_ | _ | _ | _⟩ <;> cases h
      rfl
  | _ => cases h <;> rfl

theorem wellShaped_block {trees : List Tree} (h : ∀ t ∈ trees, WellShaped t) :
  WellShaped (.node (.ofKind .block) trees)
  := .node rfl rfl h

section Shape

variable {E : Int → Reading Tree}
  (hE : ∀ {bound ts tree rest}, E bound ts tree rest → WellShaped tree)
include hE

theorem BlockReading.wellShaped {ts rest : List Token} {trees : List Tree}
    (h : BlockReading E ts trees rest) :
  ∀ t ∈ trees, WellShaped t
  := by
  induction h with
  | close _ => simp
  | more _ hfirst _ ih =>
      rw [List.forall_mem_cons]
      exact ⟨hE hfirst, ih⟩

theorem AlternativeReading.wellShaped {ts rest : List Token} {tree : Tree}
    (h : AlternativeReading E ts tree rest) :
  WellShaped tree
  := by
  cases h with
  | close _ => apply WellShaped.leaf <;> rfl
  | other _ hother => apply hE hother

theorem ConditionalReading.wellShaped {head : AtomKind} {ts rest : List Token} {tree : Tree}
    (hhead : head.takes 3 = true) (h : ConditionalReading E head ts tree rest) :
  WellShaped tree
  := by
  cases h with
  | intro hcondition _ hblock halternative =>
      apply WellShaped.node rfl hhead
      simp only [List.forall_mem_cons, List.not_mem_nil, false_implies, implies_true, and_true]
      exact ⟨hE hcondition, wellShaped_block (hblock.wellShaped hE), halternative.wellShaped hE⟩

theorem StartReading.wellShaped {token : Token} {ts rest : List Token} {tree : Tree}
    (h : StartReading E token ts tree rest) :
  WellShaped tree
  := by
  cases h with
  | leaf hkind hatom =>
      apply WellShaped.leaf (fault?_of_toAtom hatom) (isLeaf_of_toAtom hkind hatom)
  | parentheses _ hinner _ => apply hE hinner
  | plus _ hoperand => apply hE hoperand
  | minus _ hoperand =>
      apply WellShaped.node rfl rfl
      simpa using hE hoperand
  | conditional _ hconditional => apply hconditional.wellShaped hE rfl
  | orConditional _ hconditional => apply hconditional.wellShaped hE rfl
  | otherwise _ hblock _ => apply wellShaped_block (hblock.wellShaped hE)

theorem ContinuationReading.wellShaped
    {bound : Int} {left tree : Tree} {ts rest : List Token}
    (h : ContinuationReading E bound left ts tree rest) (hleft : WellShaped left) :
  WellShaped tree
  := by
  induction h with
  | stop _ => apply hleft
  | step _ hoperator hop hright _ ih =>
      obtain ⟨kind, hatom, htakes⟩ := toAtom_of_isOperator hoperator
      rw [hatom] at hop
      cases hop
      apply ih
      apply WellShaped.node rfl htakes
      simp only [List.forall_mem_cons, List.not_mem_nil, false_implies, implies_true, and_true]
      exact ⟨hleft, hE hright⟩

end Shape

/-- Every tree that is read as an expression is well shaped. -/
theorem reads_wellShaped
    {depth : Nat} {bound : Int} {ts rest : List Token} {tree : Tree}
    (h : Reads depth bound ts tree rest) :
  WellShaped tree
  := by
  induction depth generalizing bound ts tree rest with
  | zero => cases h
  | succ depth ih =>
      obtain ⟨hstart, hcontinuation⟩ := h
      apply hcontinuation.wellShaped ih (hstart.wellShaped ih)

end ExprScript.Parser
