import ExprScript.Proofs.Grammar.Chain
import ExprScript.Proofs.Grammar.Completeness

/-!
# Reading chains of operators

A chain is read as its tree (`reads_chain`).

A reader with a bound takes a chain off the front of a longer one.  At any moment, two things are
known of the operator that comes next.  It binds no tighter than any operator passed so far binds to
its right, or else it would belong to the operand of that one.  And once a sign has been passed, it
binds no tighter than 20, since the operand of a sign goes on up to such an operator, however
tightly the operator before the sign binds.  This is part of `Takes`, and it makes the operator that
is taken next the root of the chain (`Takes.root`).
-/

namespace ExprScript.Parser

/-- What is known when a reader with a bound has taken the chain `c` and has left the joints
`left`. -/
structure Takes (bound : Int) (c : Chain) (left : List Joint) : Prop where
  /-- All joints bind tighter than the bound, or else tighter than a sign. -/
  tight : ∀ j ∈ c.joints, min bound 20 < j.precedence
  /-- The joints before any sign bind tighter than the bound. -/
  leading : ∀ j ∈ leading c.first c.joints, bound < j.precedence
  /-- The next operator is for no operand of the joints. -/
  next : ∀ k ∈ left.head?, ∀ j ∈ c.joints, k.precedence ≤ j.bound
  /-- The next operator is for no operand of a sign. -/
  signed : ∀ k ∈ left.head?, c.IsSigned → k.precedence ≤ 20

/-- An operand without signs has been taken whatever comes next. -/
theorem Takes.literal {bound : Int} {u : SignedLiteral} (h : u.signs = []) (left : List Joint) :
  Takes bound ⟨u, []⟩ left
  where
  tight := by simp
  leading := by simp [Parser.leading]
  next := by simp
  signed := fun _ _ hsigned => absurd hsigned (by simp [Chain.IsSigned, h])

/-- What a sign takes has been taken by a reader with any bound. -/
theorem Takes.sign
    {bound : Int} {u : SignedLiteral} (h : u.signs ≠ []) {joints left : List Joint}
    (hrest : Takes 20 ⟨u.unsigned, joints⟩ left) (hstop : ∀ k ∈ left.head?, k.precedence ≤ 20) :
  Takes bound ⟨u, joints⟩ left
  where
  tight := by
    intro j hj
    have := hrest.tight j hj
    omega
  leading := by simp [leading_of_signed h]
  next := hrest.next
  signed := fun k hk _ => hstop k hk

section Joint

variable {bound : Int} {p : Chain} {j : Joint} {taken left : List Joint}
  (hp : Takes bound p (j :: (taken ++ left))) (hright : Takes j.bound ⟨j.operand, taken⟩ left)
include hp hright

/-- If a joint comes next, and the reader of its right operand takes some joints, then the joint is
the root of the longer chain. -/
theorem Takes.root :
  Chain.root? ⟨p.first, p.joints ++ j :: taken⟩ = some p.joints.length
  := by
  have hbound := j.bound_bounds
  have hbefore : ∀ x ∈ p.joints, j.precedence ≤ x.bound := hp.next j rfl
  rw [Chain.root?, Chain.candidates]
  by_cases hlow : j.precedence ≤ 20
  · -- the joint counts itself, so all joints count
    rw [if_pos (by simp [hlow])]
    apply rootAmong_append hbefore
    intro x hx
    have := hright.tight x hx
    omega
  · -- no joint binds so loosely, and no sign has been passed
    have htight : ¬ (p.joints ++ j :: taken).any (·.precedence ≤ 20) = true := by
      rw [List.any_eq_true]
      rintro ⟨x, hx, hxlow⟩
      rw [decide_eq_true_iff] at hxlow
      rcases List.mem_append.mp hx with hx | hx
      · have := hbefore x hx
        have := x.bound_bounds
        omega
      rcases List.mem_cons.mp hx with rfl | hx
      · contradiction
      · have := hright.tight x hx
        omega
    have hunsigned : ¬ p.IsSigned := fun hsigned => hlow (hp.signed j rfl hsigned)
    rw [if_neg htight, leading_append hunsigned]
    apply rootAmong_append hbefore hright.leading

/-- If a joint comes next that binds tighter than the bound, and the reader of its right operand
takes some joints, then the longer chain has been taken. -/
theorem Takes.join (htighter : bound < j.precedence)
    (hstop : ∀ k ∈ left.head?, k.precedence ≤ j.bound) :
  Takes bound ⟨p.first, p.joints ++ j :: taken⟩ left
  where
  tight := by
    have hbound := j.bound_bounds
    intro x hx
    rcases List.mem_append.mp hx with hx | hx
    · apply hp.tight x hx
    rcases List.mem_cons.mp hx with rfl | hx
    · omega
    · have := hright.tight x hx
      omega
  leading := by
    have hbound := j.bound_bounds
    intro x hx
    rcases mem_leading_append hx with hx | rfl | hx
    · apply hp.leading x hx
    · apply htighter
    · have := hright.leading x hx
      omega
  next := by
    intro k hk x hx
    rcases List.mem_append.mp hx with hx | hx
    · have := hp.next j rfl x hx
      have := hstop k hk
      have := j.bound_bounds
      omega
    rcases List.mem_cons.mp hx with rfl | hx
    · apply hstop k hk
    · apply hright.next k hk x hx
  signed := by
    intro k hk hsigned
    by_cases hp' : p.IsSigned
    · have := hp.signed j rfl hp'
      have := hstop k hk
      have := j.bound_bounds
      omega
    · apply hright.signed k hk
      by_contra hright'
      rw [Chain.not_isSigned_iff] at hp' hright'
      apply Chain.not_isSigned_iff.mpr _ hsigned
      refine ⟨hp'.1, ?_⟩
      rw [List.forall_mem_append, List.forall_mem_cons]
      exact ⟨hp'.2, hright'⟩

end Joint

/-! ### Reading -/

/-- Where a reader stops, the next joint binds no tighter than its bound. -/
theorem precedence_le_of_upcoming
    {bound : Int} {left : List Joint} {rest : List Token}
    (h : (upcoming (left.flatMap Joint.tokens ++ rest)).precedence ≤ bound) :
  ∀ k ∈ left.head?, k.precedence ≤ bound
  := by
  intro k hk
  cases left with
  | nil => cases hk
  | cons j left =>
      cases hk
      exact h

/-- Whether every chain of at most `depth` tokens is read as far as it can be taken. -/
def ReadsChains (depth : Nat) : Prop :=
  ∀ ⦃c : Chain⦄ ⦃rest : List Token⦄ ⦃bound : Int⦄, c.tokens.length ≤ depth → 0 ≤ bound →
    Quiet rest →
    ∃ taken left, c.joints = taken ++ left ∧ Takes bound ⟨c.first, taken⟩ left ∧
      Reads depth bound (c.tokens ++ rest) (Chain.tree ⟨c.first, taken⟩)
        (left.flatMap Joint.tokens ++ rest)

section Depth

variable {depth : Nat} (hdepth : ReadsChains depth) {rest : List Token} (hrest : Quiet rest)
include hdepth hrest

/-- An operand starts a chain, of which a literal takes nothing but itself, and a sign takes as much
as it can. -/
theorem ReadsChains.start
    {bound : Int} {u : SignedLiteral} {token : Token} {others : List Token}
    (hu : u.tokens = token :: others) {joints : List Joint}
    (hlength : (others ++ joints.flatMap Joint.tokens).length ≤ depth) :
  ∃ taken left, joints = taken ++ left ∧ Takes bound ⟨u, taken⟩ left ∧
    StartReading (Reads depth) token (others ++ (joints.flatMap Joint.tokens ++ rest))
      (Chain.tree ⟨u, taken⟩) (left.flatMap Joint.tokens ++ rest)
  := by
  cases hsigns : u.signs with
  | nil =>
      rw [SignedLiteral.tokens, hsigns] at hu
      obtain ⟨rfl, rfl⟩ := List.cons.inj hu
      refine ⟨[], joints, rfl, .literal hsigns joints, ?_⟩
      rw [Chain.tree_of_literal hsigns]
      exact .leaf u.isLiteral (Token.toAtom_eq_atom _)
  | cons sign signs =>
      rw [SignedLiteral.tokens_of_signs hsigns] at hu
      obtain ⟨rfl, rfl⟩ := List.cons.inj hu
      obtain ⟨taken, left, hjoints, htakes, hreads⟩ :=
        hdepth (c := ⟨u.unsigned, joints⟩) hlength (by decide : (0 : Int) ≤ 20) hrest
      have hsigned : u.signs ≠ [] := by simp [hsigns]
      have hstop := precedence_le_of_upcoming (reads_upcoming_le hreads)
      refine ⟨taken, left, hjoints, htakes.sign hsigned hstop, ?_⟩
      rw [Chain.tokens, List.append_assoc] at hreads
      rw [Chain.tree_of_sign hsigned htakes.tight]
      simp only [hsigns, List.head_cons]
      rcases u.isSign sign (by simp [hsigns]) with hplus | hminus
      · rw [if_neg (by simp [hplus])]
        exact .plus hplus hreads
      · rw [if_pos hminus]
        exact .minus hminus hreads

/-- After a chain has been taken, the joints left are read as far as they bind tighter than the
bound, and the tree so far becomes the tree of the longer chain. -/
theorem ReadsChains.continuation
    {bound : Int} (hbound : 0 ≤ bound) {p : Chain} {left : List Joint} (hp : Takes bound p left)
    (hlength : (left.flatMap Joint.tokens).length ≤ depth) :
  ∃ taken left', left = taken ++ left' ∧ Takes bound ⟨p.first, p.joints ++ taken⟩ left' ∧
    ContinuationReading (Reads depth) bound p.tree (left.flatMap Joint.tokens ++ rest)
      (Chain.tree ⟨p.first, p.joints ++ taken⟩) (left'.flatMap Joint.tokens ++ rest)
  := by
  induction hk : left.length using Nat.strongRecOn generalizing p left with
  | ind k ih =>
      by_cases hstop : (upcoming (left.flatMap Joint.tokens ++ rest)).precedence ≤ bound
      · refine ⟨[], left, rfl, ?_⟩
        rw [List.append_nil]
        exact ⟨hp, .stop hstop⟩
      cases left with
      | nil =>
          rw [List.flatMap_nil, List.nil_append, hrest.precedence] at hstop
          contradiction
      | cons j js =>
          have htighter : bound < j.precedence := Int.not_le.mp hstop
          have hjbound : 0 ≤ j.bound := rightBound_nonneg j.isOperator
          have hoperand : (Chain.tokens ⟨j.operand, js⟩).length < depth := hlength
          obtain ⟨taken, left, rfl, htakes, hreads⟩ :=
            hdepth (c := ⟨j.operand, js⟩) (Nat.le_of_lt hoperand) hjbound hrest
          have hnext := precedence_le_of_upcoming (reads_upcoming_le hreads)
          have hleft : (left.flatMap Joint.tokens).length ≤ depth := by
            simp only [Chain.tokens, List.flatMap_append, List.length_append] at hoperand
            omega
          rw [List.length_cons, List.length_append] at hk
          obtain ⟨taken', left', rfl, htakes', hmore⟩ :=
            ih left.length (by omega) (hp.join htakes htighter hnext) hleft rfl
          refine ⟨j :: (taken ++ taken'), left', by simp, by simpa using htakes', ?_⟩
          rw [Chain.tree_of_root (hp.root htakes)] at hmore
          have hatom := Token.toAtom_eq_atom j.exists_toAtom
          have hstep := ContinuationReading.step htighter j.isOperator hatom hreads hmore
          simpa [Joint.tokens, Chain.tokens] using hstep

/-- If chains are read with expressions nested up to a depth, then chains of one more token are read
with expressions nested one deeper. -/
theorem ReadsChains.expression
    {bound : Int} (hbound : 0 ≤ bound) {c : Chain} (hlength : c.tokens.length ≤ depth + 1) :
  ∃ taken left, c.joints = taken ++ left ∧ Takes bound ⟨c.first, taken⟩ left ∧
    Reads (depth + 1) bound (c.tokens ++ rest) (Chain.tree ⟨c.first, taken⟩)
      (left.flatMap Joint.tokens ++ rest)
  := by
  obtain ⟨token, others, hfirst⟩ := List.exists_cons_of_ne_nil c.first.tokens_ne_nil
  rw [Chain.tokens, hfirst, List.cons_append, List.length_cons] at hlength
  obtain ⟨taken, left, hjoints, htakes, hstart⟩ :=
    hdepth.start hrest hfirst (Nat.le_of_succ_le_succ hlength)
  have hleft : (left.flatMap Joint.tokens).length ≤ depth := by
    simp only [hjoints, List.flatMap_append, List.length_append] at hlength
    omega
  obtain ⟨taken', left', rfl, htakes', hcontinuation⟩ :=
    hdepth.continuation hrest hbound htakes hleft
  refine ⟨taken ++ taken', left', by rw [hjoints, List.append_assoc], htakes', ?_⟩
  rw [Chain.tokens, hfirst, List.append_assoc]
  exact .intro hstart hcontinuation

end Depth

/-- Every chain is read as far as it can be taken. -/
theorem readsChains (depth : Nat) :
  ReadsChains depth
  := by
  induction depth with
  | zero =>
      intro c rest bound hlength
      have := List.length_pos_iff.mpr c.first.tokens_ne_nil
      rw [Chain.tokens, List.length_append] at hlength
      omega
  | succ depth ih =>
      intro c rest bound hlength hbound hrest
      apply ih.expression hrest hbound hlength

/-- A chain before tokens that do not go on with an operator is read as its tree. -/
theorem reads_chain
    {c : Chain} {depth : Nat} (hlength : c.tokens.length ≤ depth) {rest : List Token}
    (hrest : Quiet rest) :
  Reads depth 0 (c.tokens ++ rest) c.tree rest
  := by
  obtain ⟨taken, left, hjoints, -, hreads⟩ := readsChains depth hlength (Int.le_refl 0) hrest
  have hstop := precedence_le_of_upcoming (reads_upcoming_le hreads)
  have hleft : left = [] := by
    cases left with
    | nil => rfl
    | cons j left =>
        have hpositive : 0 < j.precedence := (isOperator_iff j.operator.kind).mp j.isOperator
        have := hstop j rfl
        omega
  rw [hleft, List.append_nil] at hjoints
  rwa [hleft, ← hjoints] at hreads

end ExprScript.Parser
