import ExprScript.Proofs.Grammar.Derivation
import ExprScript.Proofs.Grammar.Failure

/-!
# Whatever is derived is read

An expression of the grammar, before tokens that do not go on with an operator, is read to its
end, and so are statements before a token that closes a block, provided that nesting may be
deep enough (`Readable.whole`, `Derives.readsBlock`).

A reader with a greater bound stops earlier, in front of an operator: what it leaves of an
expression is a tail, which is nothing or an operator before an expression.  The greedy reader
takes a following sign for an operator, which `Derives.split` allows for.  All of this goes by
induction on the number of tokens, since the tokens given to a nested reader need not be a phrase
of the derivation: a sign is followed by an operand, but its reader sees the whole rest of the
expression.
-/

namespace ExprScript.Parser

/-! ### More depth reads no less -/

/-- What is read with expressions nested up to a depth is read with expressions nested
deeper. -/
theorem reads_mono
    {depth deeper : Nat} (hdepth : depth ≤ deeper) {bound : Int} {ts rest : List Token}
    {tree : Tree} (h : Reads depth bound ts tree rest) :
  Reads deeper bound ts tree rest
  := by
  obtain ⟨log, hrun⟩ := (parseAt_realizes depth bound).complete h 0 #[]
  rcases parseAt_approximates hdepth bound ⟨ts, 0, #[]⟩ with heq | ⟨s, herror⟩
  · rw [hrun] at heq
    exact ((parseAt_realizes deeper bound).sound heq.symm).1
  · rw [hrun] at herror
    cases herror

section Monotone

variable {E F : Int → Reading Tree}
  (hEF : ∀ {bound ts tree rest}, E bound ts tree rest → F bound ts tree rest)
include hEF

theorem BlockReading.mono {ts rest : List Token} {trees : List Tree}
    (h : BlockReading E ts trees rest) :
  BlockReading F ts trees rest
  := by
  induction h with
  | close hclose => apply BlockReading.close hclose
  | more hopen hfirst _ ih => apply BlockReading.more hopen (hEF hfirst) ih

theorem AlternativeReading.mono {ts rest : List Token} {tree : Tree}
    (h : AlternativeReading E ts tree rest) :
  AlternativeReading F ts tree rest
  := by
  cases h with
  | close hclose => apply AlternativeReading.close hclose
  | other hword hother => apply AlternativeReading.other hword (hEF hother)

theorem ConditionalReading.mono {head : AtomKind} {ts rest : List Token} {tree : Tree}
    (h : ConditionalReading E head ts tree rest) :
  ConditionalReading F head ts tree rest
  := by
  cases h with
  | intro hcondition hword hblock halternative =>
      apply ConditionalReading.intro (hEF hcondition) hword (hblock.mono hEF)
        (halternative.mono hEF)

theorem StartReading.mono {token : Token} {ts rest : List Token} {tree : Tree}
    (h : StartReading E token ts tree rest) :
  StartReading F token ts tree rest
  := by
  cases h with
  | leaf hkind hatom => apply StartReading.leaf hkind hatom
  | parentheses hkind hinner hclose => apply StartReading.parentheses hkind (hEF hinner) hclose
  | plus hkind hoperand => apply StartReading.plus hkind (hEF hoperand)
  | minus hkind hoperand => apply StartReading.minus hkind (hEF hoperand)
  | conditional hkind h => apply StartReading.conditional hkind (h.mono hEF)
  | orConditional hkind h => apply StartReading.orConditional hkind (h.mono hEF)
  | otherwise hkind hblock hclose => apply StartReading.otherwise hkind (hblock.mono hEF) hclose

theorem ContinuationReading.mono {bound : Int} {left tree : Tree} {ts rest : List Token}
    (h : ContinuationReading E bound left ts tree rest) :
  ContinuationReading F bound left ts tree rest
  := by
  induction h with
  | stop hstop => apply ContinuationReading.stop hstop
  | step hbound hoperator hop hright _ ih =>
      apply ContinuationReading.step hbound hoperator hop (hEF hright) ih

end Monotone

/-- A reader of expressions stops in front of a token that binds no tighter than its bound. -/
theorem ContinuationReading.upcoming_le
    {E : Int → Reading Tree} {bound : Int} {left tree : Tree} {ts rest : List Token}
    (h : ContinuationReading E bound left ts tree rest) :
  (upcoming rest).precedence ≤ bound
  := by
  induction h with
  | stop hstop => apply hstop
  | step _ _ _ _ _ ih => apply ih

theorem reads_upcoming_le
    {depth : Nat} {bound : Int} {ts rest : List Token} {tree : Tree}
    (h : Reads depth bound ts tree rest) :
  (upcoming rest).precedence ≤ bound
  := by
  cases depth with
  | zero => cases h
  | succ depth =>
      obtain ⟨-, hcontinuation⟩ := h
      apply hcontinuation.upcoming_le

/-! ### Tails of expressions -/

/-- What may be left of an expression: nothing, or an operator before an expression. -/
inductive IsTail : List Token → Prop
  | nil : IsTail []
  | cons {op : Token} {e : List Token} :
      isOperator op.kind = true → Derives .expression e → IsTail (op :: e)

/-- An operand with a tail is an expression. -/
theorem IsTail.append {u tail : List Token} (htail : IsTail tail) (hu : Derives .operand u) :
  Derives .expression (u ++ tail)
  := by
  cases htail with
  | nil =>
      rw [List.append_nil]
      apply Derives.single hu
  | cons hop he => apply Derives.joined hu hop he

/-- An expression with a tail is an expression. -/
theorem IsTail.append_expression {e tail : List Token} (htail : IsTail tail)
    (he : Derives .expression e) :
  Derives .expression (e ++ tail)
  := by
  cases htail with
  | nil => rwa [List.append_nil]
  | cons hop he' => apply he.join hop he'

/-- An expression is an operand with a tail. -/
theorem Derives.exists_tail {e : List Token} (h : Derives .expression e) :
  ∃ u tail, e = u ++ tail ∧ Derives .operand u ∧ IsTail tail
  := by
  cases h with
  | @single u hu => exact ⟨e, [], by simp, hu, .nil⟩
  | joined hu hop he => exact ⟨_, _, rfl, hu, .cons hop he⟩

/-- A conditional has a condition, a block and an alternative. -/
theorem Derives.exists_branches {c : List Token} (h : Derives .conditional c) :
  ∃ e word ss t, c = e ++ word :: ss ++ t ∧ Derives .expression e ∧ word.kind = .thenWord ∧
    Derives .statements ss ∧ Derives .alternative t
  := by
  cases h with
  | branches he hword hss ht => exact ⟨_, _, _, _, rfl, he, hword, hss, ht⟩

/-- Whether the tokens do not go on with an operator. -/
def Quiet (ts : List Token) : Prop := isOperator (upcoming ts).kind = false

theorem Quiet.precedence {ts : List Token} (h : Quiet ts) :
  (upcoming ts).precedence = 0
  := by
  have hall : ∀ kind, isOperator kind = false → kind.precedence = 0 := by
    intro kind
    cases kind <;> decide
  apply hall _ h

/-- Before quiet tokens, only the empty tail stops a reader with the bound zero. -/
theorem IsTail.eq_nil {tail rest : List Token} (htail : IsTail tail)
    (h : (upcoming (tail ++ rest)).precedence ≤ 0) :
  tail = []
  := by
  cases htail with
  | nil => rfl
  | @cons op e hop he =>
      have := (isOperator_iff op.kind).mp hop
      have hop : op.kind.precedence ≤ 0 := h
      omega

/-! ### Reading to the end -/

/-- Whether all tokens carry what their kinds need. -/
def AllTyped (ts : List Token) : Prop := ∀ token ∈ ts, token.IsTyped

theorem AllTyped.right {ts us : List Token} (h : AllTyped (ts ++ us)) :
  AllTyped us
  := fun token htoken => h token (List.mem_append_right ts htoken)

/-- Whether every expression of fewer than `n` tokens is read up to a tail. -/
def Readable (n : Nat) : Prop :=
  ∀ ⦃e rest : List Token⦄ ⦃bound : Int⦄, e.length < n → Derives .expression e →
    AllTyped (e ++ rest) → 0 ≤ bound → Quiet rest →
    ∃ depth tree tail, IsTail tail ∧ Reads depth bound (e ++ rest) tree (tail ++ rest)

section Readable

variable {n : Nat} (hn : Readable n)
include hn

/-- A reader with the bound zero reads an expression to its end. -/
theorem Readable.whole
    {e rest : List Token} (hlength : e.length < n) (he : Derives .expression e)
    (htyped : AllTyped (e ++ rest)) (hrest : Quiet rest) :
  ∃ depth tree, Reads depth 0 (e ++ rest) tree rest
  := by
  obtain ⟨depth, tree, tail, htail, hreads⟩ := hn hlength he htyped (Int.le_refl 0) hrest
  obtain rfl := htail.eq_nil (reads_upcoming_le hreads)
  exact ⟨depth, tree, hreads⟩

/-- Statements are read up to a token that closes a block. -/
theorem Readable.block
    {ss rest : List Token} (hlength : ss.length < n) (hss : Derives .statements ss)
    (htyped : AllTyped (ss ++ rest)) (hrest : closesBlock (upcoming rest).kind = true) :
  ∃ depth trees, BlockReading (Reads depth) (ss ++ rest) trees rest
  := by
  induction hk : ss.length using Nat.strongRecOn generalizing ss with
  | ind k ih =>
      rcases hss.split with rfl | ⟨e, ss', rfl, he, halternative, hss', hnext⟩
      · exact ⟨0, [], .close hrest⟩
      have hquiet : Quiet (ss' ++ rest) := by
        by_cases hnil : ss' = []
        · subst hnil
          apply not_isOperator_of_closesBlock hrest
        · rwa [Quiet, upcoming_append hnil]
      have hpos := List.length_pos_iff.mpr (he.ne_nil nofun)
      rw [List.length_append] at hlength hk
      rw [List.append_assoc] at htyped ⊢
      obtain ⟨depth₁, tree, hfirst⟩ := hn.whole (by omega) he htyped hquiet
      obtain ⟨depth₂, trees, hmore⟩ := ih ss'.length (by omega) (by omega) hss' htyped.right rfl
      use max depth₁ depth₂, tree :: trees
      apply BlockReading.more _ (reads_mono (Nat.le_max_left _ _) hfirst)
        (hmore.mono (reads_mono (Nat.le_max_right _ _)))
      rw [upcoming_append (he.ne_nil nofun)]
      apply he.closesBlock_eq_false halternative

/-- What follows the block of a conditional is read up to a tail. -/
theorem Readable.alternative
    {t tail rest : List Token} (hlength : (t ++ tail).length < n) (ht : Derives .alternative t)
    (htail : IsTail tail) (htyped : AllTyped (t ++ (tail ++ rest))) (hrest : Quiet rest) :
  ∃ depth tree tail', IsTail tail' ∧
    AlternativeReading (Reads depth) (t ++ (tail ++ rest)) tree (tail' ++ rest)
  := by
  cases ht with
  | close hword => exact ⟨0, _, tail, htail, .close hword⟩
  | other he hword =>
      rw [← List.append_assoc] at htyped ⊢
      obtain ⟨depth, tree, hreads⟩ :=
        hn.whole hlength (htail.append_expression he) htyped hrest
      refine ⟨depth, tree, [], .nil, .other ?_ hreads⟩
      rwa [List.append_assoc, upcoming_append (he.ne_nil nofun)]

/-- The branches of a conditional are read up to a tail. -/
theorem Readable.conditional
    {c tail rest : List Token} (hlength : (c ++ tail).length < n) (hc : Derives .conditional c)
    (htail : IsTail tail) (htyped : AllTyped (c ++ (tail ++ rest))) (hrest : Quiet rest)
    (head : AtomKind) :
  ∃ depth tree tail', IsTail tail' ∧
    ConditionalReading (Reads depth) head (c ++ (tail ++ rest)) tree (tail' ++ rest)
  := by
  obtain ⟨e, word, ss, t, rfl, he, hword, hss, ht⟩ := hc.exists_branches
  simp only [List.length_append, List.length_cons] at hlength
  simp only [List.append_assoc, List.cons_append] at htyped ⊢
  have htyped' : AllTyped (ss ++ (t ++ (tail ++ rest))) :=
    fun token htoken => htyped.right token (List.mem_cons_of_mem word htoken)
  have hquiet : Quiet (word :: (ss ++ (t ++ (tail ++ rest)))) := by
    rw [Quiet, upcoming_cons, hword]
    rfl
  have hclose : closesBlock (upcoming (t ++ (tail ++ rest))).kind = true := by
    rw [upcoming_append (ht.ne_nil nofun)]
    apply ht.closesBlock
  obtain ⟨depth₁, condition, hcondition⟩ := hn.whole (by omega) he htyped hquiet
  obtain ⟨depth₂, trees, hblock⟩ := hn.block (by omega) hss htyped' hclose
  obtain ⟨depth₃, tree, tail', htail', halternative⟩ := hn.alternative
    (by rw [List.length_append]; omega) ht htail htyped'.right hrest
  obtain ⟨depth, h₁, h₂, h₃⟩ : ∃ depth, depth₁ ≤ depth ∧ depth₂ ≤ depth ∧ depth₃ ≤ depth :=
    ⟨max depth₁ (max depth₂ depth₃), by omega, by omega, by omega⟩
  exact ⟨depth, _, tail', htail', .intro (reads_mono h₁ hcondition) hword
    (hblock.mono (reads_mono h₂)) (halternative.mono (reads_mono h₃))⟩

/-- A primary starts an expression, which is read up to a tail. -/
theorem Readable.primary
    {token : Token} {others tail rest : List Token} (hlength : (others ++ tail).length < n)
    (ha : Derives .primary (token :: others)) (htail : IsTail tail)
    (htyped : AllTyped (token :: (others ++ (tail ++ rest)))) (hrest : Quiet rest) :
  ∃ depth left tail', IsTail tail' ∧
    StartReading (Reads depth) token (others ++ (tail ++ rest)) left (tail' ++ rest)
  := by
  have htyped' : AllTyped (others ++ (tail ++ rest)) :=
    fun t ht => htyped t (List.mem_cons_of_mem token ht)
  generalize hts : token :: others = ts at ha
  cases ha with
  | literal hliteral =>
      obtain ⟨rfl, rfl⟩ := List.cons.inj hts
      obtain ⟨atom, hatom⟩ := (htyped token List.mem_cons_self).toAtom hliteral
      exact ⟨0, _, tail, htail, .leaf hliteral hatom⟩
  | @parentheses before after e hbefore he hafter =>
      obtain ⟨rfl, rfl⟩ := List.cons.inj hts
      simp only [List.length_append, List.length_singleton] at hlength
      rw [List.append_assoc] at htyped' ⊢
      have hquiet : Quiet ([after] ++ (tail ++ rest)) := by
        rw [Quiet, List.singleton_append, upcoming_cons, hafter]
        rfl
      obtain ⟨depth, tree, hreads⟩ := hn.whole (by omega) he htyped' hquiet
      exact ⟨depth, tree, tail, htail, .parentheses hbefore hreads hafter⟩
  | @conditional word c hword hc =>
      obtain ⟨rfl, rfl⟩ := List.cons.inj hts
      rcases hword with hword | hword
      · obtain ⟨depth, tree, tail', htail', hreads⟩ :=
          hn.conditional hlength hc htail htyped' hrest .conditional
        exact ⟨depth, tree, tail', htail', .conditional hword hreads⟩
      · obtain ⟨depth, tree, tail', htail', hreads⟩ :=
          hn.conditional hlength hc htail htyped' hrest .orConditional
        exact ⟨depth, tree, tail', htail', .orConditional hword hreads⟩
  | @otherwise word close ss hword hss hclose =>
      obtain ⟨rfl, rfl⟩ := List.cons.inj hts
      simp only [List.length_append, List.length_singleton] at hlength
      rw [List.append_assoc] at htyped' ⊢
      have hend : closesBlock (upcoming ([close] ++ (tail ++ rest))).kind = true := by
        rw [List.singleton_append, upcoming_cons, hclose]
        rfl
      obtain ⟨depth, trees, hblock⟩ := hn.block (by omega) hss htyped' hend
      exact ⟨depth, _, tail, htail, .otherwise hword hblock hclose⟩

/-- An operand starts an expression, which is read up to a tail.  After a sign the tail is
read with it, as far as its operators bind tighter. -/
theorem Readable.operand
    {token : Token} {others tail rest : List Token} (hlength : (others ++ tail).length < n)
    (hu : Derives .operand (token :: others)) (htail : IsTail tail)
    (htyped : AllTyped (token :: (others ++ (tail ++ rest)))) (hrest : Quiet rest) :
  ∃ depth left tail', IsTail tail' ∧
    StartReading (Reads depth) token (others ++ (tail ++ rest)) left (tail' ++ rest)
  := by
  have htyped' : AllTyped (others ++ (tail ++ rest)) :=
    fun t ht => htyped t (List.mem_cons_of_mem token ht)
  cases hu with
  | unsigned ha => apply hn.primary hlength ha htail htyped hrest
  | signed hsign hu =>
      rw [← List.append_assoc] at htyped' ⊢
      obtain ⟨depth, tree, tail', htail', hreads⟩ :=
        hn hlength (htail.append hu) htyped' (by decide : (0 : Int) ≤ 20) hrest
      rcases hsign with hsign | hsign
      · exact ⟨depth, _, tail', htail', .plus hsign hreads⟩
      · exact ⟨depth, _, tail', htail', .minus hsign hreads⟩

/-- A tail is read as far as its operators bind tighter than the bound. -/
theorem Readable.continuation
    {bound : Int} (hbound : 0 ≤ bound) {tail rest : List Token} (hlength : tail.length ≤ n)
    (htail : IsTail tail) (htyped : AllTyped (tail ++ rest)) (hrest : Quiet rest) (left : Tree) :
  ∃ depth tree tail', IsTail tail' ∧
    ContinuationReading (Reads depth) bound left (tail ++ rest) tree (tail' ++ rest)
  := by
  induction hk : tail.length using Nat.strongRecOn generalizing tail left with
  | ind k ih =>
      by_cases hstop : (upcoming (tail ++ rest)).precedence ≤ bound
      · exact ⟨0, left, tail, htail, .stop hstop⟩
      cases htail with
      | nil =>
          rw [List.nil_append, hrest.precedence] at hstop
          contradiction
      | @cons op e hop he =>
          have hright : 0 ≤ rightBound op.kind := by
            have := (isOperator_iff op.kind).mp hop
            unfold rightBound
            split <;> omega
          have htyped' : AllTyped (e ++ rest) :=
            fun t ht => htyped t (List.mem_cons_of_mem op ht)
          rw [List.length_cons] at hlength hk
          obtain ⟨depth₁, right, tail₁, htail₁, hreads⟩ :=
            hn (by omega) he htyped' hright hrest
          obtain ⟨used, hused, -⟩ := reads_derives hreads
          rw [hused] at htyped'
          have hshort := reads_shortens depth₁ hreads
          simp only [List.length_append] at hshort
          obtain ⟨kind, hatom, -⟩ := toAtom_of_isOperator hop
          obtain ⟨depth₂, tree, tail₂, htail₂, hmore⟩ := ih tail₁.length (by omega) (by omega)
            htail₁ htyped'.right (.node (.ofKind kind) [left, right]) rfl
          use max depth₁ depth₂, tree, tail₂, htail₂
          apply ContinuationReading.step (Int.not_le.mp hstop) hop hatom
            (reads_mono (Nat.le_max_left _ _) hreads)
            (hmore.mono (reads_mono (Nat.le_max_right _ _)))

/-- If expressions of fewer than `n` tokens are read up to a tail, so are those of `n`
tokens. -/
theorem Readable.succ :
  Readable (n + 1)
  := by
  intro e rest bound hlength he htyped hbound hrest
  obtain ⟨u, tail, rfl, hu, htail⟩ := he.exists_tail
  obtain ⟨token, others, rfl⟩ := List.exists_cons_of_ne_nil (hu.ne_nil nofun)
  rw [List.append_assoc] at htyped ⊢
  rw [List.cons_append, List.length_cons] at hlength
  obtain ⟨depth₁, left, tail₁, htail₁, hstart⟩ :=
    hn.operand (by omega) hu htail htyped hrest
  obtain ⟨used, hused, -⟩ := hstart.derives reads_derives
  have hshort := hstart.length_le (reads_shortens depth₁)
  simp only [List.length_append] at hlength hshort
  have htyped' : AllTyped (others ++ (tail ++ rest)) :=
    fun t ht => htyped t (List.mem_cons_of_mem token ht)
  rw [hused] at htyped'
  obtain ⟨depth₂, tree, tail₂, htail₂, hcontinuation⟩ :=
    hn.continuation hbound (by omega) htail₁ htyped'.right hrest left
  use max depth₁ depth₂ + 1, tree, tail₂, htail₂
  apply ExpressionReading.intro (hstart.mono (reads_mono (Nat.le_max_left _ _)))
    (hcontinuation.mono (reads_mono (Nat.le_max_right _ _)))

end Readable

/-- Every expression is read up to a tail. -/
theorem readable (n : Nat) :
  Readable n
  := by
  induction n with
  | zero =>
      intro e rest bound hlength
      omega
  | succ n ih => apply ih.succ

/-- Typed statements before a token that closes a block are read as a block, if nesting may
be deep enough. -/
theorem Derives.readsBlock
    {ss rest : List Token} (h : Derives .statements ss) (htyped : AllTyped (ss ++ rest))
    (hrest : Parser.closesBlock (upcoming rest).kind = true) :
  ∃ depth trees, BlockReading (Reads depth) (ss ++ rest) trees rest
  := (readable (ss.length + 1)).block (Nat.lt_succ_self _) h htyped hrest

end ExprScript.Parser
