import ExprScript.Proofs.Grammar.Derivation

/-!
# What follows an expression

Reading an expression takes tokens off the front and looks at what follows them only to see whether
it binds tighter: before any tokens that bind no tighter than those that followed, the same tokens
are read as the same tree (`reads_exchanges`).  Hence the expressions of two blocks, one after the
other, are read as one block, provided that the second does not start with an operator
(`BlockReading.append`).
-/

namespace ExprScript.Parser

/-- Whether the first tokens go on with a token that binds no tighter than the one with which the
second go on. -/
def NoTighter (rest' rest : List Token) : Prop :=
  (upcoming rest').precedence ≤ (upcoming rest).precedence

theorem NoTighter.append {rest' rest : List Token} (h : NoTighter rest' rest)
    (used : List Token) :
  NoTighter (used ++ rest') (used ++ rest)
  := by
  cases used with
  | nil => exact h
  | cons token used => apply Int.le_refl

theorem precedence_nonneg (token : Token) :
  0 ≤ token.precedence
  := by
  have hall : ∀ kind : TokenKind, 0 ≤ kind.precedence := by
    intro kind
    cases kind <;> decide
  apply hall

theorem noTighter_of_precedence {rest' : List Token} (h : (upcoming rest').precedence = 0)
    (rest : List Token) :
  NoTighter rest' rest
  := by
  rw [NoTighter, h]
  apply precedence_nonneg

/-- A token that closes a block joins no operands. -/
theorem precedence_of_closesBlock {token : Token} (h : closesBlock token.kind = true) :
  token.precedence = 0
  := by
  have hall : ∀ kind, closesBlock kind = true → kind.precedence = 0 := by
    intro kind
    cases kind <;> decide
  apply hall _ h

/-- Whether a reading of expressions takes tokens off the front that it takes before any tokens
that bind no tighter. -/
def Exchanges (E : Int → Reading Tree) : Prop :=
  ∀ ⦃bound ts tree rest⦄, E bound ts tree rest → ∃ used, used ≠ [] ∧ ts = used ++ rest ∧
    ∀ rest', NoTighter rest' rest → E bound (used ++ rest') tree rest'

/-- A block is read up to a token that closes it. -/
theorem BlockReading.closesBlock
    {E : Int → Reading Tree} {ts rest : List Token} {trees : List Tree}
    (h : BlockReading E ts trees rest) :
  Parser.closesBlock (upcoming rest).kind = true
  := by
  induction h with
  | close hclose => apply hclose
  | more _ _ _ ih => apply ih

section Exchange

variable {E : Int → Reading Tree} (hE : Exchanges E)
include hE

theorem BlockReading.exchange {ts rest : List Token} {trees : List Tree}
    (h : BlockReading E ts trees rest) :
  ∃ used, ts = used ++ rest ∧ ∀ rest', Parser.closesBlock (upcoming rest').kind = true →
    BlockReading E (used ++ rest') trees rest'
  := by
  induction h with
  | close _ => exact ⟨[], rfl, fun _ hclose => .close hclose⟩
  | @more _ mid rest _ _ hopen hfirst _ ih =>
      obtain ⟨e, hne, rfl, hfirst'⟩ := hE hfirst
      obtain ⟨used, rfl, hmore⟩ := ih
      refine ⟨e ++ used, by simp, ?_⟩
      intro rest' hclose
      have hrest := noTighter_of_precedence (precedence_of_closesBlock hclose) rest
      rw [upcoming_append hne] at hopen
      rw [List.append_assoc]
      apply BlockReading.more _ (hfirst' _ (hrest.append used)) (hmore rest' hclose)
      rwa [upcoming_append hne]

theorem AlternativeReading.exchange {ts rest : List Token} {tree : Tree}
    (h : AlternativeReading E ts tree rest) :
  ∃ used, used ≠ [] ∧ ts = used ++ rest ∧
    ∀ rest', NoTighter rest' rest → AlternativeReading E (used ++ rest') tree rest'
  := by
  cases h with
  | @close word _ hword => exact ⟨[word], by simp, rfl, fun _ _ => .close hword⟩
  | other hword hother =>
      obtain ⟨e, hne, rfl, hother'⟩ := hE hother
      refine ⟨e, hne, rfl, fun rest' hrest => .other ?_ (hother' rest' hrest)⟩
      rwa [upcoming_append hne] at hword ⊢

theorem ConditionalReading.exchange {head : AtomKind} {ts rest : List Token} {tree : Tree}
    (h : ConditionalReading E head ts tree rest) :
  ∃ used, ts = used ++ rest ∧
    ∀ rest', NoTighter rest' rest → ConditionalReading E head (used ++ rest') tree rest'
  := by
  cases h with
  | @intro _ mid after _ word _ _ _ hcondition hword hblock halternative =>
      have hclose := hblock.closesBlock
      obtain ⟨e, -, rfl, hcondition'⟩ := hE hcondition
      obtain ⟨ss, rfl, hblock'⟩ := hblock.exchange hE
      obtain ⟨t, hne, rfl, halternative'⟩ := halternative.exchange hE
      refine ⟨e ++ word :: (ss ++ t), by simp, ?_⟩
      intro rest' hrest
      rw [upcoming_append hne] at hclose
      have hwhole : e ++ word :: (ss ++ t) ++ rest' = e ++ word :: (ss ++ (t ++ rest')) := by simp
      rw [hwhole]
      have hcondition := hcondition' (word :: (ss ++ (t ++ rest'))) (Int.le_refl _)
      apply ConditionalReading.intro hcondition hword (hblock' (t ++ rest') _)
        (halternative' rest' hrest)
      rwa [upcoming_append hne]

theorem StartReading.exchange {token : Token} {ts rest : List Token} {tree : Tree}
    (h : StartReading E token ts tree rest) :
  ∃ used, ts = used ++ rest ∧
    ∀ rest', NoTighter rest' rest → StartReading E token (used ++ rest') tree rest'
  := by
  cases h with
  | leaf hkind hatom => exact ⟨[], rfl, fun _ _ => .leaf hkind hatom⟩
  | @parentheses close _ _ _ hkind hinner hclose =>
      obtain ⟨e, -, rfl, hinner'⟩ := hE hinner
      refine ⟨e ++ [close], by simp, ?_⟩
      intro rest' _
      rw [List.append_assoc]
      apply StartReading.parentheses hkind (hinner' (close :: rest') (Int.le_refl _)) hclose
  | plus hkind hoperand =>
      obtain ⟨u, -, rfl, hoperand'⟩ := hE hoperand
      exact ⟨u, rfl, fun rest' hrest => .plus hkind (hoperand' rest' hrest)⟩
  | minus hkind hoperand =>
      obtain ⟨u, -, rfl, hoperand'⟩ := hE hoperand
      exact ⟨u, rfl, fun rest' hrest => .minus hkind (hoperand' rest' hrest)⟩
  | conditional hkind hconditional =>
      obtain ⟨c, rfl, hconditional'⟩ := hconditional.exchange hE
      exact ⟨c, rfl, fun rest' hrest => .conditional hkind (hconditional' rest' hrest)⟩
  | orConditional hkind hconditional =>
      obtain ⟨c, rfl, hconditional'⟩ := hconditional.exchange hE
      exact ⟨c, rfl, fun rest' hrest => .orConditional hkind (hconditional' rest' hrest)⟩
  | @otherwise close _ _ _ hkind hblock hclose =>
      have hend := hblock.closesBlock
      obtain ⟨ss, rfl, hblock'⟩ := hblock.exchange hE
      refine ⟨ss ++ [close], by simp, ?_⟩
      intro rest' _
      rw [List.append_assoc]
      apply StartReading.otherwise hkind (hblock' (close :: rest') hend) hclose

theorem ContinuationReading.exchange
    {bound : Int} {left tree : Tree} {ts rest : List Token}
    (h : ContinuationReading E bound left ts tree rest) :
  ∃ used, ts = used ++ rest ∧
    ∀ rest', NoTighter rest' rest → ContinuationReading E bound left (used ++ rest') tree rest'
  := by
  induction h with
  | stop hstop => exact ⟨[], rfl, fun _ hrest => .stop (Int.le_trans hrest hstop)⟩
  | @step _ _ _ token _ _ _ _ hbound hoperator hop hright _ ih =>
      obtain ⟨e, -, rfl, hright'⟩ := hE hright
      obtain ⟨used, rfl, hmore⟩ := ih
      refine ⟨token :: (e ++ used), by simp, ?_⟩
      intro rest' hrest
      rw [List.cons_append, List.append_assoc]
      apply ContinuationReading.step hbound hoperator hop (hright' _ (hrest.append used))
        (hmore rest' hrest)

end Exchange

/-- Reading an expression takes the same tokens as the same tree before any tokens that bind no
tighter than those that follow it. -/
theorem reads_exchanges (depth : Nat) :
  Exchanges (Reads depth)
  := by
  induction depth with
  | zero => rintro _ _ _ _ ⟨⟩
  | succ depth ih =>
      rintro bound _ tree rest (@⟨token, _, _, _, _, _, hstart, hcontinuation⟩)
      obtain ⟨used, rfl, hstart'⟩ := hstart.exchange ih
      obtain ⟨used', rfl, hcontinuation'⟩ := hcontinuation.exchange ih
      refine ⟨token :: (used ++ used'), by simp, by simp, ?_⟩
      intro rest' hrest
      rw [List.cons_append, List.append_assoc]
      apply ExpressionReading.intro (hstart' _ (hrest.append used')) (hcontinuation' rest' hrest)

/-- Two blocks that are read to the end are read as one, if the second does not start with an
operator. -/
theorem BlockReading.append
    {E : Int → Reading Tree} (hE : Exchanges E) {ts us : List Token} {trees trees' : List Tree}
    (h : BlockReading E ts trees []) (h' : BlockReading E us trees' [])
    (hus : (upcoming us).precedence = 0) :
  BlockReading E (ts ++ us) (trees ++ trees') []
  := by
  generalize hrest : ([] : List Token) = rest at h
  induction h with
  | close _ =>
      subst hrest
      apply h'
  | @more _ mid _ _ _ hopen hfirst _ ih =>
      obtain ⟨e, hne, rfl, hfirst'⟩ := hE hfirst
      have hmid : NoTighter (mid ++ us) mid := by
        have := (noTighter_of_precedence hus []).append mid
        rwa [List.append_nil] at this
      rw [upcoming_append hne] at hopen
      rw [List.append_assoc]
      apply BlockReading.more _ (hfirst' _ hmid) (ih hrest)
      rwa [upcoming_append hne]

end ExprScript.Parser
