import ExprScript.Proofs.Grammar.Derivation

/-!
# Exchanging operators

An operator that stands after an operand may be exchanged for any other operator: what was
derived from the grammar is still derived from it (`Derives.respell`).  A sign is an operator
too, but only where it stands after an operand.
-/

namespace ExprScript.Parser

/-- Whether an operand may end with a token of the kind. -/
def endsOperand : TokenKind → Bool
  | .number | .symbol | .truth | .falsity | .closeParen | .endWord => true
  | _ => false

/-- The second list is the first with operators after operands exchanged for operators.  The
first argument says whether an operand stands before the lists. -/
inductive Respelled : Bool → List Token → List Token → Prop
  | nil {after : Bool} :
      Respelled after [] []
  | same {after : Bool} {token : Token} {ts us : List Token} :
      Respelled (endsOperand token.kind) ts us → Respelled after (token :: ts) (token :: us)
  | operator {op op' : Token} {ts us : List Token} :
      isOperator op.kind = true → isOperator op'.kind = true → Respelled false ts us →
      Respelled true (op :: ts) (op' :: us)

/-- Whether an operand stands at the end of a list, given whether one stands before it. -/
def operandAfter (before : Bool) (ts : List Token) : Bool :=
  ts.foldl (fun _ token => endsOperand token.kind) before

theorem operandAfter_append (before : Bool) (ts us : List Token) :
  operandAfter before (ts ++ us) = operandAfter (operandAfter before ts) us
  := List.foldl_append

/-- No operator ends an operand. -/
theorem endsOperand_of_isOperator {kind : TokenKind} (h : isOperator kind = true) :
  endsOperand kind = false
  := by
  revert h
  cases kind <;> decide

theorem Respelled.nil_inv {before : Bool} {us : List Token} (h : Respelled before [] us) :
  us = []
  := by
  cases h
  rfl

theorem Respelled.append_inv
    {before : Bool} {ts us vs : List Token} (h : Respelled before (ts ++ us) vs) :
  ∃ ts' us', vs = ts' ++ us' ∧ Respelled before ts ts' ∧
    Respelled (operandAfter before ts) us us'
  := by
  induction ts generalizing before vs with
  | nil => exact ⟨[], vs, rfl, .nil, h⟩
  | cons token ts ih =>
      cases h with
      | same h =>
          obtain ⟨ts', us', rfl, hts, hus⟩ := ih h
          exact ⟨_, us', rfl, .same hts, hus⟩
      | operator hop hop' h =>
          obtain ⟨ts', us', rfl, hts, hus⟩ := ih h
          refine ⟨_, us', rfl, .operator hop hop' hts, ?_⟩
          rwa [operandAfter, List.foldl_cons, endsOperand_of_isOperator hop]

/-- A token that is no operator stays. -/
theorem Respelled.cons_inv
    {before : Bool} {token : Token} {ts vs : List Token}
    (h : Respelled before (token :: ts) vs)
    (htoken : before = false ∨ isOperator token.kind = false) :
  ∃ us, vs = token :: us ∧ Respelled (endsOperand token.kind) ts us
  := by
  cases h with
  | same h => exact ⟨_, rfl, h⟩
  | operator hop _ _ =>
      rcases htoken with htoken | htoken
      · cases htoken
      · rw [htoken] at hop
        cases hop

/-- An operator stays an operator. -/
theorem Respelled.operator_inv
    {before : Bool} {op : Token} {ts vs : List Token} (h : Respelled before (op :: ts) vs)
    (hop : isOperator op.kind = true) :
  ∃ op' us, vs = op' :: us ∧ isOperator op'.kind = true ∧ Respelled false ts us
  := by
  cases h with
  | same h =>
      rw [endsOperand_of_isOperator hop] at h
      exact ⟨_, _, rfl, hop, h⟩
  | operator _ hop' h => exact ⟨_, _, rfl, hop', h⟩

/-- Where the first token is no operator, it does not matter whether an operand stands before
it. -/
theorem Respelled.of_quiet
    {before : Bool} {ts us : List Token} (h : Respelled before ts us)
    (hts : isOperator (upcoming ts).kind = false) :
  Respelled false ts us
  := by
  cases h with
  | nil => apply Respelled.nil
  | same h => apply Respelled.same h
  | operator hop _ _ =>
      rw [upcoming_cons, hop] at hts
      cases hts

/-- Every phrase but statements ends an operand. -/
theorem Derives.operandAfter
    {phrase : Phrase} {ts : List Token} (h : Derives phrase ts) (hphrase : phrase ≠ .statements)
    (before : Bool) :
  operandAfter before ts = true
  := by
  induction h generalizing before with
  | none => contradiction
  | more _ _ _ _ => contradiction
  | statement _ _ ih => apply ih nofun
  | single _ ih => apply ih nofun
  | joined _ _ _ _ ih =>
      rw [operandAfter_append]
      apply ih nofun
  | signed _ _ ih => apply ih nofun
  | unsigned _ ih => apply ih nofun
  | literal h => rcases h with h | h | h | h <;> simp [Parser.operandAfter, h, endsOperand]
  | parentheses _ _ hafter _ =>
      simp [Parser.operandAfter, hafter, endsOperand]
  | conditional _ _ ih => apply ih nofun
  | otherwise _ _ hclose _ =>
      simp [Parser.operandAfter, hclose, endsOperand]
  | branches _ _ _ _ _ _ ih =>
      rw [operandAfter_append]
      apply ih nofun
  | close h => simp [Parser.operandAfter, h, endsOperand]
  | other _ _ ih => apply ih nofun

/-- Statements after an expression, respelled, are statements or go on with the
expression. -/
theorem Derives.append_respelled
    {e ss ss' : List Token} (he : Derives .expression e) (halternative : ¬ StartsAlternative e)
    (hss : ∀ us, Respelled false ss us → Derives .statements us) (h : Respelled true ss ss') :
  Derives .statements (e ++ ss')
  := by
  by_cases hquiet : isOperator (upcoming ss).kind = false
  · apply Derives.more (.statement he halternative) (hss ss' (h.of_quiet hquiet))
  -- the first token is a sign: restored, it starts an expression, so its rest is one too
  obtain ⟨sign, us, rfl⟩ : ∃ sign us, ss = sign :: us := by
    cases ss with
    | nil => contradiction
    | cons sign us => exact ⟨sign, us, rfl⟩
  have hsign : isOperator sign.kind = true := by simpa using hquiet
  obtain ⟨op, us', rfl, hop, hus⟩ := h.operator_inv hsign
  have hrestored : Derives .statements (sign :: us') := by
    apply hss
    apply Respelled.same
    rwa [endsOperand_of_isOperator hsign]
  rcases hrestored.split with hnil | ⟨e', rest, happend, he', -, hrest, -⟩
  · cases hnil
  have hfirst : upcoming e' = sign := by
    rw [← upcoming_append (he'.ne_nil nofun) rest, ← happend, upcoming_cons]
  obtain ⟨first, e'', rfl, -, he''⟩ := he'.unsign (by rwa [hfirst])
  have hus' : us' = e'' ++ rest := (List.cons.inj happend).2
  have hwhole : e ++ op :: us' = (e ++ op :: e'') ++ rest := by simp [hus']
  rw [hwhole]
  apply Derives.more (.statement (he.join hop he'') ?_) hrest
  rwa [StartsAlternative, upcoming_append (he.ne_nil nofun)]

/-- Exchanging operators that stand after operands does not change what is derived. -/
theorem Derives.respell
    {phrase : Phrase} {ts us : List Token} (h : Derives phrase ts) (hus : Respelled false ts us) :
  Derives phrase us
  := by
  induction h generalizing us with
  | none =>
      cases hus
      apply Derives.none
  | more hs _ ihs ihss =>
      obtain ⟨s', ss', rfl, hs', hss'⟩ := hus.append_inv
      rw [hs.operandAfter nofun] at hss'
      cases ihs hs' with
      | statement he halternative => apply he.append_respelled halternative (fun _ => ihss) hss'
  | statement he halternative ih =>
      apply Derives.statement (ih hus)
      cases hus with
      | nil => apply halternative
      | same _ => apply halternative
  | single _ ih => apply Derives.single (ih hus)
  | joined hu hop _ ihu ihe =>
      obtain ⟨u', vs, rfl, hu', hvs⟩ := hus.append_inv
      obtain ⟨op', e', rfl, hop', he'⟩ := hvs.operator_inv hop
      apply Derives.joined (ihu hu') hop' (ihe he')
  | signed hsign _ ih =>
      obtain ⟨u', rfl, hu'⟩ := hus.cons_inv (.inl rfl)
      rw [endsOperand_of_isOperator hsign.isOperator] at hu'
      apply Derives.signed hsign (ih hu')
  | unsigned _ ih => apply Derives.unsigned (ih hus)
  | literal hliteral =>
      obtain ⟨vs, rfl, hvs⟩ := hus.cons_inv (.inl rfl)
      obtain rfl := hvs.nil_inv
      apply Derives.literal hliteral
  | parentheses hbefore he hafter ih =>
      obtain ⟨vs, rfl, hvs⟩ := hus.cons_inv (.inl rfl)
      rw [hbefore] at hvs
      obtain ⟨e', ws, rfl, he', hws⟩ := hvs.append_inv
      obtain ⟨end', rfl, hend⟩ := hws.cons_inv (.inr (by rw [hafter]; rfl))
      obtain rfl := hend.nil_inv
      apply Derives.parentheses hbefore (ih he') hafter
  | conditional hword _ ih =>
      obtain ⟨c', rfl, hc'⟩ := hus.cons_inv (.inl rfl)
      have hends : ∀ {kind}, kind = TokenKind.ifWord ∨ kind = .elseifWord →
          endsOperand kind = false := by
        rintro _ (rfl | rfl) <;> rfl
      rw [hends hword] at hc'
      apply Derives.conditional hword (ih hc')
  | otherwise hword _ hclose ih =>
      obtain ⟨vs, rfl, hvs⟩ := hus.cons_inv (.inl rfl)
      rw [hword] at hvs
      obtain ⟨ss', ws, rfl, hss', hws⟩ := hvs.append_inv
      obtain ⟨end', rfl, hend⟩ := hws.cons_inv (.inr (by rw [hclose]; rfl))
      obtain rfl := hend.nil_inv
      apply Derives.otherwise hword (ih hss') hclose
  | branches he hword hss ht ihe ihss iht =>
      obtain ⟨vs, t', rfl, hvs, ht'⟩ := hus.append_inv
      obtain ⟨e', ws, rfl, he', hws⟩ := hvs.append_inv
      obtain ⟨ss', rfl, hss'⟩ := hws.cons_inv (.inr (by rw [hword]; rfl))
      rw [hword] at hss'
      have hquiet := not_isOperator_of_closesBlock ht.closesBlock
      apply Derives.branches (ihe he') hword (ihss hss') (iht (ht'.of_quiet hquiet))
  | close hword =>
      obtain ⟨vs, rfl, hvs⟩ := hus.cons_inv (.inl rfl)
      obtain rfl := hvs.nil_inv
      apply Derives.close hword
  | other he hword ih =>
      apply Derives.other (ih hus)
      cases hus with
      | nil => apply hword
      | same _ => apply hword

end ExprScript.Parser
