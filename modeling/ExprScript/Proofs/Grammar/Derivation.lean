import ExprScript.Proofs.Grammar.Reading

/-!
# The grammar

The phrases of the language and the lists of tokens derived from each of them:

    statements   S* = S ... S
    statement    S  = an E that does not start with else or elseif
    expression   E  = U (operator U)*
    operand      U  = (+ | -)* A
    primary      A  = number | symbol | true | false | ( E )
                    | if C | elseif C | else S* end
    conditional  C  = E then S* T
    alternative  T  = end | an E that starts with else or elseif

All ten operators stand in the same place, so the grammar knows nothing of how tightly they
bind.  It is ambiguous: where an expression is followed by a statement that starts with a sign,
the two are also one expression.  `Derives.split` takes the longest expression off the front of
statements.

Whatever the parser reads is derived from the grammar (`reads_derives`).
-/

namespace ExprScript.Parser

/-- The phrases of the grammar. -/
inductive Phrase where
  | statements
  | statement
  | expression
  | operand
  | primary
  | conditional
  | alternative

/-- Whether the first token is `else` or `elseif`. -/
def StartsAlternative (ts : List Token) : Prop :=
  (upcoming ts).kind = .elseWord ∨ (upcoming ts).kind = .elseifWord

/-- The token is a sign. -/
def IsSign (token : Token) : Prop := token.kind = .plus ∨ token.kind = .minus

/-- The token is a literal. -/
def IsLiteral (token : Token) : Prop :=
  token.kind = .number ∨ token.kind = .symbol ∨ token.kind = .truth ∨ token.kind = .falsity

/-- The lists of tokens derived from each phrase. -/
inductive Derives : Phrase → List Token → Prop
  | none :
      Derives .statements []
  | more {s ss : List Token} :
      Derives .statement s → Derives .statements ss → Derives .statements (s ++ ss)
  | statement {e : List Token} :
      Derives .expression e → ¬ StartsAlternative e → Derives .statement e
  | single {u : List Token} :
      Derives .operand u → Derives .expression u
  | joined {op : Token} {u e : List Token} :
      Derives .operand u → isOperator op.kind = true → Derives .expression e →
      Derives .expression (u ++ op :: e)
  | signed {sign : Token} {u : List Token} :
      IsSign sign → Derives .operand u → Derives .operand (sign :: u)
  | unsigned {a : List Token} :
      Derives .primary a → Derives .operand a
  | literal {token : Token} :
      IsLiteral token → Derives .primary [token]
  | parentheses {before after : Token} {e : List Token} :
      before.kind = .openParen → Derives .expression e → after.kind = .closeParen →
      Derives .primary (before :: (e ++ [after]))
  | conditional {word : Token} {c : List Token} :
      word.kind = .ifWord ∨ word.kind = .elseifWord → Derives .conditional c →
      Derives .primary (word :: c)
  | otherwise {word close : Token} {ss : List Token} :
      word.kind = .elseWord → Derives .statements ss → close.kind = .endWord →
      Derives .primary (word :: (ss ++ [close]))
  | branches {word : Token} {e ss t : List Token} :
      Derives .expression e → word.kind = .thenWord → Derives .statements ss →
      Derives .alternative t → Derives .conditional (e ++ word :: ss ++ t)
  | close {word : Token} :
      word.kind = .endWord → Derives .alternative [word]
  | other {e : List Token} :
      Derives .expression e → StartsAlternative e → Derives .alternative e

/-! ### Expressions -/

/-- A primary is an expression. -/
theorem Derives.ofPrimary {a : List Token} (h : Derives .primary a) :
  Derives .expression a
  := .single (.unsigned h)

/-- A sign before an expression makes it an expression. -/
theorem Derives.sign {sign : Token} {e : List Token} (hsign : IsSign sign)
    (h : Derives .expression e) :
  Derives .expression (sign :: e)
  := by
  cases h with
  | single hu => apply Derives.single (.signed hsign hu)
  | joined hu hop he =>
      rw [← List.cons_append]
      apply Derives.joined (.signed hsign hu) hop he

/-- Two expressions joined by an operator are an expression. -/
theorem Derives.join {op : Token} {e e' : List Token} (h : Derives .expression e)
    (hop : isOperator op.kind = true) (h' : Derives .expression e') :
  Derives .expression (e ++ op :: e')
  := by
  generalize hphrase : Phrase.expression = phrase at h
  induction h with
  | single hu => apply Derives.joined hu hop h'
  | joined hu hop' _ _ ih =>
      rw [List.append_assoc]
      apply Derives.joined hu hop' (ih hphrase)
  | _ => cases hphrase

/-- No phrase but statements is empty. -/
theorem Derives.ne_nil {phrase : Phrase} {ts : List Token} (h : Derives phrase ts)
    (hphrase : phrase ≠ .statements) :
  ts ≠ []
  := by
  induction h <;> simp_all

theorem upcoming_append {ts : List Token} (h : ts ≠ []) (us : List Token) :
  upcoming (ts ++ us) = upcoming ts
  := by
  cases ts with
  | nil => contradiction
  | cons t ts => rfl

theorem IsSign.isOperator {sign : Token} (h : IsSign sign) :
  isOperator sign.kind = true
  := by
  rcases h with h | h <;> rw [h] <;> rfl

/-- The kinds of the tokens with which a primary starts. -/
def primaryStarts : List TokenKind :=
  [.number, .symbol, .truth, .falsity, .openParen, .ifWord, .elseifWord, .elseWord]

theorem Derives.primary_starts {a : List Token} (h : Derives .primary a) :
  (upcoming a).kind ∈ primaryStarts
  := by
  cases h with
  | literal h => rcases h with h | h | h | h <;> rw [upcoming_cons, h] <;> decide
  | parentheses h _ _ =>
      rw [upcoming_cons, h]
      decide
  | conditional h _ => rcases h with h | h <;> rw [upcoming_cons, h] <;> decide
  | otherwise h _ _ =>
      rw [upcoming_cons, h]
      decide

theorem Derives.operand_starts {u : List Token} (h : Derives .operand u) :
  (upcoming u).kind ∈ .plus :: .minus :: primaryStarts
  := by
  cases h with
  | signed hsign _ => rcases hsign with h | h <;> rw [upcoming_cons, h] <;> decide
  | unsigned ha => apply List.mem_cons_of_mem _ (List.mem_cons_of_mem _ ha.primary_starts)

theorem Derives.expression_starts {e : List Token} (h : Derives .expression e) :
  (upcoming e).kind ∈ .plus :: .minus :: primaryStarts
  := by
  cases h with
  | single hu => apply hu.operand_starts
  | joined hu _ _ =>
      rw [upcoming_append (hu.ne_nil nofun)]
      apply hu.operand_starts

/-- A primary does not start with an operator. -/
theorem Derives.not_isOperator {a : List Token} (h : Derives .primary a) :
  isOperator (upcoming a).kind = false
  := by
  have hall : ∀ kind ∈ primaryStarts, Parser.isOperator kind = false := by decide
  apply hall _ h.primary_starts

/-- An expression closes a block only by starting with `else` or `elseif`. -/
theorem Derives.closesBlock_eq_false {e : List Token} (h : Derives .expression e)
    (halternative : ¬ StartsAlternative e) :
  closesBlock (upcoming e).kind = false
  := by
  have hall : ∀ kind ∈ .plus :: .minus :: primaryStarts,
      kind = .elseWord ∨ kind = .elseifWord ∨ closesBlock kind = false := by decide
  rcases hall _ h.expression_starts with hword | hword | hclose
  · apply absurd (.inl hword) halternative
  · apply absurd (.inr hword) halternative
  · apply hclose

/-- What follows the block of a conditional closes the block. -/
theorem Derives.closesBlock {t : List Token} (h : Derives .alternative t) :
  Parser.closesBlock (upcoming t).kind = true
  := by
  cases h with
  | close hword =>
      rw [upcoming_cons, hword]
      rfl
  | other _ hword => rcases hword with h | h <;> rw [h] <;> rfl

/-- A token that closes a block is no operator. -/
theorem not_isOperator_of_closesBlock {kind : TokenKind} (h : closesBlock kind = true) :
  isOperator kind = false
  := by
  revert h
  cases kind <;> decide

/-- An expression that starts with an operator is a sign before an expression. -/
theorem Derives.unsign {e : List Token} (h : Derives .expression e)
    (hop : Parser.isOperator (upcoming e).kind = true) :
  ∃ sign e', e = sign :: e' ∧ Parser.isOperator sign.kind = true ∧ Derives .expression e'
  := by
  have hoperand : ∀ {u : List Token}, Derives .operand u →
      Parser.isOperator (upcoming u).kind = true →
      ∃ sign u', u = sign :: u' ∧ Parser.isOperator sign.kind = true ∧ Derives .operand u' := by
    intro u hu hop
    cases hu with
    | signed hsign hu => exact ⟨_, _, rfl, hsign.isOperator, hu⟩
    | unsigned ha =>
        rw [ha.not_isOperator] at hop
        cases hop
  cases h with
  | single hu =>
      obtain ⟨sign, u', rfl, hsign, hu'⟩ := hoperand hu hop
      exact ⟨sign, u', rfl, hsign, .single hu'⟩
  | joined hu hop' he =>
      rw [upcoming_append (hu.ne_nil nofun)] at hop
      obtain ⟨sign, u', rfl, hsign, hu'⟩ := hoperand hu hop
      exact ⟨sign, _, rfl, hsign, .joined hu' hop' he⟩

/-! ### Statements -/

/-- Statements are none, or an expression followed by statements that do not start with an
operator: the longest expression is taken off their front. -/
theorem Derives.split {ss : List Token} (h : Derives .statements ss) :
  ss = [] ∨ ∃ e rest, ss = e ++ rest ∧ Derives .expression e ∧ ¬ StartsAlternative e ∧
    Derives .statements rest ∧ isOperator (upcoming rest).kind = false
  := by
  generalize hphrase : Phrase.statements = phrase at h
  induction h with
  | none => exact .inl rfl
  | @more s ss hs hss _ ih =>
      right
      obtain ⟨he, halternative⟩ : Derives .expression s ∧ ¬ StartsAlternative s := by
        cases hs with
        | statement he halternative => exact ⟨he, halternative⟩
      rcases ih rfl with rfl | ⟨e, rest, rfl, he', halternative', hrest, hnext⟩
      · exact ⟨s, [], rfl, he, halternative, .none, rfl⟩
      by_cases hop : isOperator (upcoming e).kind = true
      · -- the next statement starts with a sign, so it belongs to this expression
        obtain ⟨sign, e', rfl, hsign, he'⟩ := he'.unsign hop
        refine ⟨s ++ sign :: e', rest, by simp, he.join hsign he', ?_, hrest, hnext⟩
        rw [StartsAlternative, upcoming_append (he.ne_nil nofun)]
        apply halternative
      · refine ⟨s, e ++ rest, rfl, he, halternative, hss, ?_⟩
        rw [upcoming_append (he'.ne_nil nofun)]
        simpa using hop
  | _ => cases hphrase

/-! ### Readings are derived -/

section Derivation

variable {E : Int → Reading Tree}
  (hE : ∀ {bound ts tree rest}, E bound ts tree rest →
    ∃ used, ts = used ++ rest ∧ Derives .expression used)
include hE

theorem BlockReading.derives {ts rest : List Token} {trees : List Tree}
    (h : BlockReading E ts trees rest) :
  ∃ used, ts = used ++ rest ∧ Derives .statements used
  := by
  induction h with
  | close _ => exact ⟨[], rfl, .none⟩
  | more hopen hfirst _ ih =>
      obtain ⟨e, rfl, he⟩ := hE hfirst
      obtain ⟨ss, rfl, hss⟩ := ih
      refine ⟨e ++ ss, by simp, .more (.statement he ?_) hss⟩
      rw [upcoming_append (he.ne_nil nofun)] at hopen
      rintro (hword | hword) <;> rw [hword] at hopen <;> cases hopen

theorem AlternativeReading.derives {ts rest : List Token} {tree : Tree}
    (h : AlternativeReading E ts tree rest) :
  ∃ used, ts = used ++ rest ∧ Derives .alternative used
  := by
  cases h with
  | @close word _ hword => exact ⟨[word], rfl, .close hword⟩
  | other hword hother =>
      obtain ⟨e, rfl, he⟩ := hE hother
      refine ⟨e, rfl, .other he ?_⟩
      rwa [upcoming_append (he.ne_nil nofun)] at hword

theorem ConditionalReading.derives {head : AtomKind} {ts rest : List Token} {tree : Tree}
    (h : ConditionalReading E head ts tree rest) :
  ∃ used, ts = used ++ rest ∧ Derives .conditional used
  := by
  cases h with
  | intro hcondition hword hblock halternative =>
      obtain ⟨e, rfl, he⟩ := hE hcondition
      obtain ⟨ss, rfl, hss⟩ := hblock.derives hE
      obtain ⟨t, rfl, ht⟩ := halternative.derives hE
      exact ⟨_, by simp, .branches he hword hss ht⟩

theorem StartReading.derives {token : Token} {ts rest : List Token} {tree : Tree}
    (h : StartReading E token ts tree rest) :
  ∃ used, ts = used ++ rest ∧ Derives .expression (token :: used)
  := by
  cases h with
  | leaf hkind _ => exact ⟨[], rfl, .ofPrimary (.literal hkind)⟩
  | parentheses hkind hinner hclose =>
      obtain ⟨e, rfl, he⟩ := hE hinner
      exact ⟨_, by simp, .ofPrimary (.parentheses hkind he hclose)⟩
  | plus hkind hoperand =>
      obtain ⟨e, rfl, he⟩ := hE hoperand
      exact ⟨e, rfl, he.sign (.inl hkind)⟩
  | minus hkind hoperand =>
      obtain ⟨e, rfl, he⟩ := hE hoperand
      exact ⟨e, rfl, he.sign (.inr hkind)⟩
  | conditional hkind hconditional =>
      obtain ⟨c, rfl, hc⟩ := hconditional.derives hE
      exact ⟨c, rfl, .ofPrimary (.conditional (.inl hkind) hc)⟩
  | orConditional hkind hconditional =>
      obtain ⟨c, rfl, hc⟩ := hconditional.derives hE
      exact ⟨c, rfl, .ofPrimary (.conditional (.inr hkind) hc)⟩
  | otherwise hkind hblock hclose =>
      obtain ⟨ss, rfl, hss⟩ := hblock.derives hE
      exact ⟨_, by simp, .ofPrimary (.otherwise hkind hss hclose)⟩

/-- What continues an expression makes a longer expression of it. -/
theorem ContinuationReading.derives {bound : Int} {left tree : Tree} {ts rest : List Token}
    (h : ContinuationReading E bound left ts tree rest) {e : List Token}
    (he : Derives .expression e) :
  ∃ used, ts = used ++ rest ∧ Derives .expression (e ++ used)
  := by
  induction h generalizing e with
  | stop _ =>
      use [], rfl
      rwa [List.append_nil]
  | @step _ _ _ token _ _ _ _ _ hoperator _ hright _ ih =>
      obtain ⟨e', rfl, he'⟩ := hE hright
      obtain ⟨used, rfl, hused⟩ := ih (he.join hoperator he')
      refine ⟨token :: e' ++ used, by simp, ?_⟩
      simpa using hused

end Derivation

/-- What is read as an expression is derived as an expression. -/
theorem reads_derives {depth : Nat} {bound : Int} {ts rest : List Token} {tree : Tree}
    (h : Reads depth bound ts tree rest) :
  ∃ used, ts = used ++ rest ∧ Derives .expression used
  := by
  induction depth generalizing bound ts tree rest with
  | zero => cases h
  | succ depth ih =>
      obtain ⟨hstart, hcontinuation⟩ := h
      obtain ⟨used, rfl, hused⟩ := hstart.derives ih
      obtain ⟨used', rfl, hused'⟩ := hcontinuation.derives ih hused
      exact ⟨_, by simp, hused'⟩

end ExprScript.Parser
