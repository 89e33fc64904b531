import ExprScript.Proofs.Grammar.Realization
import ExprScript.Proofs.Token.Typing

/-!
# How parsing fails

Two facts about the errors of the parser, each proved rule by rule from the same fact about
the reader of expressions.

* A reader of expressions nested less deep approximates a reader of expressions nested
  deeper: it gives the same result, or the same error, or runs out of depth
  (`parseAt_approximates`).
* On typed tokens, and with bounds that are not negative, the parser stops only with an error
  of syntax: it never misses the payload of a token, never fails to build a node, and never
  continues an expression by a token that is no operator (`parseAt_respects`).
-/

namespace ExprScript

/-- Whether the error is about the tokens read or the depth of their nesting.  The other
errors are those of a check that the tree or the rules fail. -/
def ParseError.IsSyntax : ParseError → Prop
  | .expected _ _ | .unexpectedEnd | .cannotStart _ | .cannotFollow _ _
  | .outsideConditional _ | .tooDeep => True
  | .cannotContinue _ | .noAtom _ | .badPayload | .invalidNode _ => False

namespace Parser

/-! ### Running out of depth -/

section Approximation

variable {expression deeper : Int → ParseM Tree}
  (h : ∀ bound, Approximates .tooDeep (expression bound) (deeper bound))
include h

theorem expressions_approximates (fuel : Nat) (done : List Tree) :
  Approximates .tooDeep (expressions expression fuel done) (expressions deeper fuel done)
  := by
  induction fuel generalizing done with
  | zero => apply Approximates.refl
  | succ fuel ih =>
      apply Approximates.bind (Approximates.refl _ _)
      intro token
      apply Approximates.ite (Approximates.refl _ _)
      apply Approximates.bind (h 0)
      intro tree
      apply ih

theorem block_approximates :
  Approximates .tooDeep (block expression) (block deeper)
  := by
  apply Approximates.bind (Approximates.refl _ _)
  intro n
  apply Approximates.bind (expressions_approximates h _ _)
  intro trees
  apply Approximates.refl

theorem alternative_approximates (head : AtomKind) :
  Approximates .tooDeep (alternative expression head) (alternative deeper head)
  := by
  apply Approximates.bind (Approximates.refl _ _)
  intro token
  split
  · apply Approximates.refl
  · apply h
  · apply h
  · apply Approximates.refl

theorem conditional_approximates (head : AtomKind) :
  Approximates .tooDeep (conditional expression head) (conditional deeper head)
  := by
  apply Approximates.bind (h 0)
  intro condition
  apply Approximates.bind (Approximates.refl _ _)
  intro word
  apply Approximates.bind (block_approximates h)
  intro branch
  apply Approximates.bind (alternative_approximates h head)
  intro otherwise
  apply Approximates.refl

theorem startRule_approximates (token : Token) :
  Approximates .tooDeep (startRule expression token) (startRule deeper token)
  := by
  unfold startRule
  -- the literals read no expression; then parentheses, the signs, the words, and no rule
  split
  iterate 4 apply Approximates.refl
  · apply Approximates.bind (h 0)
    intro inner
    apply Approximates.refl
  · apply h
  · apply Approximates.bind (h _)
    intro operand
    apply Approximates.refl
  · apply conditional_approximates h
  · apply conditional_approximates h
  · apply Approximates.bind (block_approximates h)
    intro branch
    apply Approximates.refl
  · apply Approximates.refl
  · apply Approximates.refl

theorem continueRule_approximates (left : Tree) (token : Token) :
  Approximates .tooDeep (continueRule expression left token) (continueRule deeper left token)
  := by
  apply Approximates.ite
  · apply Approximates.bind (h _)
    intro right
    apply Approximates.refl
  · apply Approximates.ite _ (Approximates.refl _ _)
    apply Approximates.bind (h _)
    intro right
    apply Approximates.refl

theorem continuation_approximates (bound : Int) (fuel : Nat) (left : Tree) :
  Approximates .tooDeep (continuation expression bound fuel left)
    (continuation deeper bound fuel left)
  := by
  induction fuel generalizing left with
  | zero => apply Approximates.refl
  | succ fuel ih =>
      apply Approximates.bind (Approximates.refl _ _)
      intro token
      apply Approximates.ite _ (Approximates.refl _ _)
      apply Approximates.bind (Approximates.refl _ _)
      intro token
      apply Approximates.bind (continueRule_approximates h left token)
      intro longer
      apply ih

theorem expressionRule_approximates (bound : Int) :
  Approximates .tooDeep (expressionRule expression bound) (expressionRule deeper bound)
  := by
  apply Approximates.bind (Approximates.refl _ _)
  intro token
  apply Approximates.bind (startRule_approximates h token)
  intro left
  apply Approximates.bind (Approximates.refl _ _)
  intro n
  apply continuation_approximates h

end Approximation

/-- Reading expressions nested up to `depth` approximates reading expressions nested one
deeper. -/
theorem parseAt_approximates_succ (depth : Nat) (bound : Int) :
  Approximates .tooDeep (parseAt depth bound) (parseAt (depth + 1) bound)
  := by
  induction depth generalizing bound with
  | zero => apply Approximates.of_throw
  | succ depth ih => apply expressionRule_approximates ih

/-- Reading expressions nested up to a depth approximates reading expressions nested up to any
greater depth. -/
theorem parseAt_approximates {depth deeper : Nat} (h : depth ≤ deeper) (bound : Int) :
  Approximates .tooDeep (parseAt depth bound) (parseAt deeper bound)
  := by
  induction h with
  | refl => apply Approximates.refl
  | step _ ih => apply ih.trans (parseAt_approximates_succ _ bound)

/-- Reading a program nested up to a depth approximates reading a program nested up to any
greater depth. -/
theorem parseProgram_approximates {depth deeper : Nat} (h : depth ≤ deeper) :
  Approximates .tooDeep (parseProgram depth) (parseProgram deeper)
  := by
  apply Approximates.bind (block_approximates (parseAt_approximates h))
  intro tree
  apply Approximates.refl

/-! ### Errors of syntax -/

/-- Whether all tokens not yet read carry what their kinds need. -/
def Stream.IsTyped (s : Stream) : Prop := ∀ token ∈ s.rest, token.IsTyped

/-- Whether a reader stops with errors of syntax only, and keeps the tokens typed. -/
abbrev StopsBySyntax {α : Type} (x : ParseM α) (Q : α → Prop) : Prop :=
  Respects Stream.IsTyped ParseError.IsSyntax x Q

/-- A token joins two operands exactly when its precedence is positive. -/
theorem isOperator_iff (kind : TokenKind) :
  isOperator kind = true ↔ 0 < kind.precedence
  := by
  cases kind <;> decide

/-- The bound of the right operand of an operator is not negative. -/
theorem rightBound_nonneg {kind : TokenKind} (h : isOperator kind = true) :
  0 ≤ rightBound kind
  := by
  have hpos := (isOperator_iff kind).mp h
  unfold rightBound
  split <;> omega

theorem next_respects :
  StopsBySyntax next Token.IsTyped
  := by
  rintro ⟨ts, overrun, log⟩ hs
  cases ts with
  | nil =>
      use hs
      apply Token.isTyped_ofKind <;> decide
  | cons token ts =>
      have hall : ∀ t ∈ token :: ts, t.IsTyped := hs
      rw [List.forall_mem_cons] at hall
      exact ⟨hall.2, hall.1⟩

theorem expect_respects (kind : TokenKind) :
  StopsBySyntax (expect kind) (fun _ => True)
  := by
  apply Respects.bind next_respects
  intro token _
  split
  · apply Respects.pure trivial
  · apply Respects.throw trivial

theorem atomOf_respects
    {token : Token} (htyped : token.IsTyped)
    (hkind : token.kind = .number ∨ token.kind = .symbol ∨ token.kind = .truth ∨
      token.kind = .falsity) :
  StopsBySyntax (atomOf token) (fun atom => atom.kind.isLeaf = true)
  := by
  obtain ⟨atom, hatom⟩ := htyped.toAtom hkind
  unfold atomOf
  rw [hatom]
  exact Respects.pure (isLeaf_of_toAtom hkind hatom)

/-- Building a node of an operation and operands does not fail. -/
theorem nodeOf_respects
    (head : Atom) (hhead : head.kind.isLeaf = false) {tail : List Tree}
    (htail : ∀ tree ∈ tail, IsOperand tree) :
  StopsBySyntax (nodeOf head tail) IsOperand
  := by
  have hfault : Tree.headFault? (.atom head) = none := by simp [Tree.headFault?, hhead]
  have hbuild : nodeOf head tail = pure (.node head tail) := by
    simp [nodeOf, Tree.build, hfault, (tailFault?_eq_none_iff tail).mpr htail]
  rw [hbuild]
  apply Respects.pure (isOperand_node head tail)

section Syntax

variable {expression : Int → ParseM Tree}
  (h : ∀ bound, 0 ≤ bound → StopsBySyntax (expression bound) IsOperand)
include h

theorem expressions_respects
    (fuel : Nat) {done : List Tree} (hdone : ∀ tree ∈ done, IsOperand tree) :
  StopsBySyntax (expressions expression fuel done) (fun trees => ∀ tree ∈ trees, IsOperand tree)
  := by
  induction fuel generalizing done with
  | zero =>
      apply Respects.pure
      simpa using hdone
  | succ fuel ih =>
      have hpeek : StopsBySyntax peek (fun _ => True) := fun s hs => ⟨hs, trivial⟩
      apply hpeek.bind
      intro token _
      split
      · apply Respects.pure
        simpa using hdone
      · apply (h 0 (by decide)).bind
        intro tree htree
        apply ih (List.forall_mem_cons.mpr ⟨htree, hdone⟩)

theorem block_respects :
  StopsBySyntax (block expression) IsOperand
  := by
  have hremaining : StopsBySyntax remaining (fun _ => True) := fun s hs => ⟨hs, trivial⟩
  apply hremaining.bind
  intro n _
  apply (expressions_respects h _ (by simp)).bind
  intro trees htrees
  apply nodeOf_respects _ rfl htrees

theorem alternative_respects (head : AtomKind) :
  StopsBySyntax (alternative expression head) IsOperand
  := by
  have hpeek : StopsBySyntax peek (fun _ => True) := fun s hs => ⟨hs, trivial⟩
  apply hpeek.bind
  intro token _
  split
  · apply next_respects.bind
    intro word _
    apply Respects.pure (isOperand_atom rfl)
  · apply h 0 (by decide)
  · apply h 0 (by decide)
  · apply Respects.throw trivial

theorem conditional_respects {head : AtomKind} (hhead : head.isLeaf = false) :
  StopsBySyntax (conditional expression head) IsOperand
  := by
  apply (h 0 (by decide)).bind
  intro condition hcondition
  apply (expect_respects .thenWord).bind
  intro word _
  apply (block_respects h).bind
  intro branch hbranch
  apply (alternative_respects h head).bind
  intro otherwise hotherwise
  have hreport : StopsBySyntax (report (.conditionalParsed head condition)) (fun _ => True) :=
    fun s hs => ⟨hs, trivial⟩
  apply hreport.bind
  intro _ _
  apply nodeOf_respects _ hhead
  simp only [List.forall_mem_cons, List.not_mem_nil, false_implies, implies_true, and_true]
  exact ⟨hcondition, hbranch, hotherwise⟩

theorem startRule_respects {token : Token} (htyped : token.IsTyped) :
  StopsBySyntax (startRule expression token) IsOperand
  := by
  have hleaf : (token.kind = .number ∨ token.kind = .symbol ∨ token.kind = .truth ∨
      token.kind = .falsity) → StopsBySyntax (do return .atom (← atomOf token)) IsOperand := by
    intro hkind
    apply (atomOf_respects htyped hkind).bind
    intro atom hatom
    apply Respects.pure (isOperand_atom hatom)
  unfold startRule
  split
  · next hkind => apply hleaf (.inl hkind)
  · next hkind => apply hleaf (.inr (.inl hkind))
  · next hkind => apply hleaf (.inr (.inr (.inl hkind)))
  · next hkind => apply hleaf (.inr (.inr (.inr hkind)))
  · apply (h 0 (by decide)).bind
    intro inner hinner
    apply (expect_respects .closeParen).bind
    intro close _
    apply Respects.pure hinner
  · next hkind => apply h _ (by rw [Token.precedence, hkind]; decide)
  · next hkind =>
      apply (h _ (by rw [Token.precedence, hkind]; decide)).bind
      intro operand hoperand
      apply nodeOf_respects _ rfl
      simpa using hoperand
  · apply conditional_respects h rfl
  · apply conditional_respects h rfl
  · apply (block_respects h).bind
    intro branch hbranch
    apply (expect_respects .endWord).bind
    intro close _
    apply Respects.pure hbranch
  · apply Respects.throw trivial
  · apply Respects.throw trivial

theorem continueRule_respects
    {left : Tree} (hleft : IsOperand left) {token : Token}
    (hoperator : isOperator token.kind = true) :
  StopsBySyntax (continueRule expression left token) IsOperand
  := by
  obtain ⟨kind, hatom, hkind⟩ := toAtom_of_isOperator hoperator
  have hop : atomOf token = pure (.ofKind kind) := by rw [atomOf, hatom]
  rw [continueRule_eq hoperator, hop]
  apply (h _ (rightBound_nonneg hoperator)).bind
  intro right hright
  apply nodeOf_respects (.ofKind kind) (AtomKind.isLeaf_of_takes hkind)
  simp only [List.forall_mem_cons, List.not_mem_nil, false_implies, implies_true, and_true]
  exact ⟨hleft, hright⟩

/-- With a bound that is not negative, only an operator continues an expression. -/
theorem continuation_respects
    {bound : Int} (hbound : 0 ≤ bound) (fuel : Nat) {left : Tree} (hleft : IsOperand left) :
  StopsBySyntax (continuation expression bound fuel left) IsOperand
  := by
  induction fuel generalizing left with
  | zero => apply Respects.pure hleft
  | succ fuel ih =>
      rintro s hs
      rw [continuation, run_bind_of_ok (run_peek s)]
      by_cases hstop : (upcoming s.rest).precedence ≤ bound
      · rw [if_neg (Int.not_lt.mpr hstop)]
        exact ⟨hs, hleft⟩
      · rw [if_pos (Int.not_le.mp hstop)]
        obtain ⟨ts, overrun, log⟩ := s
        cases ts with
        | nil => exact absurd hbound hstop
        | cons token ts =>
            have hprecedence : bound < token.precedence := Int.not_le.mp hstop
            have hoperator : isOperator token.kind = true :=
              (isOperator_iff token.kind).mpr (Int.lt_of_le_of_lt hbound hprecedence)
            have hts : Stream.IsTyped ⟨ts, overrun, log⟩ :=
              fun t ht => hs t (List.mem_cons_of_mem token ht)
            have hlonger : StopsBySyntax (do
                let longer ← continueRule expression left token
                continuation expression bound fuel longer) IsOperand := by
              apply (continueRule_respects h hleft hoperator).bind
              intro longer hlonger
              apply ih hlonger
            apply hlonger _ hts

theorem expressionRule_respects {bound : Int} (hbound : 0 ≤ bound) :
  StopsBySyntax (expressionRule expression bound) IsOperand
  := by
  have hremaining : StopsBySyntax remaining (fun _ => True) := fun s hs => ⟨hs, trivial⟩
  apply next_respects.bind
  intro token htoken
  apply (startRule_respects h htoken).bind
  intro left hleft
  apply hremaining.bind
  intro n _
  apply continuation_respects h hbound _ hleft

end Syntax

/-- On typed tokens, reading an expression with a bound that is not negative stops with errors
of syntax only. -/
theorem parseAt_respects (depth : Nat) {bound : Int} (hbound : 0 ≤ bound) :
  StopsBySyntax (parseAt depth bound) IsOperand
  := by
  induction depth generalizing bound with
  | zero => apply Respects.throw trivial
  | succ depth ih => apply expressionRule_respects (fun _ => ih) hbound

/-- On typed tokens, reading a program stops with errors of syntax only. -/
theorem parseProgram_respects (depth : Nat) :
  StopsBySyntax (parseProgram depth) IsOperand
  := by
  have hpeek : StopsBySyntax peek (fun _ => True) := fun s hs => ⟨hs, trivial⟩
  apply (block_respects (fun _ => parseAt_respects depth)).bind
  intro tree htree
  apply hpeek.bind
  intro token _
  split
  · have hreport : StopsBySyntax (report (.programParsed tree.operands.length)) (fun _ => True) :=
      fun s hs => ⟨hs, trivial⟩
    apply hreport.bind
    intro _ _
    apply Respects.pure htree
  · apply Respects.throw trivial

end Parser

end ExprScript
