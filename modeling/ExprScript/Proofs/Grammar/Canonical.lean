import ExprScript.Proofs.Grammar.Continuation
import ExprScript.Proofs.Grammar.Failure
import ExprScript.Proofs.Tree.Canonical

/-!
# Reading canonical trees

The words of a canonical expression are read as one operand, whatever follows them and however
tightly it binds, and give the expression back (`canonical_spelled`).  The words of the
alternative of a conditional are read as the alternative before anything that binds nothing, so
that each `else`, `elseif` and `end` belongs to the innermost conditional.

A canonical expression of height `h` nests its words at most `2 * h` deep.
-/

namespace ExprScript.Parser

open ExprScript.Tree (Place Canonical words alternativeWords bodyWords)

/-- The tokens of words. -/
abbrev spell (texts : List String) : List Token := texts.map Token.classify

/-- Whether the words of a tree are read as the tree before anything. -/
def SpelledAsOperand (t : Tree) : Prop :=
  ∃ token others, spell (words t) = token :: others ∧
    (token.kind = .openParen ∨ IsLiteral token) ∧
    ∀ depth rest, 2 * t.height ≤ depth + 1 →
      StartReading (Reads depth) token (others ++ rest) t rest

/-- Whether the words of the alternative of a conditional are read as the alternative before
anything that binds nothing. -/
def SpelledAsAlternative (t : Tree) : Prop :=
  ∀ depth rest, 2 * t.height ≤ depth + 1 → (upcoming rest).precedence = 0 →
    AlternativeReading (Reads depth) (spell (alternativeWords t) ++ rest) t rest

/-- Whether the words of a tree are read as the tree at a place. -/
def Spelled : Place → Tree → Prop
  | .expression => SpelledAsOperand
  | .alternative => SpelledAsAlternative

/-! ### Heights -/

theorem height_pos (t : Tree) :
  1 ≤ t.height
  := by
  cases t <;> simp [Tree.height]

/-! ### Operands and bodies -/

/-- The token that starts an operand joins nothing and closes no block. -/
theorem starts_operand {token : Token} (h : token.kind = .openParen ∨ IsLiteral token) :
  token.precedence = 0 ∧ closesBlock token.kind = false
  := by
  rw [Token.precedence]
  rcases h with h | h | h | h | h <;> rw [h] <;> exact ⟨rfl, rfl⟩

/-- The words of an operand are read as an expression before anything that binds no tighter than
the bound. -/
theorem SpelledAsOperand.reads
    {t : Tree} (h : SpelledAsOperand t) {depth : Nat} (hdepth : 2 * t.height ≤ depth)
    {bound : Int} {rest : List Token} (hrest : (upcoming rest).precedence ≤ bound) :
  Reads depth bound (spell (words t) ++ rest) t rest
  := by
  obtain ⟨token, others, hspell, -, hstart⟩ := h
  have hpos := height_pos t
  cases depth with
  | zero => omega
  | succ depth =>
      rw [hspell]
      apply ExpressionReading.intro (hstart depth rest hdepth) (.stop hrest)

theorem SpelledAsOperand.upcoming_append {t : Tree} (h : SpelledAsOperand t) (rest : List Token) :
  (upcoming (spell (words t) ++ rest)).precedence = 0 ∧
    closesBlock (upcoming (spell (words t) ++ rest)).kind = false
  := by
  obtain ⟨token, others, hspell, hkind, -⟩ := h
  rw [hspell]
  apply starts_operand hkind

/-- No word of a body is taken for an operator after an expression. -/
theorem precedence_spell_bodyWords
    {body : List Tree} (h : ∀ t ∈ body, SpelledAsOperand t) {rest : List Token}
    (hrest : closesBlock (upcoming rest).kind = true) :
  (upcoming (spell (bodyWords body) ++ rest)).precedence = 0
  := by
  cases body with
  | nil => apply precedence_of_closesBlock hrest
  | cons first body =>
      rw [List.forall_mem_cons] at h
      rw [bodyWords, spell, List.map_append, List.append_assoc]
      apply (h.1.upcoming_append _).1

/-- The words of operands are read as a block of them. -/
theorem spell_bodyWords
    {body : List Tree} (h : ∀ t ∈ body, SpelledAsOperand t) {depth : Nat}
    (hdepth : 2 * Tree.heightAll body ≤ depth) {rest : List Token}
    (hrest : closesBlock (upcoming rest).kind = true) :
  BlockReading (Reads depth) (spell (bodyWords body) ++ rest) body rest
  := by
  induction body with
  | nil => apply BlockReading.close hrest
  | cons first body ih =>
      rw [List.forall_mem_cons] at h
      rw [Tree.heightAll] at hdepth
      rw [bodyWords, spell, List.map_append, List.append_assoc]
      have hnext := precedence_spell_bodyWords h.2 hrest
      apply BlockReading.more (h.1.upcoming_append _).2 (h.1.reads (by omega) (Int.le_of_eq hnext))
      apply ih h.2 (by omega)

theorem AlternativeReading.closesBlock
    {E : Int → Reading Tree} {ts rest : List Token} {tree : Tree}
    (h : AlternativeReading E ts tree rest) :
  Parser.closesBlock (upcoming ts).kind = true
  := by
  cases h with
  | close hword =>
      rw [upcoming_cons, hword]
      rfl
  | other hword _ => rcases hword with h | h <;> rw [h] <;> rfl

/-! ### Conditionals -/

/-- The words of a condition, a body and an alternative are read as a conditional. -/
theorem spell_conditional
    {c r : Tree} {body : List Tree} (hc : SpelledAsOperand c)
    (hbody : ∀ t ∈ body, SpelledAsOperand t) (hr : SpelledAsAlternative r) {depth : Nat}
    (hdepth : 2 * Tree.heightAll [c, .node (.ofKind .block) body, r] ≤ depth)
    {rest : List Token} (hrest : (upcoming rest).precedence = 0) (head : AtomKind) :
  ConditionalReading (Reads depth) head
    (spell (words c ++ "then" :: bodyWords body ++ alternativeWords r) ++ rest)
    (.node (.ofKind head) [c, .node (.ofKind .block) body, r]) rest
  := by
  simp only [Tree.heightAll, Tree.height] at hdepth
  have hwords : spell (words c ++ "then" :: bodyWords body ++ alternativeWords r) ++ rest =
      spell (words c) ++ Token.ofKind .thenWord ::
        (spell (bodyWords body) ++ (spell (alternativeWords r) ++ rest)) := by
    have hthen : Token.classify "then" = Token.ofKind .thenWord := rfl
    simp [spell, hthen]
  rw [hwords]
  have hcondition : ∀ more, Reads depth 0 (spell (words c) ++ Token.ofKind .thenWord :: more) c
      (Token.ofKind .thenWord :: more) := fun more => hc.reads (by omega) (Int.le_refl 0)
  have halternative := hr depth rest (by omega) hrest
  apply ConditionalReading.intro (hcondition _) rfl
    (spell_bodyWords hbody (by omega) halternative.closesBlock) halternative

/-! ### Canonical trees -/

/-- An expression between parentheses is read as an operand. -/
theorem spelledAsOperand_of_parentheses
    {t : Tree} {inner : List String} (hwords : words t = "(" :: inner ++ [")"])
    (hinner : ∀ depth rest, 2 * t.height ≤ depth + 1 →
      Reads depth 0 (spell inner ++ Token.ofKind .closeParen :: rest) t
        (Token.ofKind .closeParen :: rest)) :
  SpelledAsOperand t
  := by
  refine ⟨Token.ofKind .openParen, spell inner ++ [Token.ofKind .closeParen], ?_, .inl rfl, ?_⟩
  · have hopen : Token.classify "(" = Token.ofKind .openParen := rfl
    have hclose : Token.classify ")" = Token.ofKind .closeParen := rfl
    simp [hwords, spell, hopen, hclose]
  · intro depth rest hdepth
    rw [List.append_assoc]
    apply StartReading.parentheses rfl (hinner depth rest hdepth) rfl

/-- A literal is read as an operand. -/
theorem spelledAsOperand_of_literal
    {a : Atom} (hliteral : IsLiteral (Token.classify a.word))
    (hatom : (Token.classify a.word).toAtom = .ok a) :
  SpelledAsOperand (.atom a)
  := by
  refine ⟨Token.classify a.word, [], rfl, .inr hliteral, ?_⟩
  intro depth rest _
  apply StartReading.leaf hliteral hatom

/-- The word of an operation is the operator for it. -/
theorem classify_name_of_standsBetween {op : AtomKind} (h : op.standsBetween = true) :
  isOperator (Token.classify op.name).kind = true ∧
    (Token.classify op.name).toAtom = .ok (.ofKind op)
  := by
  cases op <;> first | exact ⟨rfl, rfl⟩ | cases h

theorem SpelledAsOperand.operation
    {op : AtomKind} (hop : op.standsBetween = true) {l r : Tree} (hl : SpelledAsOperand l)
    (hr : SpelledAsOperand r) :
  SpelledAsOperand (.node (.ofKind op) [l, r])
  := by
  obtain ⟨hoperator, hatom⟩ := classify_name_of_standsBetween hop
  have hwords : words (.node (.ofKind op) [l, r]) =
      "(" :: (words l ++ op.name :: words r) ++ [")"] := rfl
  apply spelledAsOperand_of_parentheses hwords
  intro depth rest hdepth
  simp only [Tree.height, Tree.heightAll] at hdepth
  obtain ⟨token, others, hspell, -, hstart⟩ := hl
  cases depth with
  | zero => omega
  | succ depth =>
      have htokens : spell (words l ++ op.name :: words r) ++ Token.ofKind .closeParen :: rest =
          token :: (others ++ Token.classify op.name ::
            (spell (words r) ++ Token.ofKind .closeParen :: rest)) := by
        simp only [spell, List.map_append, List.map_cons] at hspell ⊢
        rw [hspell]
        simp
      rw [htokens]
      have hright : Reads depth (rightBound (Token.classify op.name).kind)
          (spell (words r) ++ Token.ofKind .closeParen :: rest) r
          (Token.ofKind .closeParen :: rest) := hr.reads (by omega) (rightBound_nonneg hoperator)
      apply ExpressionReading.intro (hstart depth _ (by omega))
      apply ContinuationReading.step ((isOperator_iff _).mp hoperator) hoperator hatom hright
        (.stop (Int.le_refl 0))

theorem SpelledAsOperand.negation {x : Tree} (hx : SpelledAsOperand x) :
  SpelledAsOperand (.node (.ofKind .negate) [x])
  := by
  have hwords : words (.node (.ofKind .negate) [x]) = "(" :: ("-" :: words x) ++ [")"] := rfl
  apply spelledAsOperand_of_parentheses hwords
  intro depth rest hdepth
  simp only [Tree.height, Tree.heightAll] at hdepth
  cases depth with
  | zero => omega
  | succ depth =>
      have hoperand : Reads depth TokenKind.minus.precedence
          (spell (words x) ++ Token.ofKind .closeParen :: rest) x
          (Token.ofKind .closeParen :: rest) := hx.reads (by omega) (by decide : (0 : Int) ≤ 20)
      apply ExpressionReading.intro (.minus rfl hoperand) (.stop (Int.le_refl 0))

theorem SpelledAsOperand.conditional
    {c r : Tree} {body : List Tree} (hc : SpelledAsOperand c)
    (hbody : ∀ t ∈ body, SpelledAsOperand t) (hr : SpelledAsAlternative r) :
  SpelledAsOperand (.node (.ofKind .conditional) [c, .node (.ofKind .block) body, r])
  := by
  have hwords : words (.node (.ofKind .conditional) [c, .node (.ofKind .block) body, r]) =
      "(" :: ("if" :: (words c ++ "then" :: bodyWords body ++ alternativeWords r)) ++ [")"] := rfl
  apply spelledAsOperand_of_parentheses hwords
  intro depth rest hdepth
  rw [Tree.height] at hdepth
  cases depth with
  | zero => omega
  | succ depth =>
      apply ExpressionReading.intro _ (.stop (Int.le_refl 0))
      apply StartReading.conditional rfl
      apply spell_conditional hc hbody hr (by omega) rfl

theorem spelledAsAlternative_nothing :
  SpelledAsAlternative (.atom (.ofKind .nothing))
  := fun _ _ _ _ => .close rfl

theorem spelledAsAlternative_block {body : List Tree} (hbody : ∀ t ∈ body, SpelledAsOperand t) :
  SpelledAsAlternative (.node (.ofKind .block) body)
  := by
  intro depth rest hdepth hrest
  rw [Tree.height] at hdepth
  have htokens : spell (alternativeWords (.node (.ofKind .block) body)) ++ rest =
      Token.ofKind .elseWord :: (spell (bodyWords body) ++ Token.ofKind .endWord :: rest) := by
    have hwords : alternativeWords (.node (.ofKind .block) body) =
        "else" :: bodyWords body ++ ["end"] := rfl
    have helse : Token.classify "else" = Token.ofKind .elseWord := rfl
    have hend : Token.classify "end" = Token.ofKind .endWord := rfl
    simp [hwords, spell, helse, hend]
  rw [htokens]
  apply AlternativeReading.other (.inl rfl)
  cases depth with
  | zero => omega
  | succ depth =>
      apply ExpressionReading.intro _ (.stop (Int.le_of_eq hrest))
      apply StartReading.otherwise rfl (spell_bodyWords hbody (by omega) rfl) rfl

theorem spelledAsAlternative_orConditional
    {c r : Tree} {body : List Tree} (hc : SpelledAsOperand c)
    (hbody : ∀ t ∈ body, SpelledAsOperand t) (hr : SpelledAsAlternative r) :
  SpelledAsAlternative (.node (.ofKind .orConditional) [c, .node (.ofKind .block) body, r])
  := by
  intro depth rest hdepth hrest
  rw [Tree.height] at hdepth
  apply AlternativeReading.other (.inr rfl)
  cases depth with
  | zero => omega
  | succ depth =>
      apply ExpressionReading.intro _ (.stop (Int.le_of_eq hrest))
      apply StartReading.orConditional rfl
      apply spell_conditional hc hbody hr (by omega) hrest

/-- The words of a canonical tree are read as the tree. -/
theorem canonical_spelled {place : Place} {t : Tree} (h : Canonical place t) :
  Spelled place t
  := by
  induction h with
  | number hsign hwhole =>
      have hclassify := Tree.classify_text hsign hwhole
      apply spelledAsOperand_of_literal
      · exact .inl (congrArg Token.kind hclassify)
      · exact congrArg Token.toAtom hclassify
  | symbol hletters hkeyword =>
      have hclassify := Token.classify_name hletters hkeyword
      apply spelledAsOperand_of_literal
      · exact .inr (.inl (congrArg Token.kind hclassify))
      · exact congrArg Token.toAtom hclassify
  | truth => apply spelledAsOperand_of_literal (.inr (.inr (.inl rfl))) rfl
  | falsity => apply spelledAsOperand_of_literal (.inr (.inr (.inr rfl))) rfl
  | operation hop _ _ ihl ihr => apply SpelledAsOperand.operation hop ihl ihr
  | negation _ ih => apply SpelledAsOperand.negation ih
  | conditional _ _ _ ihc ihbody ihr => apply SpelledAsOperand.conditional ihc ihbody ihr
  | nothing => apply spelledAsAlternative_nothing
  | otherwise _ ihbody => apply spelledAsAlternative_block ihbody
  | orConditional _ _ _ ihc ihbody ihr => apply spelledAsAlternative_orConditional ihc ihbody ihr

end ExprScript.Parser
