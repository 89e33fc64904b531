import ExprScript.Grammar.Parser
import ExprScript.Proofs.Outcome

/-!
# What the parser keeps

The parser changes its stream only by reading a token and by reporting what it has parsed.  A
property of streams that both keep is therefore kept by every rule, provided that the reader of
expressions keeps it, and so by reading an expression and by reading a program, whether they give a
tree or stop with an error (`Steady.parseAt`, `Steady.parseProgram`).
-/

namespace ExprScript.Parser

/-- What parsing asks of a property of streams. -/
structure Steady (I : Stream → Prop) : Prop where
  next : Keeps I next
  conditionalParsed : ∀ head condition, Keeps I (report (.conditionalParsed head condition))
  programParsed : ∀ count, Keeps I (report (.programParsed count))

section Steady

variable {I : Stream → Prop}

theorem peek_keeps :
  Keeps I peek
  := fun _ hs => ⟨hs, trivial⟩

theorem remaining_keeps :
  Keeps I remaining
  := fun _ hs => ⟨hs, trivial⟩

theorem atomOf_keeps (token : Token) :
  Keeps I (atomOf token)
  := by
  unfold atomOf
  split
  · apply Respects.pure trivial
  · apply Respects.throw trivial

theorem nodeOf_keeps (head : Atom) (tail : List Tree) :
  Keeps I (nodeOf head tail)
  := by
  unfold nodeOf
  split
  · apply Respects.pure trivial
  · apply Respects.throw trivial

variable (hI : Steady I)
include hI

theorem Steady.expect (kind : TokenKind) :
  Keeps I (expect kind)
  := by
  apply hI.next.bind
  intro token
  split
  · apply Respects.pure trivial
  · apply Respects.throw trivial

/-! ### The rules -/

section Rules

variable {expression : Int → ParseM Tree} (h : ∀ bound, Keeps I (expression bound))
include h

omit hI in
theorem expressions_keeps (fuel : Nat) (done : List Tree) :
  Keeps I (expressions expression fuel done)
  := by
  induction fuel generalizing done with
  | zero => apply Respects.pure trivial
  | succ fuel ih =>
      apply peek_keeps.bind
      intro token
      split
      · apply Respects.pure trivial
      · apply (h 0).bind
        intro tree
        apply ih

omit hI in
theorem block_keeps :
  Keeps I (block expression)
  := by
  apply remaining_keeps.bind
  intro n
  apply (expressions_keeps h _ _).bind
  intro trees
  apply nodeOf_keeps

theorem Steady.alternative (head : AtomKind) :
  Keeps I (alternative expression head)
  := by
  apply peek_keeps.bind
  intro token
  split
  · apply hI.next.bind
    intro word
    apply Respects.pure trivial
  · apply h
  · apply h
  · apply Respects.throw trivial

theorem Steady.conditional (head : AtomKind) :
  Keeps I (conditional expression head)
  := by
  apply (h 0).bind
  intro condition
  apply (hI.expect .thenWord).bind
  intro word
  apply (block_keeps h).bind
  intro branch
  apply (hI.alternative h head).bind
  intro otherwise
  apply (hI.conditionalParsed head condition).bind
  intro _
  apply nodeOf_keeps

theorem Steady.startRule (token : Token) :
  Keeps I (startRule expression token)
  := by
  have hleaf : Keeps I (do return .atom (← atomOf token) : ParseM Tree) := by
    apply (atomOf_keeps token).bind
    intro atom
    apply Respects.pure trivial
  unfold Parser.startRule
  -- the four literals, then parentheses, the signs, the words, and no rule
  split
  iterate 4 apply hleaf
  · apply (h 0).bind
    intro inner
    apply (hI.expect .closeParen).bind
    intro close
    apply Respects.pure trivial
  · apply h
  · apply (h _).bind
    intro operand
    apply nodeOf_keeps
  · apply hI.conditional h
  · apply hI.conditional h
  · apply (block_keeps h).bind
    intro branch
    apply (hI.expect .endWord).bind
    intro close
    apply Respects.pure trivial
  · apply Respects.throw trivial
  · apply Respects.throw trivial

omit hI in
theorem continueRule_keeps (left : Tree) (token : Token) :
  Keeps I (continueRule expression left token)
  := by
  have hoperation : ∀ bound, Keeps I (do
      let right ← expression bound
      nodeOf (← atomOf token) [left, right]) := by
    intro bound
    apply (h bound).bind
    intro right
    apply (atomOf_keeps token).bind
    intro op
    apply nodeOf_keeps
  unfold continueRule
  split
  · apply hoperation
  · split
    · apply hoperation
    · apply Respects.throw trivial

theorem Steady.continuation (bound : Int) (fuel : Nat) (left : Tree) :
  Keeps I (continuation expression bound fuel left)
  := by
  induction fuel generalizing left with
  | zero => apply Respects.pure trivial
  | succ fuel ih =>
      apply peek_keeps.bind
      intro token
      split
      · apply hI.next.bind
        intro token
        apply (continueRule_keeps h left token).bind
        intro longer
        apply ih
      · apply Respects.pure trivial

theorem Steady.expressionRule (bound : Int) :
  Keeps I (expressionRule expression bound)
  := by
  apply hI.next.bind
  intro token
  apply (hI.startRule h token).bind
  intro left
  apply remaining_keeps.bind
  intro n
  apply hI.continuation h

end Rules

/-- Reading an expression keeps what reading a token and reporting keep. -/
theorem Steady.parseAt (depth : Nat) (bound : Int) :
  Keeps I (parseAt depth bound)
  := by
  induction depth generalizing bound with
  | zero => apply Respects.throw trivial
  | succ depth ih => apply hI.expressionRule ih

/-- Reading a program keeps what reading a token and reporting keep. -/
theorem Steady.parseProgram (depth : Nat) :
  Keeps I (parseProgram depth)
  := by
  apply (block_keeps (hI.parseAt depth)).bind
  intro tree
  apply peek_keeps.bind
  intro token
  split
  · apply (hI.programParsed _).bind
    intro _
    apply Respects.pure trivial
  · apply Respects.throw trivial

end Steady

end ExprScript.Parser
