import ExprScript.Proofs.Eval.Calculation
import ExprScript.Proofs.Program.Reading
import ExprScript.Proofs.Token.Segmentation

/-!
# Running calculations

A source that spells a calculation, with any blanks between its literals and operators or none, is
read as the tree of the calculation and gives its value, however long it is (`run_calculation`).
-/

open ExprScript.Parser

namespace ExprScript

namespace Lexeme

theorem isSegment_operator (op : Operator) :
  IsSegment op.text
  := by
  cases op with
  | plus => exact .glyph (c := '+') (by decide +kernel)
  | minus => exact .glyph (c := '-') (by decide +kernel)
  | times => exact .glyph (c := '*') (by decide +kernel)
  | divide => exact .glyph (c := '/') (by decide +kernel)

/-- An operator is neither letters nor digits, and no other glyph joins it. -/
theorem operator_apart (op : Operator) :
  ¬ IsLetters op.text ∧ ¬ IsDigits op.text ∧ ¬ (op.text = "=" ∨ op.text = "!") ∧
    op.text.toList.head? ≠ some '='
  := by
  simp only [IsLetters, IsDigits]
  cases op <;> decide +kernel

/-- No blank is needed before an operator. -/
theorem mayTouch_operator (text : String) (op : Operator) :
  MayTouch text op.text
  := by
  obtain ⟨hletters, hdigits, -, hequals⟩ := operator_apart op
  exact ⟨fun h => hletters h.2, fun h => hdigits h.2, fun h => hequals h.2⟩

/-- No blank is needed after an operator. -/
theorem operator_mayTouch (op : Operator) (text : String) :
  MayTouch op.text text
  := by
  obtain ⟨hletters, hdigits, hequals, -⟩ := operator_apart op
  exact ⟨fun h => hletters h.1, fun h => hdigits h.1, fun h => hequals h.1⟩

end Lexeme

open Lexeme

namespace Calculation

/-- The literals and operators of a calculation as written. -/
def texts (c : Calculation) : List String :=
  c.flat (fun l => [l.text]) Operator.text

/-- Whether the source is the texts of the calculation, with some blanks or none before, between
and after them. -/
def Spells (c : Calculation) (source : String) : Prop :=
  ∃ (front : List Char) (pieces : List Piece), (∀ blank ∈ front, Text.isBlank blank = true) ∧
    (∀ p ∈ pieces, ∀ blank ∈ p.gap, Text.isBlank blank = true) ∧
    pieces.map Piece.text = c.texts ∧ source.toList = front ++ pieces.flatMap Piece.chars

theorem isSegment_of_mem_texts {c : Calculation} {text : String} (h : text ∈ c.texts) :
  IsSegment text
  := by
  simp only [texts, Spine.flat, Spine.flatSteps, List.mem_append, List.mem_flatMap,
    List.mem_cons, List.not_mem_nil, or_false] at h
  rcases h with rfl | ⟨step, -, rfl | rfl⟩
  · apply IsSegment.digits c.first.isRun
  · apply isSegment_operator
  · apply IsSegment.digits step.operand.isRun

/-- No blank is needed between the texts of a calculation. -/
theorem texts_mayTouch (c : Calculation) :
  c.texts.IsChain MayTouch
  := by
  obtain ⟨first, steps⟩ := c
  induction steps generalizing first with
  | nil => apply List.IsChain.singleton
  | cons step steps ih =>
      apply List.IsChain.cons_cons (mayTouch_operator _ _)
      apply List.IsChain.cons_cons (operator_mayTouch _ _)
      apply ih step.operand

/-- A source that spells a calculation is split into its texts. -/
theorem Spells.split {c : Calculation} {source : String} (h : c.Spells source) :
  Lexeme.split source = .ok c.texts
  := by
  obtain ⟨front, pieces, hfront, hgaps, htexts, hsource⟩ := h
  apply (split_eq_ok_iff source c.texts).mpr
  apply Segments.cuts
  refine ⟨front, pieces, hfront, ⟨hgaps, ?_, ?_⟩, hsource, htexts.symm⟩
  · intro p hp
    apply isSegment_of_mem_texts (c := c)
    rw [← htexts]
    apply List.mem_map_of_mem hp
  · have hchain := c.texts_mayTouch
    rw [← htexts, List.isChain_map] at hchain
    apply hchain.imp
    intro p q hpq _
    exact hpq

theorem ofLexemes_texts (c : Calculation) :
  Token.ofLexemes c.texts = c.tokens
  := by
  have hwords : ∀ text ∈ c.texts, IsWord text := by
    intro text htext
    apply (isSegment_of_mem_texts htext).isWord
  rw [Token.ofLexemes_of_isWord hwords, texts, Spine.map_flat]
  rfl

end Calculation

namespace Program

/-- Let the source spell a calculation of any number of literals, joined by any of the operators
`+`, `-`, `*` and `/`, and let the limit be at least four.

* The source is read, so it does not nest too deeply.
* In every machine, running it gives a number and leaves the environment as it is.  The number is
  that of the calculation: of the products between the operators `+` and `-`, each folded from the
  left with every next literal as the left operand, and then folded from the left themselves with
  every next product as the left operand.  An undefined number has an origin of its own. -/
theorem run_calculation
    {c : Calculation} {source : String} (hsource : c.Spells source) {limit : Nat}
    (hlimit : 4 ≤ limit) :
  ReadsAs limit source (.node (.ofKind .block) [c.tree]) ∧
    ∀ m, ∃ x m', (run limit source).run m = .ok (.number x) m' ∧ x.IsLike c.value ∧
      m'.env = m.env
  := by
  obtain ⟨depth, rfl⟩ := Nat.exists_eq_add_of_le' hlimit
  have hreads : ReadsAs (depth + 4) source (.node (.ofKind .block) [c.tree]) := by
    apply (readsAs_iff _ source _).mpr
    refine ⟨c.texts, [c.tree], hsource.split, ?_, rfl⟩
    have hcalculation : Reads (depth + 4) 0 (c.tokens ++ []) c.tree [] :=
      c.reads (depth + 1) (Int.le_refl 0)
    rw [List.append_nil] at hcalculation
    rw [c.ofLexemes_texts]
    apply BlockReading.more _ hcalculation (.close rfl)
    rw [Calculation.tokens, Spine.flat, Literal.tokens, Token.classify_digits c.first.isRun]
    rfl
  use hreads
  intro m
  obtain ⟨log, hread⟩ := hreads m.log
  obtain ⟨x, fresh, hx, hvalue⟩ := c.evalAt_gives depth { m with log := log }
  refine ⟨x, { m with log := log, fresh := fresh }, ?_, hvalue, rfl⟩
  -- the value of a block of one expression is that of the expression, one level below
  have hblock : (Eval.evalAt (depth + 4) (.node (.ofKind .block) [c.tree])).run
      { m with log := log } = .ok (.number x) { m with log := log, fresh := fresh } := hx
  rw [run_of_read hread, EStateM.run, evaluate, hblock]

/-- The product of 2 and 3 is one operand of `1-2 *3`, and 1 is subtracted from it. -/
theorem run_calculation_reversed :
  ∃ x m', (run nestingLimit "1-2 *3").run (.ofEnvironment .empty) = .ok (.number x) m' ∧
    x.IsLike (((Number.ofNat 3).mul Number.sharedOrigin (.ofNat 2)).sub Number.sharedOrigin
      (.ofNat 1))
  := by
  let one : Literal := ⟨"1", by decide +kernel⟩
  let two : Literal := ⟨"2", by decide +kernel⟩
  let three : Literal := ⟨"3", by decide +kernel⟩
  let c : Calculation := ⟨one, [⟨.minus, two⟩, ⟨.times, three⟩]⟩
  have hblank : Text.isBlank ' ' = true := by decide +kernel
  have hspells : c.Spells "1-2 *3" :=
    ⟨[], [⟨"1", []⟩, ⟨"-", []⟩, ⟨"2", [' ']⟩, ⟨"*", []⟩, ⟨"3", []⟩], by simp, by simp [hblank], rfl,
      rfl⟩
  have hc : c.value =
      Operator.minus.apply (Operator.times.apply three.number two.number) one.number := rfl
  have hnumbers : one.number = .ofNat 1 ∧ two.number = .ofNat 2 ∧ three.number = .ofNat 3 := by
    decide +kernel
  obtain ⟨hone, htwo, hthree⟩ := hnumbers
  obtain ⟨x, m', hrun, hvalue, -⟩ :=
    (run_calculation hspells (by decide : 4 ≤ nestingLimit)).2 (.ofEnvironment .empty)
  rw [hc, hone, htwo, hthree] at hvalue
  exact ⟨x, m', hrun, hvalue⟩

end Program

end ExprScript
