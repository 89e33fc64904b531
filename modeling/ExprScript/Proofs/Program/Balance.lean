import ExprScript.Proofs.Grammar.Balance
import ExprScript.Proofs.Program.Acceptance

/-!
# Stray words of conditionals

In an accepted program every `else`, `elseif` and `end` belongs to a conditional, but not always to
one that an `if` has opened: an `else` or `elseif` is accepted wherever an operand may start, and
takes an `end` of its own.  The `if` and the `end` of an accepted program are therefore balanced
exactly when no `else` or `elseif` stands directly after an operator, a sign, an opening
parenthesis, `if` or `elseif` (`accepted_balanced_iff_noStray`).
-/

open ExprScript.Parser

namespace ExprScript.Program

/-- Let `ts` be the tokens of an accepted source.

* All conditionals of `ts` are closed, if an `else` or `elseif` that starts an operand is counted as
  opening one.
* More `if` than `end` stand before every `else`, `elseif` and `end` of `ts`, and as many in all,
  exactly when no `else` or `elseif` starts an operand. -/
theorem accepted_balanced_iff_noStray
    {limit : Nat} {source : String} {texts : List String}
    (hsource : Lexeme.split source = .ok texts) (h : Accepts limit source) :
  openAfter false 0 (Token.ofLexemes texts) = some 0 ∧
    (Balanced (Token.ofLexemes texts) ↔ NoStray (Token.ofLexemes texts))
  := by
  have hclosed := (derives_of_accepts hsource h).openAfter_eq
  exact ⟨hclosed, balanced_iff_noStray hclosed⟩

/-- The `if` and `end` of `if a then 1 else - 2 end` are balanced. -/
theorem accepted_balanced_conditional :
  Accepts 4 "if a then 1 else - 2 end" ∧
    Balanced (Token.ofLexemes ["if", "a", "then", "1", "else", "-", "2", "end"])
  := by
  have hsplit : Lexeme.split "if a then 1 else - 2 end" =
      .ok ["if", "a", "then", "1", "else", "-", "2", "end"] := by cbv
  have haccepts : Accepts 4 "if a then 1 else - 2 end" :=
    ⟨_, readsAs_of_read ((run_read 4 hsplit #[]).trans rfl)⟩
  refine ⟨haccepts, (accepted_balanced_iff_noStray hsplit haccepts).2.mpr ?_⟩
  decide +kernel

/-- The source `1 + else 2 end` is accepted, although no `if` stands before its `else`. -/
theorem accepts_stray_else :
  Accepts 4 "1 + else 2 end" ∧
    ∃ texts, Lexeme.split "1 + else 2 end" = .ok texts ∧ ¬ Balanced (Token.ofLexemes texts)
  := by
  have hsplit : Lexeme.split "1 + else 2 end" = .ok ["1", "+", "else", "2", "end"] := by cbv
  refine ⟨⟨_, readsAs_of_read ((run_read 4 hsplit #[]).trans rfl)⟩, _, hsplit, ?_⟩
  rintro ⟨hwords, -⟩
  have hpos := hwords (Token.ofLexemes ["1", "+"]) (Token.classify "else")
    (Token.ofLexemes ["2", "end"]) (by decide +kernel) (.inl (by decide +kernel))
  exact absurd hpos (by decide +kernel)

end ExprScript.Program
