import ExprScript.Proofs.Grammar.Linear
import ExprScript.Proofs.Program.Reading

/-!
# The tokens of a program

Reading a program neither loses nor repeats nor moves a token: without parentheses and without plus
signs before operands, its tokens are those of its expressions in a line
(`read_essential_tokens`).
-/

open ExprScript.Parser

namespace ExprScript.Program

/-- The essential tokens of lexemes are their own traces. -/
theorem traces_ofLexemes (after : Bool) (texts : List String) :
  traces after (Token.ofLexemes texts) = essential after (Token.ofLexemes texts)
  := by
  have hbare : ∀ token ∈ essential after (Token.ofLexemes texts), token.bare = id token :=
    fun token htoken => Token.bare_of_mem_ofLexemes (mem_of_mem_essential htoken)
  rw [traces, List.map_congr_left hbare, List.map_id]

/-- If a source is read as a tree, then its tokens, without parentheses and without plus signs
before operands, are the tokens of the expressions of the tree in a line. -/
theorem read_essential_tokens
    {limit : Nat} {source : String} {tree : Tree} {log log' : Array Event}
    (h : (read limit source).run log = .ok tree log') :
  ∃ texts, Lexeme.split source = .ok texts ∧
    essential false (Token.ofLexemes texts) = Tree.linearAll tree.operands
  := by
  obtain ⟨texts, trees, hsource, hblock, rfl⟩ :=
    (readsAs_iff limit source tree).mp (readsAs_of_read h)
  obtain ⟨used, hused, hline⟩ := hblock.linear (reads_linear limit)
  rw [List.append_nil] at hused
  refine ⟨texts, hsource, ?_⟩
  rw [← traces_ofLexemes, hused, hline]
  rfl

/-- The tokens of `if ( x ) then + 1 + 2 else - y end` without the parentheses and the first plus
sign. -/
theorem read_essential_tokens_conditional :
  ∃ texts, Lexeme.split "if ( x ) then + 1 + 2 else - y end" = .ok texts ∧
    essential false (Token.ofLexemes texts) =
      ["if", "x", "then", "1", "+", "2", "else", "-", "y", "end"].map Token.classify
  := by
  have hsplit : Lexeme.split "if ( x ) then + 1 + 2 else - y end" =
      .ok ["if", "(", "x", ")", "then", "+", "1", "+", "2", "else", "-", "y", "end"] := by cbv
  obtain ⟨tree, log, hread, hline⟩ : ∃ tree log,
      (read 8 "if ( x ) then + 1 + 2 else - y end").run #[] = .ok tree log ∧
      Tree.linearAll tree.operands =
        ["if", "x", "then", "1", "+", "2", "else", "-", "y", "end"].map Token.classify := by
    rw [run_read 8 hsplit]
    exact ⟨_, _, rfl, rfl⟩
  obtain ⟨texts, hsource, htokens⟩ := read_essential_tokens hread
  exact ⟨texts, hsource, htokens.trans hline⟩

end ExprScript.Program
