import ExprScript.Proofs.Grammar.Branching
import ExprScript.Proofs.Program.Reading

/-!
# Branches of the conditionals of a program

The alternative of a conditional takes an operator that stands directly after its `end`, while a
conditional without alternatives leaves the operator to the expression around it.  The conditionals
of an accepted program therefore have nothing, a block or a further conditional as their third
operand exactly when no operator stands directly after an `end` that closes an alternative
(`wellBranched_iff_noExtension`).
-/

open ExprScript.Parser

namespace ExprScript.Program

/-- Let a source be read as a tree, and let `ts` be its tokens.

* Every conditional in the tree has three operands.  The second is a block.  The third is nothing,
  or it begins with a block or a further conditional, which may be the first operand of operations.
* The third operand of every conditional is nothing, a block or a further conditional itself exactly
  when in `ts` no operator stands directly after an `end` that closes an alternative. -/
theorem wellBranched_iff_noExtension
    {limit : Nat} {source : String} {texts : List String} {tree : Tree}
    (hsource : Lexeme.split source = .ok texts) (h : ReadsAs limit source tree) :
  tree.Everywhere (Tree.Branches BeginsOtherwise) ∧
    (tree.WellBranched ↔ NoExtension false [] (Token.ofLexemes texts))
  := by
  constructor
  · apply h.everywhere MadeByRule.branches
  · obtain ⟨texts', trees, hsource', hblock, rfl⟩ := (readsAs_iff limit source tree).mp h
    rw [hsource] at hsource'
    cases hsource'
    rw [hblock.tracks (reads_tracks limit), Tree.wellBranched_block]
    exact (and_iff_left trivial).symm

/-- The statement `b` after `if a then 1 else 2 end` leaves the conditional as it is. -/
theorem wellBranched_before_statement :
  ∃ tree, ReadsAs 5 "if a then 1 else 2 end b" tree ∧ tree.WellBranched
  := by
  have hsplit : Lexeme.split "if a then 1 else 2 end b" =
      .ok ["if", "a", "then", "1", "else", "2", "end", "b"] := by cbv
  have hreads := readsAs_of_read ((run_read 5 hsplit #[]).trans rfl)
  refine ⟨_, hreads, (wellBranched_iff_noExtension hsplit hreads).2.mpr ?_⟩
  decide +kernel

/-- In `if a then 1 else 2 end + 3` the sum is that of the block after `else`, and not that of the
conditional. -/
theorem not_wellBranched_before_operator :
  ∃ tree, ReadsAs 5 "if a then 1 else 2 end + 3" tree ∧
    tree = .node (.ofKind .block)
      [.node (.ofKind .conditional)
        [.atom ⟨.symbol, some (.text "a")⟩,
        .node (.ofKind .block) [.atom ⟨.number, some (.number (.ofNat 1))⟩],
        .node (.ofKind .plus)
          [.node (.ofKind .block) [.atom ⟨.number, some (.number (.ofNat 2))⟩],
          .atom ⟨.number, some (.number (.ofNat 3))⟩]]] ∧
    ¬ tree.WellBranched
  := by
  have hsplit : Lexeme.split "if a then 1 else 2 end + 3" =
      .ok ["if", "a", "then", "1", "else", "2", "end", "+", "3"] := by cbv
  refine ⟨_, readsAs_of_read ((run_read 5 hsplit #[]).trans rfl), rfl, ?_⟩
  intro hbranched
  have hconditional := hbranched _ (.operand List.mem_cons_self .self)
  obtain ⟨_, _, _, ⟨⟩, -, hnothing | hkind | hkind⟩ := hconditional _ _ rfl (.inl rfl)
  · cases hnothing
  · cases hkind
  · cases hkind

end ExprScript.Program
