import ExprScript.Proofs.Grammar.Precedence
import ExprScript.Proofs.Program.Acceptance

/-!
# How the operators of a program group

A program that is one chain of operators, of any length, is read as the tree of the chain, unless it
nests too deeply (`read_chain`).  It does not, if the limit is at least the number of its tokens.
-/

open ExprScript.Parser

namespace ExprScript.Program

section Chain

variable {source : String} {texts : List String} (hsource : Lexeme.split source = .ok texts)
  {c : Chain} (htokens : Token.ofLexemes texts = c.tokens)
include hsource htokens

/-- A chain that is not too long is read as its tree. -/
theorem readsAs_chain {limit : Nat} (hlimit : c.tokens.length ≤ limit) :
  ReadsAs limit source (.node (.ofKind .block) [c.tree])
  := by
  apply (readsAs_iff limit source _).mpr
  refine ⟨texts, [c.tree], hsource, ?_, rfl⟩
  rw [htokens]
  have hreads : Reads limit 0 (c.tokens ++ []) c.tree [] := reads_chain hlimit rfl
  rw [List.append_nil] at hreads
  exact .more c.closesBlock_upcoming hreads (.close rfl)

/-- If the tokens of a source are those of a chain, then the source is read as a block with the tree
of the chain and nothing else, or nests too deeply; it is read if the limit is at least the number
of tokens. -/
theorem read_chain (limit : Nat) :
  (ReadsAs limit source (.node (.ofKind .block) [c.tree]) ∨ NestsTooDeeply limit source) ∧
    (c.tokens.length ≤ limit → ReadsAs limit source (.node (.ofKind .block) [c.tree]))
  := by
  have henough := readsAs_chain hsource htokens (Nat.le_refl _)
  exact ⟨henough.or_nestsTooDeeply limit, readsAs_chain hsource htokens⟩

end Chain

/-- A minus sign takes the product after it, although the power before it binds tighter. -/
theorem read_chain_negated_product :
  ReadsAs 6 "x ^ - y * z"
    (.node (.ofKind .block)
      [.node (.ofKind .power)
        [.atom ⟨.symbol, some (.text "x")⟩,
          .node (.ofKind .negate)
            [.node (.ofKind .times)
              [.atom ⟨.symbol, some (.text "y")⟩, .atom ⟨.symbol, some (.text "z")⟩]]]])
  := by
  have hsplit : Lexeme.split "x ^ - y * z" = .ok ["x", "^", "-", "y", "*", "z"] := by cbv
  let x : SignedLiteral :=
    ⟨[], Token.classify "x", by simp, .inr (.inl rfl), Token.classify_isTyped "x"⟩
  let y : SignedLiteral :=
    ⟨[Token.classify "-"], Token.classify "y", List.forall_mem_singleton.mpr (.inr rfl),
      .inr (.inl rfl), Token.classify_isTyped "y"⟩
  let z : SignedLiteral :=
    ⟨[], Token.classify "z", by simp, .inr (.inl rfl), Token.classify_isTyped "z"⟩
  let power : Joint := ⟨Token.classify "^", y, rfl⟩
  let times : Joint := ⟨Token.classify "*", z, rfl⟩
  have hpower : Chain.tree ⟨x, [power, times]⟩ =
      .node power.head [Chain.tree ⟨x, []⟩, Chain.tree ⟨y, [times]⟩] :=
    @Chain.tree_of_root x [] [times] power rfl
  have hsigned : y.signs ≠ [] := List.cons_ne_nil _ _
  have hminus : Chain.tree ⟨y, [times]⟩ =
      .node (.ofKind .negate) [Chain.tree ⟨y.unsigned, [times]⟩] :=
    Chain.tree_of_sign hsigned (List.forall_mem_singleton.mpr (by decide))
  have htimes : Chain.tree ⟨y.unsigned, [times]⟩ =
      .node times.head [Chain.tree ⟨y.unsigned, []⟩, Chain.tree ⟨z, []⟩] :=
    @Chain.tree_of_root y.unsigned [] [] times rfl
  have hreads := (read_chain hsplit (c := ⟨x, [power, times]⟩) rfl 6).2 (Nat.le_refl 6)
  rwa [hpower, hminus, htimes, Chain.tree_of_literal rfl, Chain.tree_of_literal rfl,
    Chain.tree_of_literal rfl] at hreads

end ExprScript.Program
