import ExprScript.Proofs.Grammar.Canonical
import ExprScript.Proofs.Program.Acceptance

/-!
# Reading what is written

The text of canonical expressions is read as the block of the same expressions, unless it nests
too deeply (`read_rendering`).  Expressions of height up to `h` do not, if the limit is `2 * h` or
more.
-/

open ExprScript.Parser

namespace ExprScript.Program

open ExprScript.Tree (Canonical rendering heightAll)

/-- Canonical expressions that are not too high are read from their text. -/
theorem readsAs_rendering
    {ts : List Tree} (h : ∀ t ∈ ts, Canonical .expression t) {limit : Nat}
    (hlimit : 2 * heightAll ts ≤ limit) :
  ReadsAs limit (rendering ts) (.node (.ofKind .block) ts)
  := by
  apply (readsAs_iff limit _ _).mpr
  refine ⟨Tree.bodyWords ts, ts, Tree.split_rendering h, ?_, rfl⟩
  rw [Token.ofLexemes_of_isWord (Tree.isWord_bodyWords fun t ht => (h t ht).isWord)]
  have hclose : closesBlock (upcoming []).kind = true := rfl
  have hblock := spell_bodyWords (fun t ht => canonical_spelled (h t ht)) hlimit hclose
  rwa [List.append_nil] at hblock

/-- The text of canonical expressions is read as the block of them, or nests too deeply; it is read
if the limit is at least twice the height of every expression. -/
theorem read_rendering {ts : List Tree} (h : ∀ t ∈ ts, Canonical .expression t) (limit : Nat) :
  (ReadsAs limit (rendering ts) (.node (.ofKind .block) ts) ∨
      NestsTooDeeply limit (rendering ts)) ∧
    (2 * heightAll ts ≤ limit → ReadsAs limit (rendering ts) (.node (.ofKind .block) ts))
  := by
  have henough := readsAs_rendering h (Nat.le_refl _)
  exact ⟨henough.or_nestsTooDeeply limit, readsAs_rendering h⟩

/-- A conditional with a second condition is read from its text. -/
theorem read_rendering_conditional :
  ∃ t, rendering [t] = "( if ( x == 10 ) then ( - y ) elseif true then else false end )" ∧
    ReadsAs 8 (rendering [t]) (.node (.ofKind .block) [t])
  := by
  have hx : Canonical .expression (.atom ⟨.symbol, some (.text "x")⟩) :=
    .symbol (by decide +kernel) (by decide)
  have hy : Canonical .expression (.atom ⟨.symbol, some (.text "y")⟩) :=
    .symbol (by decide +kernel) (by decide)
  have hten : Canonical .expression (.atom ⟨.number, some (.number (Number.ofNat 10))⟩) :=
    .number (by decide +kernel) (by decide +kernel)
  have hcondition : Canonical .expression
      (.node (.ofKind .equal) [.atom ⟨.symbol, some (.text "x")⟩,
        .atom ⟨.number, some (.number (Number.ofNat 10))⟩]) := .operation rfl hx hten
  have hbody : ∀ t ∈ [Tree.node (.ofKind .negate) [.atom ⟨.symbol, some (.text "y")⟩]],
      Canonical .expression t := by simpa using Canonical.negation hy
  have hnone : ∀ t ∈ ([] : List Tree), Canonical .expression t := by simp
  have hotherwise : Canonical .alternative (.node (.ofKind .block) [.atom (.ofKind .falsity)]) :=
    .otherwise (by simpa using Canonical.falsity)
  have ht := Canonical.conditional hcondition hbody (.orConditional .truth hnone hotherwise)
  refine ⟨_, ?_, (read_rendering (by simpa using ht) 8).2 ?_⟩
  · decide +kernel
  · decide +kernel

end ExprScript.Program
