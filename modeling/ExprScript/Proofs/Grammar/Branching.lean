import ExprScript.Proofs.Grammar.Balance
import ExprScript.Proofs.Grammar.Completeness
import ExprScript.Proofs.Grammar.Occurrence
import ExprScript.Proofs.Tree.Branching

/-!
# Alternatives of conditionals

The alternative of a conditional, which starts with `else` or `elseif`, is read as an expression.
So it ends with its `end` only if no operator follows; otherwise the operator and what it takes
belong to the alternative too (`AlternativeReading.beginsOtherwise`).

The words `if`, `else`, `elseif` and `end`, from left to right, tell which `end` closes an
alternative.  The conditionals of a tree that is read are well branched exactly when no operator
stands directly after such an `end` (`reads_tracks`).
-/

namespace ExprScript.Parser

open ExprScript.Tree

/-! ### Which `end` closes an alternative -/

/-- The conditionals open after a token of the kind, the innermost first: for each of them, whether
it has come to an alternative.  The first argument says whether the token starts an operand: an
`else` or `elseif` there is no alternative of the conditional before it. -/
def branchStep (expects : Bool) (opened : List Bool) : TokenKind → List Bool
  | .ifWord => false :: opened
  | .elseWord | .elseifWord => if expects then false :: opened else true :: opened.tail
  | .endWord => opened.tail
  | _ => opened

/-- Whether no operator stands directly after an `end` that closes an alternative.  The first
argument says whether the first token starts an operand, and the second gives the conditionals open
before it. -/
def NoExtension : (expects : Bool) → (opened : List Bool) → List Token → Prop
  | _, _, [] => True
  | expects, opened, token :: ts =>
    (token.kind = .endWord → opened.head? = some true → isOperator (upcoming ts).kind = false) ∧
      NoExtension (expectsOperand token.kind) (branchStep expects opened token.kind) ts

instance decidableNoExtension :
    (expects : Bool) → (opened : List Bool) → (ts : List Token) →
      Decidable (NoExtension expects opened ts)
  | _, _, [] => .isTrue trivial
  | expects, opened, token :: ts =>
    have := decidableNoExtension (expectsOperand token.kind)
      (branchStep expects opened token.kind) ts
    inferInstanceAs (Decidable (_ ∧ _))

/-- A token other than `end` only changes which conditionals are open. -/
theorem noExtension_cons
    {token : Token} {kind : TokenKind} (hkind : token.kind = kind) (hend : kind ≠ .endWord)
    (expects : Bool) (opened : List Bool) (ts : List Token) :
  NoExtension expects opened (token :: ts) ↔
    NoExtension (expectsOperand kind) (branchStep expects opened kind) ts
  := by
  rw [NoExtension, hkind]
  apply and_iff_right
  intro h
  exact absurd h hend

/-- An `end` closes the innermost conditional. -/
theorem noExtension_end
    {token : Token} (hkind : token.kind = .endWord) (expects alternative : Bool)
    (opened : List Bool) (ts : List Token) :
  NoExtension expects (alternative :: opened) (token :: ts) ↔
    (alternative = true → isOperator (upcoming ts).kind = false) ∧ NoExtension false opened ts
  := by
  rw [NoExtension, hkind]
  simp [expectsOperand, isOperator, groupsLeft, branchStep]

theorem noExtension_operator
    {op : Token} (h : isOperator op.kind = true) (expects : Bool) (opened : List Bool)
    (ts : List Token) :
  NoExtension expects opened (op :: ts) ↔ NoExtension true opened ts
  := by
  have hstep : op.kind ≠ .endWord ∧ branchStep expects opened op.kind = opened := by
    revert h
    cases op.kind <;> first | exact fun _ => ⟨nofun, rfl⟩ | exact nofun
  rw [noExtension_cons rfl hstep.1, hstep.2, expectsOperand, h]
  rfl

/-- Where the first token is no `else` or `elseif`, it does not matter whether it starts an
operand. -/
theorem noExtension_of_not_startsAlternative
    {ts : List Token} (h : ¬ StartsAlternative ts) (expects : Bool) (opened : List Bool) :
  NoExtension expects opened ts ↔ NoExtension true opened ts
  := by
  cases ts with
  | nil => exact Iff.rfl
  | cons token ts =>
      have hstep : branchStep expects opened token.kind = branchStep true opened token.kind := by
        have hkind : token.kind ≠ .elseWord ∧ token.kind ≠ .elseifWord := not_or.mp h
        cases hword : token.kind <;> simp_all [branchStep]
      rw [NoExtension, NoExtension, hstep]

/-! ### Extensions by operators -/

/-- Whether the tree is `first`, or an operation on a tree that `first` begins. -/
inductive Begins (first : Tree) : Tree → Prop
  | self : Begins first first
  | operation {token : Token} {op : Atom} {left right : Tree} :
      isOperator token.kind = true → token.toAtom = .ok op → Begins first left →
      Begins first (.node op [left, right])

theorem isOperator_eq_false {token : Token} (h : token.precedence ≤ 0) :
  isOperator token.kind = false
  := by
  rw [Bool.eq_false_iff, ne_eq, isOperator_iff, Int.not_lt]
  exact h

/-- The atom of an operator heads no block and no conditional. -/
theorem kind_of_isOperator
    {token : Token} (h : isOperator token.kind = true) {op : Atom} (hop : token.toAtom = .ok op) :
  op.kind ≠ .conditional ∧ op.kind ≠ .orConditional ∧ op.kind ≠ .block
  := by
  obtain ⟨kind, payload⟩ := token
  cases kind with
  | plus | minus | times | divide | power | equal | notEqual | greater | less | assign =>
      cases hop
      simp [Atom.ofKind]
  | _ => cases h

/-- No operation is the third operand of a well-branched conditional. -/
theorem not_isOtherwise_operation
    {token : Token} (h : isOperator token.kind = true) {op : Atom} (hop : token.toAtom = .ok op)
    (tail : List Tree) :
  ¬ IsOtherwise (.node op tail)
  := by
  obtain ⟨-, hor, hblock⟩ := kind_of_isOperator h hop
  rintro (hnothing | hkind | hkind)
  · cases hnothing
  · exact hblock hkind
  · exact hor hkind

/-- An operation is well branched exactly when its operands are. -/
theorem wellBranched_operation
    {token : Token} (h : isOperator token.kind = true) {op : Atom} (hop : token.toAtom = .ok op)
    {left right : Tree} :
  WellBranched (.node op [left, right]) ↔ WellBranched left ∧ WellBranched right
  := by
  obtain ⟨hconditional, hor, -⟩ := kind_of_isOperator h hop
  rw [wellBranched_node (not_or.mpr ⟨hconditional, hor⟩)]
  simp

theorem Begins.trans {first second third : Tree} (h : Begins first second)
    (h' : Begins second third) :
  Begins first third
  := by
  induction h' with
  | self => exact h
  | operation hoperator hop _ ih => exact .operation hoperator hop ih

/-- If `first` may not be the third operand of a conditional, then neither may a tree that it
begins. -/
theorem Begins.not_isOtherwise {first tree : Tree} (h : Begins first tree)
    (hfirst : ¬ first.IsOtherwise) :
  ¬ tree.IsOtherwise
  := by
  cases h with
  | self => exact hfirst
  | operation hoperator hop _ => apply not_isOtherwise_operation hoperator hop

theorem ContinuationReading.begins
    {E : Int → Reading Tree} {bound : Int} {left tree : Tree} {ts rest : List Token}
    (h : ContinuationReading E bound left ts tree rest) :
  Begins left tree
  := by
  induction h with
  | stop _ => exact .self
  | step _ hoperator hop _ _ ih => exact (Begins.operation hoperator hop .self).trans ih

/-- What starts with `else` or `elseif` is a block up to `end`, or a conditional that goes on with
the alternatives. -/
theorem StartReading.alternative_cases
    {E : Int → Reading Tree} {token : Token} {ts rest : List Token} {tree : Tree}
    (h : StartReading E token ts tree rest) (hstarts : StartsAlternative (token :: ts)) :
  (token.kind = .elseifWord ∧ ConditionalReading E .orConditional ts tree rest) ∨
    (token.kind = .elseWord ∧ ∃ trees close, BlockReading E ts trees (close :: rest) ∧
      close.kind = .endWord ∧ tree = .node (.ofKind .block) trees)
  := by
  rw [StartsAlternative, upcoming_cons] at hstarts
  cases h with
  | orConditional hkind hconditional => exact .inl ⟨hkind, hconditional⟩
  | otherwise hkind hblock hclose => exact .inr ⟨hkind, _, _, hblock, hclose, rfl⟩
  | leaf hkind _ => rcases hkind with h | h | h | h <;> rw [h] at hstarts <;> simp at hstarts
  | parentheses hkind _ _ | plus hkind _ | minus hkind _ | conditional hkind _ =>
      rw [hkind] at hstarts
      simp at hstarts

theorem StartReading.isAlternative
    {E : Int → Reading Tree} {token : Token} {ts rest : List Token} {tree : Tree}
    (h : StartReading E token ts tree rest) (hstarts : StartsAlternative (token :: ts)) :
  tree.IsAlternative
  := by
  obtain ⟨-, hconditional⟩ | ⟨-, _, _, -, -, rfl⟩ := h.alternative_cases hstarts
  · obtain ⟨-, -, -, -⟩ := hconditional
    exact .inr rfl
  · exact .inl rfl

/-- Whether the tree is nothing, or a block or a conditional that goes on with the alternatives
begins it. -/
def BeginsOtherwise (tree : Tree) : Prop :=
  tree = .atom (.ofKind .nothing) ∨ ∃ first, first.IsAlternative ∧ Begins first tree

/-- The alternative of a conditional begins with one that the conditional may have. -/
theorem AlternativeReading.beginsOtherwise
    {depth : Nat} {ts rest : List Token} {tree : Tree}
    (h : AlternativeReading (Reads depth) ts tree rest) :
  BeginsOtherwise tree
  := by
  cases h with
  | close _ => exact .inl rfl
  | other hstarts hreads =>
      right
      cases depth with
      | zero => cases hreads
      | succ depth =>
          obtain ⟨hstart, hcontinuation⟩ := hreads
          exact ⟨_, hstart.isAlternative hstarts, hcontinuation.begins⟩

theorem MadeByRule.branches {depth : Nat} {tree : Tree}
    (h : MadeByRule (Reads depth) tree) :
  Branches BeginsOtherwise tree
  := by
  rintro head tail rfl hhead
  cases h with
  | negation | block => simp [Atom.ofKind] at hhead
  | operation hoperator hop =>
      obtain ⟨hconditional, hor, -⟩ := kind_of_isOperator hoperator hop
      exact absurd hhead (not_or.mpr ⟨hconditional, hor⟩)
  | conditional _ halternative => exact ⟨_, _, _, rfl, rfl, halternative.beginsOtherwise⟩

/-! ### What the readings track -/

/-- Whether the trees that `E` reads are well branched exactly when their tokens keep operators away
from alternatives.  Read as an operand, a tree closes all conditionals that its tokens open.  Read
as an alternative, it closes the conditional before it too, and is to be one that the conditional
may have. -/
structure Tracks (E : Int → Reading Tree) : Prop where
  operand : ∀ {bound ts tree rest}, E bound ts tree rest → ∀ opened,
    NoExtension true opened ts ↔ WellBranched tree ∧ NoExtension false opened rest
  alternative : ∀ {ts tree rest}, StartsAlternative ts → E 0 ts tree rest → ∀ before opened,
    NoExtension false (before :: opened) ts ↔
      WellBranched tree ∧ tree.IsOtherwise ∧ NoExtension false opened rest
  ends : ∀ {ts tree rest}, E 0 ts tree rest → isOperator (upcoming rest).kind = false

section Tracks

variable {E : Int → Reading Tree} (hE : Tracks E)
include hE

theorem BlockReading.tracks {ts rest : List Token} {trees : List Tree}
    (h : BlockReading E ts trees rest) (opened : List Bool) :
  NoExtension false opened ts ↔ (∀ t ∈ trees, WellBranched t) ∧ NoExtension false opened rest
  := by
  induction h with
  | close _ => simp
  | @more ts mid rest tree trees hcloses hfirst _ ih =>
      have hstarts : ¬ StartsAlternative ts := by
        rintro (h | h) <;> rw [h] at hcloses <;> cases hcloses
      rw [noExtension_of_not_startsAlternative hstarts, hE.operand hfirst, ih,
        List.forall_mem_cons, and_assoc]

theorem AlternativeReading.tracks {ts rest : List Token} {tree : Tree}
    (h : AlternativeReading E ts tree rest) (before : Bool) (opened : List Bool) :
  NoExtension false (before :: opened) ts ↔
    (before = true → isOperator (upcoming rest).kind = false) ∧ WellBranched tree ∧
      tree.IsOtherwise ∧ NoExtension false opened rest
  := by
  cases h with
  | close hword =>
      have hnothing : IsOtherwise (.atom (.ofKind .nothing)) := .inl rfl
      rw [noExtension_end hword, and_iff_right (wellBranched_atom _), and_iff_right hnothing]
  | other hstarts hother =>
      -- an alternative leaves no operator, so what the conditional has come to does not matter
      rw [hE.alternative hstarts hother, iff_and_self]
      intro _ _
      apply hE.ends hother

theorem ConditionalReading.tracks
    {head : AtomKind} (hhead : head = .conditional ∨ head = .orConditional)
    {ts rest : List Token} {tree : Tree} (h : ConditionalReading E head ts tree rest)
    (before : Bool) (opened : List Bool) :
  NoExtension true (before :: opened) ts ↔
    (before = true → isOperator (upcoming rest).kind = false) ∧ WellBranched tree ∧
      NoExtension false opened rest
  := by
  obtain ⟨hcondition, hword, hblock, halternative⟩ := h
  rw [hE.operand hcondition, noExtension_cons hword (by decide)]
  change _ ∧ NoExtension false (before :: opened) _ ↔ _
  rw [hblock.tracks hE, halternative.tracks hE, wellBranched_conditional hhead]
  tauto

/-- The block after `else` is closed by its `end`. -/
theorem BlockReading.tracks_otherwise
    {ts rest : List Token} {trees : List Tree} {close : Token}
    (h : BlockReading E ts trees (close :: rest)) (hclose : close.kind = .endWord) (before : Bool)
    (opened : List Bool) :
  NoExtension false (before :: opened) ts ↔
    (before = true → isOperator (upcoming rest).kind = false) ∧
      WellBranched (.node (.ofKind .block) trees) ∧ NoExtension false opened rest
  := by
  rw [h.tracks hE, noExtension_end hclose, wellBranched_block]
  tauto

/-- What starts an operand closes all conditionals that its tokens open. -/
theorem StartReading.tracks
    {token : Token} {ts rest : List Token} {tree : Tree} (h : StartReading E token ts tree rest)
    (opened : List Bool) :
  NoExtension true opened (token :: ts) ↔ WellBranched tree ∧ NoExtension false opened rest
  := by
  cases h with
  | leaf hkind _ =>
      rw [and_iff_right (wellBranched_atom _)]
      rcases hkind with h | h | h | h <;> exact noExtension_cons h (by decide) true opened _
  | parentheses hkind hinner hclose =>
      rw [noExtension_cons hkind (by decide)]
      change NoExtension true opened _ ↔ _
      rw [hE.operand hinner, noExtension_cons hclose (by decide)]
      exact Iff.rfl
  | plus hkind hoperand =>
      rw [noExtension_cons hkind (by decide)]
      exact hE.operand hoperand opened
  | minus hkind hoperand =>
      rw [noExtension_cons hkind (by decide), wellBranched_node (by simp [Atom.ofKind]),
        List.forall_mem_singleton]
      exact hE.operand hoperand opened
  | conditional hkind hconditional =>
      rw [noExtension_cons hkind (by decide)]
      apply (hconditional.tracks hE (.inl rfl) false opened).trans
      simp
  | orConditional hkind hconditional =>
      rw [noExtension_cons hkind (by decide)]
      apply (hconditional.tracks hE (.inr rfl) false opened).trans
      simp
  | otherwise hkind hblock hclose =>
      rw [noExtension_cons hkind (by decide)]
      apply (hblock.tracks_otherwise hE hclose false opened).trans
      simp

/-- What starts an alternative closes the conditional before it too, and no operator may follow. -/
theorem StartReading.tracks_alternative
    {token : Token} {ts rest : List Token} {tree : Tree} (h : StartReading E token ts tree rest)
    (hstarts : StartsAlternative (token :: ts)) (before : Bool) (opened : List Bool) :
  NoExtension false (before :: opened) (token :: ts) ↔
    isOperator (upcoming rest).kind = false ∧ WellBranched tree ∧ NoExtension false opened rest
  := by
  obtain ⟨hkind, hconditional⟩ | ⟨hkind, trees, close, hblock, hclose, rfl⟩ :=
    h.alternative_cases hstarts
  · rw [noExtension_cons hkind (by decide)]
    apply (hconditional.tracks hE (.inr rfl) true opened).trans
    simp
  · rw [noExtension_cons hkind (by decide)]
    apply (hblock.tracks_otherwise hE hclose true opened).trans
    simp

theorem ContinuationReading.tracks
    {bound : Int} {left tree : Tree} {ts rest : List Token}
    (h : ContinuationReading E bound left ts tree rest) (opened : List Bool) :
  WellBranched left ∧ NoExtension false opened ts ↔
    WellBranched tree ∧ NoExtension false opened rest
  := by
  induction h with
  | stop _ => exact Iff.rfl
  | step _ hoperator hop hright _ ih =>
      rw [noExtension_operator hoperator, hE.operand hright, ← ih,
        wellBranched_operation hoperator hop, and_assoc]

omit hE in
/-- An expression that begins with an alternative is one exactly when no operator follows it. -/
theorem ContinuationReading.isOtherwise_iff
    {left tree : Tree} {ts rest : List Token} (h : ContinuationReading E 0 left ts tree rest)
    (hleft : left.IsOtherwise) :
  tree.IsOtherwise ↔ isOperator (upcoming ts).kind = false
  := by
  cases h with
  | stop hstop => exact iff_of_true hleft (isOperator_eq_false hstop)
  | step _ hoperator hop _ hmore =>
      apply iff_of_false
      · apply hmore.begins.not_isOtherwise (not_isOtherwise_operation hoperator hop _)
      · simp [hoperator]

end Tracks

/-- Expressions are well branched exactly when no operator stands directly after an `end` that
closes an alternative in them. -/
theorem reads_tracks (depth : Nat) :
  Tracks (Reads depth)
  := by
  induction depth with
  | zero => exact ⟨nofun, nofun, nofun⟩
  | succ depth ih =>
      constructor
      · rintro bound _ tree rest ⟨hstart, hcontinuation⟩ opened
        rw [hstart.tracks ih, hcontinuation.tracks ih]
      · rintro _ tree rest hstarts ⟨hstart, hcontinuation⟩ before opened
        -- an operator after the `end` is the one that makes another tree of the alternative
        have hfirst := hstart.isAlternative hstarts
        rw [hstart.tracks_alternative ih hstarts, hcontinuation.tracks ih,
          ← hcontinuation.isOtherwise_iff (.inr hfirst), and_left_comm]
      · intro ts tree rest h
        apply isOperator_eq_false (reads_upcoming_le h)

end ExprScript.Parser
