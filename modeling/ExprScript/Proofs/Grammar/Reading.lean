import ExprScript.Grammar.Parser
import Mathlib.Tactic.Common

/-!
# What the parser reads

A reading relates the tokens a reader starts from, the result it gives, and the tokens it
leaves.  Each rule of the parser has a reading, built from a reading `E` of expressions in
the same way as the rule is built from a reader of expressions: `BlockReading`,
`AlternativeReading`, `ConditionalReading`, `StartReading`, `ContinuationReading` and
`ExpressionReading`.  `Reads depth bound` is the reading of expressions nested up to
`depth`.  Neither fuel nor events occur in a reading.

Reading an expression takes at least one token and gives an operand (`reads_shortens`,
`reads_givesOperands`).
-/

namespace ExprScript.Parser

/-- The tokens to read from, the result, and the tokens left. -/
abbrev Reading (α : Type) := List Token → α → List Token → Prop

/-- The token with which a list of tokens goes on: its first, or else the end of the
input. -/
def upcoming (ts : List Token) : Token := ts.headD Token.finish

@[simp]
theorem upcoming_cons (token : Token) (ts : List Token) :
  upcoming (token :: ts) = token
  := rfl

/-- Whether a token of the kind joins two operands. -/
def isOperator (kind : TokenKind) : Bool :=
  groupsLeft kind || kind = .power

/-- The bound of the right operand of an operator. -/
def rightBound (kind : TokenKind) : Int :=
  if kind = .power then kind.precedence - 1 else kind.precedence

/-- Whether a tree may be an operand of a node: it is a node itself or a leaf. -/
def IsOperand (tree : Tree) : Prop := Tree.tailFault? [tree] = none

section Rules

variable (E : Int → Reading Tree)

/-- The expressions of a block, up to a token that closes it and stays. -/
inductive BlockReading : Reading (List Tree)
  | close {ts : List Token} :
      closesBlock (upcoming ts).kind = true → BlockReading ts [] ts
  | more {ts mid rest : List Token} {tree : Tree} {trees : List Tree} :
      closesBlock (upcoming ts).kind = false → E 0 ts tree mid →
      BlockReading mid trees rest → BlockReading ts (tree :: trees) rest

/-- What follows the block of a conditional. -/
inductive AlternativeReading : Reading Tree
  | close {word : Token} {rest : List Token} :
      word.kind = .endWord →
      AlternativeReading (word :: rest) (.atom (.ofKind .nothing)) rest
  | other {ts rest : List Token} {tree : Tree} :
      (upcoming ts).kind = .elseWord ∨ (upcoming ts).kind = .elseifWord →
      E 0 ts tree rest → AlternativeReading ts tree rest

/-- A conditional after its first word. -/
inductive ConditionalReading (head : AtomKind) : Reading Tree
  | intro {ts mid after rest : List Token} {word : Token} {condition otherwise : Tree}
      {trees : List Tree} :
      E 0 ts condition (word :: mid) → word.kind = .thenWord →
      BlockReading E mid trees after → AlternativeReading E after otherwise rest →
      ConditionalReading head ts
        (.node (.ofKind head) [condition, .node (.ofKind .block) trees, otherwise]) rest

/-- The expression that a token starts, up to its first operator. -/
inductive StartReading : Token → Reading Tree
  | leaf {token : Token} {atom : Atom} {ts : List Token} :
      token.kind = .number ∨ token.kind = .symbol ∨ token.kind = .truth ∨
        token.kind = .falsity →
      token.toAtom = .ok atom → StartReading token ts (.atom atom) ts
  | parentheses {token close : Token} {ts rest : List Token} {inner : Tree} :
      token.kind = .openParen → E 0 ts inner (close :: rest) → close.kind = .closeParen →
      StartReading token ts inner rest
  | plus {token : Token} {ts rest : List Token} {operand : Tree} :
      token.kind = .plus → E TokenKind.plus.precedence ts operand rest →
      StartReading token ts operand rest
  | minus {token : Token} {ts rest : List Token} {operand : Tree} :
      token.kind = .minus → E TokenKind.minus.precedence ts operand rest →
      StartReading token ts (.node (.ofKind .negate) [operand]) rest
  | conditional {token : Token} {ts rest : List Token} {tree : Tree} :
      token.kind = .ifWord → ConditionalReading E .conditional ts tree rest →
      StartReading token ts tree rest
  | orConditional {token : Token} {ts rest : List Token} {tree : Tree} :
      token.kind = .elseifWord → ConditionalReading E .orConditional ts tree rest →
      StartReading token ts tree rest
  | otherwise {token close : Token} {ts rest : List Token} {trees : List Tree} :
      token.kind = .elseWord → BlockReading E ts trees (close :: rest) →
      close.kind = .endWord → StartReading token ts (.node (.ofKind .block) trees) rest

/-- The expression that begins with a given tree and goes on while the operators bind
tighter than `bound`. -/
inductive ContinuationReading (bound : Int) : Tree → Reading Tree
  | stop {left : Tree} {ts : List Token} :
      (upcoming ts).precedence ≤ bound → ContinuationReading bound left ts left ts
  | step {left right tree : Tree} {token : Token} {ts mid rest : List Token} {op : Atom} :
      bound < token.precedence → isOperator token.kind = true → token.toAtom = .ok op →
      E (rightBound token.kind) ts right mid →
      ContinuationReading bound (.node op [left, right]) mid tree rest →
      ContinuationReading bound left (token :: ts) tree rest

/-- An expression whose operators bind tighter than `bound`. -/
inductive ExpressionReading (bound : Int) : Reading Tree
  | intro {token : Token} {ts mid rest : List Token} {left tree : Tree} :
      StartReading E token ts left mid → ContinuationReading E bound left mid tree rest →
      ExpressionReading bound (token :: ts) tree rest

end Rules

/-- The reading of an expression whose operators bind tighter than a bound, with expressions
nested in it up to a depth. -/
def Reads : (depth : Nat) → (bound : Int) → Reading Tree
  | 0, _ => fun _ _ _ => False
  | depth + 1, bound => ExpressionReading (Reads depth) bound

/-! ### Lengths and operands

An expression takes at least one token, and gives a tree that may be an operand. -/

/-- Whether a reading of expressions takes at least one token each time. -/
def Shortens (E : Int → Reading Tree) : Prop :=
  ∀ {bound ts tree rest}, E bound ts tree rest → rest.length < ts.length

/-- Whether a reading of expressions gives operands only. -/
def GivesOperands (E : Int → Reading Tree) : Prop :=
  ∀ {bound ts tree rest}, E bound ts tree rest → IsOperand tree

section Lengths

variable {E : Int → Reading Tree} (hE : Shortens E)
include hE

theorem BlockReading.length_le {ts rest : List Token} {trees : List Tree}
    (h : BlockReading E ts trees rest) :
  rest.length ≤ ts.length
  := by
  induction h with
  | close _ => apply Nat.le_refl
  | more _ hfirst _ ih =>
      have := hE hfirst
      omega

theorem AlternativeReading.length_lt {ts rest : List Token} {tree : Tree}
    (h : AlternativeReading E ts tree rest) :
  rest.length < ts.length
  := by
  cases h with
  | close _ => simp
  | other _ hother => apply hE hother

theorem ConditionalReading.length_lt {head : AtomKind} {ts rest : List Token} {tree : Tree}
    (h : ConditionalReading E head ts tree rest) :
  rest.length < ts.length
  := by
  cases h with
  | intro hcondition _ hblock halternative =>
      have hc := hE hcondition
      have hb := hblock.length_le hE
      have ha := halternative.length_lt hE
      rw [List.length_cons] at hc
      omega

theorem StartReading.length_le {token : Token} {ts rest : List Token} {tree : Tree}
    (h : StartReading E token ts tree rest) :
  rest.length ≤ ts.length
  := by
  cases h with
  | leaf _ _ => apply Nat.le_refl
  | parentheses _ hinner _ =>
      have := hE hinner
      rw [List.length_cons] at this
      omega
  | plus _ hoperand => apply Nat.le_of_lt (hE hoperand)
  | minus _ hoperand => apply Nat.le_of_lt (hE hoperand)
  | conditional _ hconditional => apply Nat.le_of_lt (hconditional.length_lt hE)
  | orConditional _ hconditional => apply Nat.le_of_lt (hconditional.length_lt hE)
  | otherwise _ hblock _ =>
      have := hblock.length_le hE
      rw [List.length_cons] at this
      omega

theorem ContinuationReading.length_le
    {bound : Int} {left tree : Tree} {ts rest : List Token}
    (h : ContinuationReading E bound left ts tree rest) :
  rest.length ≤ ts.length
  := by
  induction h with
  | stop _ => apply Nat.le_refl
  | step _ _ _ hright _ ih =>
      have := hE hright
      rw [List.length_cons]
      omega

end Lengths

/-- Reading an expression takes at least one token. -/
theorem reads_shortens (depth : Nat) :
  Shortens (Reads depth)
  := by
  induction depth with
  | zero => rintro _ _ _ _ ⟨⟩
  | succ depth ih =>
      rintro _ _ _ _ ⟨hstart, hcontinuation⟩
      have hs := hstart.length_le ih
      have hc := hcontinuation.length_le ih
      rw [List.length_cons]
      omega

theorem isOperand_node (head : Atom) (tail : List Tree) :
  IsOperand (.node head tail)
  := rfl

theorem isOperand_atom {atom : Atom} (h : atom.kind.isLeaf = true) :
  IsOperand (.atom atom)
  := by
  simp [IsOperand, Tree.tailFault?, h]

/-- The atom of a literal is a leaf. -/
theorem isLeaf_of_toAtom
    {token : Token} {atom : Atom}
    (hkind : token.kind = .number ∨ token.kind = .symbol ∨ token.kind = .truth ∨
      token.kind = .falsity)
    (h : token.toAtom = .ok atom) :
  atom.kind.isLeaf = true
  := by
  obtain ⟨kind, payload⟩ := token
  rcases hkind with hk | hk | hk | hk
  · obtain rfl : kind = .number := hk
    rcases payload with _ | ⟨_ | _ | _ | _⟩ <;> cases h
    rfl
  · obtain rfl : kind = .symbol := hk
    rcases payload with _ | ⟨_ | _ | _ | _⟩ <;> cases h
    rfl
  · obtain rfl : kind = .truth := hk
    cases h
    rfl
  · obtain rfl : kind = .falsity := hk
    cases h
    rfl

/-- The end of the input starts no expression. -/
theorem StartReading.kind_ne_finish
    {E : Int → Reading Tree} {token : Token} {ts rest : List Token} {tree : Tree}
    (h : StartReading E token ts tree rest) :
  token.kind ≠ .finish
  := by
  intro hkind
  cases h <;> simp_all

theorem StartReading.isOperand
    {E : Int → Reading Tree} (hE : GivesOperands E) {token : Token} {ts rest : List Token}
    {tree : Tree} (h : StartReading E token ts tree rest) :
  IsOperand tree
  := by
  cases h with
  | leaf hkind hatom => apply isOperand_atom (isLeaf_of_toAtom hkind hatom)
  | parentheses _ hinner _ => apply hE hinner
  | plus _ hoperand => apply hE hoperand
  | minus _ _ => apply isOperand_node
  | conditional _ hconditional =>
      cases hconditional
      apply isOperand_node
  | orConditional _ hconditional =>
      cases hconditional
      apply isOperand_node
  | otherwise _ _ _ => apply isOperand_node

theorem ContinuationReading.isOperand
    {E : Int → Reading Tree} {bound : Int} {left tree : Tree} {ts rest : List Token}
    (h : ContinuationReading E bound left ts tree rest) (hleft : IsOperand left) :
  IsOperand tree
  := by
  induction h with
  | stop _ => apply hleft
  | step _ _ _ _ _ ih => apply ih (isOperand_node _ _)

/-- Reading an expression gives an operand. -/
theorem reads_givesOperands (depth : Nat) :
  GivesOperands (Reads depth)
  := by
  induction depth with
  | zero => rintro _ _ _ _ ⟨⟩
  | succ depth ih =>
      rintro _ _ _ _ ⟨hstart, hcontinuation⟩
      apply hcontinuation.isOperand (hstart.isOperand ih)

/-- Reading a block gives operands. -/
theorem BlockReading.isOperand
    {E : Int → Reading Tree} (hE : GivesOperands E) {ts rest : List Token} {trees : List Tree}
    (h : BlockReading E ts trees rest) :
  ∀ tree ∈ trees, IsOperand tree
  := by
  induction h with
  | close _ => simp
  | more _ hfirst _ ih =>
      rw [List.forall_mem_cons]
      exact ⟨hE hfirst, ih⟩

theorem AlternativeReading.isOperand
    {E : Int → Reading Tree} (hE : GivesOperands E) {ts rest : List Token} {tree : Tree}
    (h : AlternativeReading E ts tree rest) :
  IsOperand tree
  := by
  cases h with
  | close _ => apply isOperand_atom rfl
  | other _ hother => apply hE hother

end ExprScript.Parser
