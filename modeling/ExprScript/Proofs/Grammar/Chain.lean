import ExprScript.Proofs.Grammar.Derivation
import ExprScript.Proofs.Grammar.Failure

/-!
# Chains of operators

A chain is a run of operands joined by operators, where an operand is a literal after any number of
signs.  The tree of a chain is given by its root:

* If some operator binds no tighter than 20, then the root is the rightmost of those that bind
  least.
* Otherwise, if the chain starts with a sign, then it is the negation of the rest of the chain for a
  minus sign, and just the rest for a plus sign.
* Otherwise only the operators before the first signed operand count, and the root is the rightmost
  of those that bind least, or the leftmost if these are powers.

The chain before the root and the chain after it are the operands of the root.
-/

namespace ExprScript

/-- The atom of a token that stands for one. -/
def Token.atom (token : Token) (h : ∃ atom, token.toAtom = .ok atom) : Atom :=
  token.toAtom.toOption.get (by
    obtain ⟨atom, hatom⟩ := h
    rw [hatom]
    rfl)

theorem Token.toAtom_eq_atom {token : Token} (h : ∃ atom, token.toAtom = .ok atom) :
  token.toAtom = .ok (token.atom h)
  := by
  obtain ⟨atom, hatom⟩ := h
  simp [Token.atom, hatom, Except.toOption]

namespace Parser

/-- A literal after any number of signs. -/
structure SignedLiteral where
  signs : List Token
  literal : Token
  isSign : ∀ sign ∈ signs, IsSign sign
  isLiteral : IsLiteral literal
  isTyped : literal.IsTyped

/-- An operator with the operand after it. -/
structure Joint where
  operator : Token
  operand : SignedLiteral
  isOperator : isOperator operator.kind = true

/-- Operands joined by operators. -/
structure Chain where
  first : SignedLiteral
  joints : List Joint

/-- The atom of the literal. -/
def SignedLiteral.atom (u : SignedLiteral) : Atom :=
  u.literal.atom (u.isTyped.toAtom u.isLiteral)

theorem Joint.exists_toAtom (j : Joint) :
  ∃ atom, j.operator.toAtom = .ok atom
  := by
  obtain ⟨kind, hatom, -⟩ := toAtom_of_isOperator j.isOperator
  exact ⟨_, hatom⟩

/-- The atom of the operator. -/
def Joint.head (j : Joint) : Atom :=
  j.operator.atom j.exists_toAtom

/-- The tokens of an operand. -/
def SignedLiteral.tokens (u : SignedLiteral) : List Token :=
  u.signs ++ [u.literal]

/-- The operand without its first sign. -/
def SignedLiteral.unsigned (u : SignedLiteral) : SignedLiteral :=
  { u with
    signs := u.signs.tail
    isSign := fun sign hsign => u.isSign sign (List.mem_of_mem_tail hsign) }

theorem SignedLiteral.tokens_ne_nil (u : SignedLiteral) :
  u.tokens ≠ []
  := by
  simp [tokens]

theorem SignedLiteral.tokens_of_signs {u : SignedLiteral} {sign : Token} {signs : List Token}
    (h : u.signs = sign :: signs) :
  u.tokens = sign :: u.unsigned.tokens
  := by
  simp [tokens, unsigned, h]

/-- How tightly the operator binds. -/
def Joint.precedence (j : Joint) : Int :=
  j.operator.precedence

/-- The bound of the operand after the operator. -/
def Joint.bound (j : Joint) : Int :=
  rightBound j.operator.kind

/-- The tokens of an operator and the operand after it. -/
def Joint.tokens (j : Joint) : List Token :=
  j.operator :: j.operand.tokens

/-- The tokens of a chain. -/
def Chain.tokens (c : Chain) : List Token :=
  c.first.tokens ++ c.joints.flatMap Joint.tokens

/-- A chain starts with a sign or a literal, which close no block. -/
theorem Chain.closesBlock_upcoming (c : Chain) :
  closesBlock (upcoming c.tokens).kind = false
  := by
  rw [tokens, upcoming_append c.first.tokens_ne_nil]
  cases hsigns : c.first.signs with
  | nil =>
      rw [SignedLiteral.tokens, hsigns, List.nil_append, upcoming_cons]
      rcases c.first.isLiteral with h | h | h | h <;> rw [h] <;> rfl
  | cons sign signs =>
      rw [SignedLiteral.tokens_of_signs hsigns, upcoming_cons]
      rcases c.first.isSign sign (by simp [hsigns]) with h | h <;> rw [h] <;> rfl

/-! ### The root -/

/-- The joints that come before any signed operand, the operand `u` before the joints included. -/
def leading (u : SignedLiteral) : List Joint → List Joint
  | [] => []
  | j :: js => if u.signs = [] then j :: leading j.operand js else []

/-- The place of the rightmost joint of a precedence. -/
def rightmost (precedence : Int) : List Joint → Option Nat
  | [] => none
  | j :: js =>
    match rightmost precedence js with
    | some place => some (place + 1)
    | none => if j.precedence = precedence then some 0 else none

/-- The place of the leftmost joint of a precedence. -/
def leftmost (precedence : Int) (js : List Joint) : Option Nat :=
  js.findIdx? (·.precedence = precedence)

/-- The place of the root among joints: the rightmost of those that bind least, or the leftmost if
these are powers. -/
def rootAmong (js : List Joint) : Option Nat :=
  match (js.map Joint.precedence).min? with
  | none => none
  | some least =>
    if least = TokenKind.power.precedence then leftmost least js else rightmost least js

/-- The joints that count for the root: all of them, if one binds no tighter than 20, and otherwise
those before the first signed operand. -/
def Chain.candidates (c : Chain) : List Joint :=
  if c.joints.any (·.precedence ≤ 20) then c.joints else leading c.first c.joints

/-- The place of the root of a chain.  There is none if no joint counts for it. -/
def Chain.root? (c : Chain) : Option Nat :=
  rootAmong c.candidates

theorem leading_length_le (u : SignedLiteral) (js : List Joint) :
  (leading u js).length ≤ js.length
  := by
  fun_induction leading u js with
  | case1 => apply Nat.le_refl
  | case2 _ j js _ ih => simpa using ih
  | case3 => simp

theorem rightmost_lt {precedence : Int} {js : List Joint} {place : Nat}
    (h : rightmost precedence js = some place) :
  place < js.length
  := by
  induction js generalizing place with
  | nil => cases h
  | cons j js ih =>
      rw [rightmost] at h
      rw [List.length_cons]
      split at h
      · next hrest =>
          cases h
          have := ih hrest
          omega
      · split at h <;> cases h
        omega

theorem rootAmong_lt {js : List Joint} {place : Nat} (h : rootAmong js = some place) :
  place < js.length
  := by
  rw [rootAmong] at h
  split at h
  · cases h
  · split at h
    · apply (List.findIdx?_eq_some_iff_findIdx_eq.mp h).1
    · apply rightmost_lt h

/-- The root of a chain is one of its joints. -/
theorem Chain.root?_lt {c : Chain} {place : Nat} (h : c.root? = some place) :
  place < c.joints.length
  := by
  have hplace := rootAmong_lt h
  rw [candidates] at hplace
  split at hplace
  · exact hplace
  · apply Nat.lt_of_lt_of_le hplace (leading_length_le _ _)

theorem SignedLiteral.unsigned_length_lt {u : SignedLiteral} (h : u.signs ≠ []) :
  u.unsigned.signs.length < u.signs.length
  := by
  have := List.length_pos_iff.mpr h
  rw [unsigned, List.length_tail]
  omega

/-- The tree of a chain. -/
def Chain.tree (c : Chain) : Tree :=
  match h : c.root? with
  | some place =>
    let root := c.joints.get ⟨place, Chain.root?_lt h⟩
    .node root.head
      [tree ⟨c.first, c.joints.take place⟩, tree ⟨root.operand, c.joints.drop (place + 1)⟩]
  | none =>
    if hsigns : c.first.signs = [] then .atom c.first.atom
    else
      let rest := tree ⟨c.first.unsigned, c.joints⟩
      if (c.first.signs.head hsigns).kind = .minus then .node (.ofKind .negate) [rest] else rest
termination_by (c.joints.length, c.first.signs.length)
decreasing_by
  · have := Chain.root?_lt h
    apply Prod.Lex.left
    rw [List.length_take]
    omega
  · have := Chain.root?_lt h
    apply Prod.Lex.left
    rw [List.length_drop]
    omega
  · apply Prod.Lex.right
    apply SignedLiteral.unsigned_length_lt hsigns

/-! ### Where the root is -/

/-- An operator binds its right operand as tightly as its left one, except for the power, which
leaves its right operand to another power. -/
theorem Joint.bound_eq (j : Joint) :
  j.bound = if j.precedence = TokenKind.power.precedence then j.precedence - 1 else j.precedence
  := by
  have hall : ∀ kind : TokenKind, Parser.isOperator kind = true → rightBound kind =
      if kind.precedence = TokenKind.power.precedence then kind.precedence - 1
      else kind.precedence := by
    intro kind
    cases kind <;> decide
  apply hall _ j.isOperator

theorem Joint.bound_bounds (j : Joint) :
  j.precedence - 1 ≤ j.bound ∧ j.bound ≤ j.precedence
  := by
  rw [bound_eq]
  split <;> omega

theorem rightmost_eq_none {precedence : Int} {js : List Joint}
    (h : ∀ j ∈ js, j.precedence ≠ precedence) :
  rightmost precedence js = none
  := by
  induction js with
  | nil => rfl
  | cons j js ih =>
      rw [List.forall_mem_cons] at h
      rw [rightmost, ih h.2]
      exact if_neg h.1

theorem rightmost_append {before after : List Joint} {root : Joint}
    (h : ∀ j ∈ after, j.precedence ≠ root.precedence) :
  rightmost root.precedence (before ++ root :: after) = some before.length
  := by
  induction before with
  | nil => simp [rightmost, rightmost_eq_none h]
  | cons j before ih => rw [List.cons_append, rightmost, ih, List.length_cons]

theorem leftmost_append {before after : List Joint} {root : Joint}
    (h : ∀ j ∈ before, j.precedence ≠ root.precedence) :
  leftmost root.precedence (before ++ root :: after) = some before.length
  := by
  induction before with
  | nil => simp [leftmost, List.findIdx?_cons]
  | cons j before ih =>
      rw [List.forall_mem_cons] at h
      have hrest := ih h.2
      rw [leftmost] at hrest ⊢
      rw [List.cons_append, List.findIdx?_cons, hrest]
      simp [h.1]

/-- The root is the joint that binds no tighter than any joint before it binds to its right, and
less tightly to its right than any joint after it. -/
theorem rootAmong_append
    {before after : List Joint} {root : Joint}
    (hbefore : ∀ j ∈ before, root.precedence ≤ j.bound)
    (hafter : ∀ j ∈ after, root.bound < j.precedence) :
  rootAmong (before ++ root :: after) = some before.length
  := by
  have hroot := root.bound_bounds
  have hleast : ((before ++ root :: after).map Joint.precedence).min? = some root.precedence := by
    apply List.min?_eq_some_iff.mpr
    refine ⟨by simp, ?_⟩
    simp only [List.mem_map, List.mem_append, List.mem_cons]
    rintro _ ⟨j, hj | rfl | hj, rfl⟩
    · have := hbefore j hj
      have := j.bound_bounds
      omega
    · apply Int.le_refl
    · have := hafter j hj
      omega
  rw [rootAmong, hleast]
  dsimp only
  by_cases hpower : root.precedence = TokenKind.power.precedence
  · rw [if_pos hpower]
    apply leftmost_append
    intro j hj heq
    have := hbefore j hj
    rw [j.bound_eq, if_pos (heq.trans hpower)] at this
    omega
  · rw [if_neg hpower]
    apply rightmost_append
    intro j hj heq
    have := hafter j hj
    rw [root.bound_eq, if_neg hpower] at this
    omega

/-! ### Signed operands -/

/-- Whether some operand of a chain has a sign. -/
def Chain.IsSigned (c : Chain) : Prop :=
  c.first.signs ≠ [] ∨ ∃ j ∈ c.joints, j.operand.signs ≠ []

theorem Chain.not_isSigned_iff {c : Chain} :
  ¬ c.IsSigned ↔ c.first.signs = [] ∧ ∀ j ∈ c.joints, j.operand.signs = []
  := by
  simp [Chain.IsSigned]

/-- No joint is before a sign of the first operand. -/
theorem leading_of_signed {u : SignedLiteral} (h : u.signs ≠ []) (joints : List Joint) :
  leading u joints = []
  := by
  cases joints with
  | nil => rfl
  | cons j joints => exact if_neg h

/-- A joint is before any sign only if it is so in the first of two runs of joints, or between them,
or in the second. -/
theorem mem_leading_append
    {u : SignedLiteral} {before after : List Joint} {root j : Joint}
    (h : j ∈ leading u (before ++ root :: after)) :
  j ∈ leading u before ∨ j = root ∨ j ∈ leading root.operand after
  := by
  induction before generalizing u with
  | nil =>
      rw [List.nil_append, leading] at h
      split at h
      · right
        apply List.mem_cons.mp h
      · cases h
  | cons first before ih =>
      rw [List.cons_append, leading] at h
      rw [leading]
      split at h
      · next hu =>
          rw [if_pos hu, List.mem_cons]
          rcases List.mem_cons.mp h with rfl | h
          · exact .inl (.inl rfl)
          · rcases ih h with h | h
            · exact .inl (.inr h)
            · exact .inr h
      · cases h

/-- After operands without signs, the joints before any sign are those up to the next one. -/
theorem leading_append
    {u : SignedLiteral} {before : List Joint} (h : ¬ Chain.IsSigned ⟨u, before⟩) (root : Joint)
    (after : List Joint) :
  leading u (before ++ root :: after) = before ++ root :: leading root.operand after
  := by
  rw [Chain.not_isSigned_iff] at h
  obtain ⟨hu, hbefore⟩ := h
  induction before generalizing u with
  | nil => rw [List.nil_append, leading, if_pos hu, List.nil_append]
  | cons first before ih =>
      rw [List.forall_mem_cons] at hbefore
      rw [List.cons_append, leading, if_pos hu, ih hbefore.1 hbefore.2, List.cons_append]

/-! ### Trees of chains -/

/-- If the root of a chain stands between two runs of joints, then the tree of the chain joins the
trees of the chain before it and of the chain after it. -/
theorem Chain.tree_of_root
    {first : SignedLiteral} {before after : List Joint} {root : Joint}
    (h : Chain.root? ⟨first, before ++ root :: after⟩ = some before.length) :
  Chain.tree ⟨first, before ++ root :: after⟩ =
    .node root.head [Chain.tree ⟨first, before⟩, Chain.tree ⟨root.operand, after⟩]
  := by
  rw [Chain.tree]
  split
  · next place hplace =>
      rw [h] at hplace
      cases hplace
      simp
  · next hnone =>
      rw [h] at hnone
      cases hnone

/-- The tree of a literal is its atom. -/
theorem Chain.tree_of_literal {first : SignedLiteral} (h : first.signs = []) :
  Chain.tree ⟨first, []⟩ = .atom first.atom
  := by
  rw [Chain.tree]
  split
  · next place hplace => cases hplace
  · apply dif_pos h

/-- If no operator binds so loosely that it ends the operand of a sign, then a chain that starts
with a sign is the sign before the rest of the chain. -/
theorem Chain.tree_of_sign
    {first : SignedLiteral} (h : first.signs ≠ []) {joints : List Joint}
    (htight : ∀ j ∈ joints, 20 < j.precedence) :
  Chain.tree ⟨first, joints⟩ =
    if (first.signs.head h).kind = .minus then
      .node (.ofKind .negate) [Chain.tree ⟨first.unsigned, joints⟩]
    else Chain.tree ⟨first.unsigned, joints⟩
  := by
  have hroot : Chain.root? ⟨first, joints⟩ = none := by
    have hany : joints.any (·.precedence ≤ 20) = false := by
      rw [List.any_eq_false]
      intro j hj
      have := htight j hj
      simpa using this
    rw [Chain.root?, Chain.candidates, hany, if_neg Bool.false_ne_true, leading_of_signed h]
    rfl
  rw [Chain.tree]
  split
  · next place hplace =>
      rw [hroot] at hplace
      cases hplace
  · rw [dif_neg h]

end Parser

end ExprScript
