import ExprScript.Proofs.Grammar.Reading
import ExprScript.Proofs.Token.Word

/-!
# Calculations

A calculation is a run of digit literals joined by `+`, `-`, `*` and `/`.  It is cut at `+` and `-`
into products, which makes it a run of products joined by `+` and `-` (`Spine.cut`).

Both runs are spines: a first operand, and then operators with the operand after each.  A spine is
read as nodes that nest in their first operands.  A calculation is read as the spine of the spines
of its products, and however long it is, it costs the same depth (`Calculation.reads`).
-/

open ExprScript.Parser

namespace ExprScript

/-! ### Literals and operators -/

/-- A run of digits. -/
structure Literal where
  text : String
  isRun : Token.isRun Text.isDigit text.toList = true

namespace Literal

/-- The number that the digits denote. -/
def number (l : Literal) : Number :=
  .ofNat (Text.ofDigits l.text.toList)

/-- The leaf of the number. -/
def leaf (l : Literal) : Tree :=
  .atom ⟨.number, some (.number l.number)⟩

/-- The tokens of the digits: just one. -/
def tokens (l : Literal) : List Token :=
  [Token.classify l.text]

/-- A literal is read before anything that does not bind it more tightly. -/
theorem reads (l : Literal) (depth : Nat) {bound : Int} {rest : List Token}
    (h : (upcoming rest).precedence ≤ bound) :
  Reads (depth + 1) bound (l.tokens ++ rest) l.leaf rest
  := by
  rw [tokens, Token.classify_digits l.isRun]
  apply ExpressionReading.intro
  · apply StartReading.leaf (.inl rfl) rfl
  · apply ContinuationReading.stop h

end Literal

/-- The operators of a calculation. -/
inductive Operator where
  | plus
  | minus
  | times
  | divide

namespace Operator

/-- The operator as written. -/
def text : Operator → String
  | .plus => "+"
  | .minus => "-"
  | .times => "*"
  | .divide => "/"

/-- The head of a node of the operator. -/
def head : Operator → AtomKind
  | .plus => .plus
  | .minus => .minus
  | .times => .times
  | .divide => .divide

/-- Whether a calculation is cut at the operator. -/
def isAdditive : Operator → Bool
  | .plus | .minus => true
  | .times | .divide => false

/-- How tightly the operator binds. -/
def level (op : Operator) : Int :=
  if op.isAdditive then 20 else 30

/-- The token of the operator. -/
def token (op : Operator) : Token :=
  Token.classify op.text

theorem token_isOperator (op : Operator) :
  isOperator op.token.kind = true
  := by
  cases op <;> rfl

theorem token_toAtom (op : Operator) :
  op.token.toAtom = .ok (.ofKind op.head)
  := by
  cases op <;> rfl

theorem token_precedence (op : Operator) :
  op.token.precedence = op.level
  := by
  cases op <;> rfl

theorem token_rightBound (op : Operator) :
  rightBound op.token.kind = op.level
  := by
  cases op <;> rfl

end Operator

/-! ### Spines -/

/-- An operator with the operand after it. -/
structure Spine.Step (α : Type) where
  operator : Operator
  operand : α

/-- Operands joined by operators. -/
structure Spine (α : Type) where
  first : α
  steps : List (Spine.Step α)

namespace Spine

variable {α β γ : Type}

/-- Operators and operands in order. -/
def flatSteps (f : α → List β) (g : Operator → β) (steps : List (Step α)) : List β :=
  steps.flatMap fun step => g step.operator :: f step.operand

/-- The operands and the operators of a spine in order. -/
def flat (f : α → List β) (g : Operator → β) (s : Spine α) : List β :=
  f s.first ++ flatSteps f g s.steps

/-- The nodes of the operators, each with the one before it as its first operand, and the innermost
with the given tree. -/
def nest (f : α → Tree) (inner : Tree) (steps : List (Step α)) : Tree :=
  steps.foldl (fun t step => .node (.ofKind step.operator.head) [t, f step.operand]) inner

/-- The tree of a spine. -/
def tree (f : α → Tree) (s : Spine α) : Tree :=
  nest f (f s.first) s.steps

theorem flatSteps_cons (f : α → List β) (g : Operator → β) (step : Step α)
    (steps : List (Step α)) :
  flatSteps f g (step :: steps) = g step.operator :: (f step.operand ++ flatSteps f g steps)
  := by
  rw [flatSteps, List.flatMap_cons, List.cons_append]
  rfl

theorem map_flat (f : α → List β) (g : Operator → β) (h : β → γ) (s : Spine α) :
  (s.flat f g).map h = s.flat (fun a => (f a).map h) (fun op => h (g op))
  := by
  simp [flat, flatSteps, List.map_flatMap]

/-! ### Cutting at `+` and `-` -/

/-- The spine of the products between the operators `+` and `-`. -/
def cutFrom (first : α) : List (Step α) → Spine (Spine α)
  | [] => ⟨⟨first, []⟩, []⟩
  | step :: steps =>
    let rest := cutFrom step.operand steps
    if step.operator.isAdditive then ⟨⟨first, []⟩, ⟨step.operator, rest.first⟩ :: rest.steps⟩
    else ⟨⟨first, step :: rest.first.steps⟩, rest.steps⟩

/-- A spine cut into its products. -/
def cut (s : Spine α) : Spine (Spine α) :=
  cutFrom s.first s.steps

/-- Whether the operators of a spine are `*` and `/`. -/
def IsProduct (s : Spine α) : Prop :=
  ∀ step ∈ s.steps, step.operator.isAdditive = false

/-- Whether the operators of a spine are `+` and `-`, and its operands are products. -/
structure IsSum (s : Spine (Spine α)) : Prop where
  first : s.first.IsProduct
  steps : ∀ step ∈ s.steps, step.operator.isAdditive = true ∧ step.operand.IsProduct

theorem first_cutFrom (first : α) (steps : List (Step α)) :
  (cutFrom first steps).first.first = first
  := by
  cases steps with
  | nil => rfl
  | cons step steps =>
      rw [cutFrom]
      split <;> rfl

theorem flat_cutFrom (f : α → List β) (g : Operator → β) (first : α) (steps : List (Step α)) :
  (cutFrom first steps).flat (flat f g) g = f first ++ flatSteps f g steps
  := by
  induction steps generalizing first with
  | nil => apply List.append_nil
  | cons step steps ih =>
      have hrest := ih step.operand
      rw [flat, flat, first_cutFrom] at hrest
      rw [cutFrom, flatSteps_cons, ← hrest]
      split
      · rw [flat, flatSteps_cons, flat, flat, first_cutFrom]
        simp [flatSteps]
      · rw [flat, flat, flatSteps_cons]
        simp

/-- Cutting leaves the operands and operators in their order. -/
theorem flat_cut (f : α → List β) (g : Operator → β) (s : Spine α) :
  s.cut.flat (flat f g) g = s.flat f g
  := flat_cutFrom f g s.first s.steps

theorem isSum_cut (s : Spine α) :
  s.cut.IsSum
  := by
  obtain ⟨first, steps⟩ := s
  rw [cut]
  induction steps generalizing first with
  | nil => exact ⟨nofun, nofun⟩
  | cons step steps ih =>
      obtain ⟨hfirst, hsteps⟩ := ih step.operand
      rw [cutFrom]
      split
      · next hadditive =>
          constructor
          · nofun
          · exact List.forall_mem_cons.mpr ⟨⟨hadditive, hfirst⟩, hsteps⟩
      · next hadditive =>
          constructor
          · apply List.forall_mem_cons.mpr ⟨by simpa using hadditive, hfirst⟩
          · exact hsteps

/-! ### Reading -/

/-- Operators of one level bind no tighter than it. -/
theorem upcoming_flatSteps
    {level : Int} {g : α → List Token} {steps : List (Step α)}
    (hlevel : ∀ step ∈ steps, step.operator.level = level) {more : List Token}
    (hmore : (upcoming more).precedence ≤ level) :
  (upcoming (flatSteps g Operator.token steps ++ more)).precedence ≤ level
  := by
  cases steps with
  | nil => exact hmore
  | cons step steps =>
      rw [List.forall_mem_cons] at hlevel
      apply Int.le_of_eq
      rw [flatSteps_cons, List.cons_append, upcoming_cons, step.operator.token_precedence, hlevel.1]

/-- Operators of one level take their operands one after the other, and then the expression goes
on with what stands after them. -/
theorem continues
    {E : Int → Reading Tree} {bound level : Int} (hbound : bound < level) {f : α → Tree}
    {g : α → List Token} {steps : List (Step α)}
    (hlevel : ∀ step ∈ steps, step.operator.level = level)
    (hreads : ∀ step ∈ steps, ∀ {rest}, (upcoming rest).precedence ≤ level →
      E level (g step.operand ++ rest) (f step.operand) rest)
    {more rest : List Token} (hmore : (upcoming more).precedence ≤ level) {inner result : Tree}
    (h : ContinuationReading E bound (nest f inner steps) more result rest) :
  ContinuationReading E bound inner (flatSteps g Operator.token steps ++ more) result rest
  := by
  induction steps generalizing inner with
  | nil => exact h
  | cons step steps ih =>
      rw [List.forall_mem_cons] at hlevel hreads
      rw [flatSteps_cons, List.cons_append, List.append_assoc]
      apply ContinuationReading.step _ step.operator.token_isOperator step.operator.token_toAtom
      · rw [step.operator.token_rightBound, hlevel.1]
        apply hreads.1 (upcoming_flatSteps hlevel.2 hmore)
      · apply ih hlevel.2 hreads.2 h
      · rwa [step.operator.token_precedence, hlevel.1]

end Spine

/-- A run of literals joined by operators. -/
abbrev Calculation := Spine Literal

namespace Calculation

/-- The tokens of a calculation. -/
def tokens (c : Calculation) : List Token :=
  c.flat Literal.tokens Operator.token

/-- The tree of a run of literals joined by `*` and `/`. -/
def productTree (p : Calculation) : Tree :=
  p.tree Literal.leaf

/-- The tree of a calculation: that of the spine of its products. -/
def tree (c : Calculation) : Tree :=
  c.cut.tree productTree

/-- An expression that starts with a product takes its factors one after the other. -/
theorem reads_of_product
    {p : Calculation} (hp : p.IsProduct) (depth : Nat) {bound : Int} (hbound : bound < 30)
    {more rest : List Token} (hmore : (upcoming more).precedence ≤ 30) {result : Tree}
    (h : ContinuationReading (Reads (depth + 1)) bound p.productTree more result rest) :
  Reads (depth + 2) bound (p.tokens ++ more) result rest
  := by
  rw [tokens, Spine.flat, List.append_assoc, Literal.tokens, Token.classify_digits p.first.isRun]
  apply ExpressionReading.intro
  · apply StartReading.leaf (.inl rfl) rfl
  apply Spine.continues hbound _ _ hmore h
  · intro step hstep
    rw [Operator.level, hp step hstep]
    rfl
  · intro step _ rest hrest
    apply step.operand.reads depth hrest

/-- A product is read before anything that does not bind it more tightly. -/
theorem reads_product
    {p : Calculation} (hp : p.IsProduct) (depth : Nat) {bound : Int} (hbound : bound < 30)
    {rest : List Token} (hrest : (upcoming rest).precedence ≤ bound) :
  Reads (depth + 2) bound (p.tokens ++ rest) p.productTree rest
  := by
  apply reads_of_product hp depth hbound (Int.le_trans hrest (Int.le_of_lt hbound))
  apply ContinuationReading.stop hrest

/-- A calculation of any length is read at depth three, before anything that is no operator. -/
theorem reads (c : Calculation) (depth : Nat) {rest : List Token}
    (hrest : (upcoming rest).precedence ≤ 0) :
  Reads (depth + 3) 0 (c.tokens ++ rest) c.tree rest
  := by
  obtain ⟨hfirst, hsteps⟩ := c.isSum_cut
  have hbound : (0 : Int) < 20 := by decide
  have hends : (upcoming rest).precedence ≤ 20 := Int.le_trans hrest (Int.le_of_lt hbound)
  have hlevel : ∀ step ∈ c.cut.steps, step.operator.level = 20 := by
    intro step hstep
    rw [Operator.level, (hsteps step hstep).1]
    rfl
  rw [tokens, ← Spine.flat_cut, Spine.flat, List.append_assoc]
  apply reads_of_product hfirst (depth + 1) (by decide)
  · apply Int.le_trans (Spine.upcoming_flatSteps hlevel hends) (by decide)
  apply Spine.continues (f := productTree) hbound hlevel _ hends
  · apply ContinuationReading.stop hrest
  · intro step hstep rest hrest
    apply reads_product (hsteps step hstep).2 depth (by decide) hrest

end Calculation

end ExprScript
