import ExprScript.Eval.Basic
import ExprScript.Proofs.Outcome
import ExprScript.Proofs.Tree.Shape
import Mathlib.Data.List.Basic

/-!
# Errors of evaluation

An error of evaluation is expected if it is about the names, the values, the targets or the nesting
of a program.  The other errors are about trees of the wrong shape: a leaf that lacks its datum or
is an operation, a head without a rule, and a missing operand.

Let `C` be a class of trees and `P` a class of errors such that the operands of a tree in `C` are in
`C`, and every error that a leaf or a node in `C` may cause by its own shape is in `P`, as are the
expected errors.  Then evaluating a tree in `C` gives a value or stops with an error in `P`
(`Confines.evalAt`).  One step of evaluation asks less: the operands may be in a smaller class, and
running out of depth has to be in `P` only if a target is too high (`ConfinesStep.tree`).

In particular evaluating a well-shaped tree gives a value or stops with an expected error
(`evalAt_safe`).
-/

namespace ExprScript

/-- Whether the error is one that a program may cause by its names, its values or its nesting.
The other errors are those of a tree of the wrong shape. -/
def EvalError.IsExpected : EvalError → Prop
  | .unbound _ | .operandNotNumber _ _ | .operandsNotNumbers _ _ _ | .conditionNotTruth _ _
  | .invalidTarget _ | .emptyBlock | .tooDeep => True
  | .operationAsLeaf _ | .unknownOperation _ | .missingOperand | .badDatum => False

namespace Eval

open ExprScript.Tree (WellShaped)

/-- Whether an evaluation gives a result in `Q` or stops with an error in `P`. -/
abbrev Safe {α : Type} (P : EvalError → Prop) (x : EvalM α) (Q : α → Prop) : Prop :=
  Respects (fun _ => True) P x Q

/-- Whether an evaluation gives a value or stops with an error in `P`. -/
abbrev GivesValue (P : EvalError → Prop) (x : EvalM Value) : Prop := Safe P x (fun _ => True)

/-- What evaluation asks of a class `C` of trees and a class `P` of errors: the operands of a tree
in `C` are in `C`, a leaf in `C` carries its datum, and `P` holds every error that is caused by the
shape of a leaf or a node in `C`, and every expected error, with a target in `C` if it reports
one. -/
structure Confines (C : Tree → Prop) (P : EvalError → Prop) : Prop where
  operands : ∀ {head tail}, C (.node head tail) → ∀ t ∈ tail, C t
  fault : ∀ {a}, C (.atom a) → a.fault? = none
  operationAsLeaf : ∀ {a}, C (.atom a) → a.kind.isLeaf = false → P (.operationAsLeaf a.kind)
  unknownOperation : ∀ {head tail}, C (.node head tail) → head.kind.hasRule = false →
    P (.unknownOperation head.kind)
  missingOperand : ∀ {head tail}, C (.node head tail) → tail.length < head.kind.asksFor →
    P .missingOperand
  expected : ∀ {e}, e.IsExpected → (∀ target, e = .invalidTarget target → C target) → P e

/-- What one step of evaluation asks of a class `C` of trees, a class `D` of operands and a class `P`
of errors, if targets no higher than `limit` are reported: the operands of a tree in `C` are in `D`,
which is a part of `C`, and `P` holds every error that is caused by the shape of a leaf or a node in
`C` or by the height of a target in `D`, and every other expected error, with a target in `D` if it
reports one. -/
structure ConfinesStep (C D : Tree → Prop) (limit : Nat) (P : EvalError → Prop) : Prop where
  operands : ∀ {head tail}, C (.node head tail) → ∀ t ∈ tail, D t
  nested : ∀ {t}, D t → C t
  badDatum : ∀ {a}, C (.atom a) → a.fault? ≠ none → P .badDatum
  operationAsLeaf : ∀ {a}, C (.atom a) → a.kind.isLeaf = false → P (.operationAsLeaf a.kind)
  unknownOperation : ∀ {head tail}, C (.node head tail) → head.kind.hasRule = false →
    P (.unknownOperation head.kind)
  missingOperand : ∀ {head tail}, C (.node head tail) → tail.length < head.kind.asksFor →
    P .missingOperand
  tooDeep : ∀ {target}, D target → limit < target.height → P .tooDeep
  expected : ∀ {e}, e.IsExpected → e ≠ .tooDeep →
    (∀ target, e = .invalidTarget target → D target) → P e

theorem freshOrigin_safe (P : EvalError → Prop) :
  Safe P freshOrigin (fun _ => True)
  := fun _ _ => ⟨trivial, trivial⟩

theorem bind_safe (P : EvalError → Prop) (name : String) (value : Value) :
  Safe P (bind name value) (fun _ => True)
  := fun _ _ => ⟨trivial, trivial⟩

/-- Whether the second operand of a link is in `D`, or its absence in `P`. -/
def Link.Confined (D : Tree → Prop) (P : EvalError → Prop) (link : Link) : Prop :=
  match link.second with
  | some second => D second
  | none => P .missingOperand

section Step

variable {C D : Tree → Prop} {limit : Nat} {P : EvalError → Prop} (hC : ConfinesStep C D limit P)
include hC

/-! ### Leaves, operands and operations -/

theorem ConfinesStep.lookup (name : String) :
  GivesValue P (lookup name)
  := by
  intro m _
  rw [EStateM.run, Eval.lookup]
  cases m.env.get? name with
  | some value => exact ⟨trivial, trivial⟩
  | none => exact ⟨trivial, hC.expected trivial nofun nofun⟩

theorem ConfinesStep.leaf {a : Atom} (ha : C (.atom a)) :
  GivesValue P (leaf a)
  := by
  have hbadDatum := hC.badDatum ha
  have hoperation := hC.operationAsLeaf ha
  obtain ⟨kind, datum⟩ := a
  cases kind with
  | number =>
      rcases datum with _ | ⟨_ | x⟩
      · apply Respects.throw (hbadDatum nofun)
      · apply Respects.throw (hbadDatum nofun)
      · apply Respects.pure trivial
  | string =>
      rcases datum with _ | ⟨s | _⟩
      · apply Respects.throw (hbadDatum nofun)
      · apply Respects.pure trivial
      · apply Respects.throw (hbadDatum nofun)
  | symbol =>
      rcases datum with _ | ⟨name | _⟩
      · apply Respects.throw (hbadDatum nofun)
      · apply hC.lookup
      · apply Respects.throw (hbadDatum nofun)
  | truth | falsity | nothing => apply Respects.pure trivial
  | _ => apply Respects.throw (hoperation rfl)

/-- An operand that the rule of a node looks for is there, or its absence is in `P`. -/
theorem ConfinesStep.operand
    {head : Atom} {tail : List Tree} (htree : C (.node head tail)) {place : Nat}
    (hplace : place < head.kind.asksFor) :
  Safe P (operand tail place) D
  := by
  unfold Eval.operand
  cases htail : tail[place]? with
  | some t => apply Respects.pure (hC.operands htree t (List.mem_of_getElem? htail))
  | none =>
      have hlength := List.getElem?_eq_none_iff.mp htail
      apply Respects.throw (hC.missingOperand htree (by omega))

theorem ConfinesStep.expectNumber (operation : AtomKind) (value : Value) :
  Safe P (expectNumber operation value) (fun _ => True)
  := by
  cases value with
  | number x => apply Respects.pure trivial
  | _ => exact Respects.throw (hC.expected trivial nofun nofun)

theorem ConfinesStep.arithmetic (operation : AtomKind) (left right : Value) :
  GivesValue P (arithmetic operation left right)
  := by
  unfold Eval.arithmetic
  split
  · apply (freshOrigin_safe P).bind
    intro origin _
    apply Respects.pure trivial
  · exact Respects.throw (hC.expected trivial nofun nofun)

/-! ### Chains -/

/-- The second operand of an arithmetic node in `C` is in `D`, or its absence in `P`. -/
theorem ConfinesStep.link
    {head : Atom} (hhead : head.kind.isArithmetic = true) {first : Tree} {others : List Tree}
    (htree : C (.node head (first :: others))) :
  Link.Confined D P ⟨head.kind, others.head?⟩
  := by
  cases others with
  | nil =>
      apply hC.missingOperand htree
      rw [AtomKind.asksFor_of_isArithmetic hhead]
      apply Nat.lt_succ_self
  | cons second others => apply hC.operands htree second (by simp)

/-- The chain that begins with a tree in `D` has its innermost operand and its second operands in
`D`, or breaks off with an error in `P`. -/
theorem ConfinesStep.chainOf
    {tree : Tree} (htree : D tree) {links : List Link}
    (hlinks : ∀ link ∈ links, link.Confined D P) :
  match chainOf links tree with
    | some (links', inner) => D inner ∧ ∀ link ∈ links', link.Confined D P
    | none => P .missingOperand
  := by
  fun_induction Eval.chainOf links tree with
  | case1 links a => exact ⟨htree, hlinks⟩
  | case2 links head hmath =>
      apply hC.missingOperand (hC.nested htree)
      rw [AtomKind.asksFor_of_isArithmetic hmath]
      decide
  | case3 links head hmath => exact ⟨htree, hlinks⟩
  | case4 links head first others hmath ih =>
      apply ih (hC.operands (hC.nested htree) first List.mem_cons_self)
      rw [List.forall_mem_cons]
      exact ⟨hC.link hmath (hC.nested htree), hlinks⟩
  | case5 links head first others hmath => exact ⟨htree, hlinks⟩

/-! ### The rules -/

section Rules

variable {expression : Tree → EvalM Value} (h : ∀ {tree}, D tree → GivesValue P (expression tree))
include h

theorem ConfinesStep.climb
    {links : List Link} (hlinks : ∀ link ∈ links, link.Confined D P) (result : Value) :
  GivesValue P (climb expression links result)
  := by
  induction links generalizing result with
  | nil => apply Respects.pure trivial
  | cons link links ih =>
      obtain ⟨operation, second⟩ := link
      rw [List.forall_mem_cons] at hlinks
      unfold Eval.climb
      cases second with
      | none => exact Respects.throw hlinks.1
      | some second =>
          have hsecond : D second := hlinks.1
          apply (h hsecond).bind
          intro left _
          apply (hC.arithmetic _ _ _).bind
          intro result' _
          apply ih hlinks.2

theorem ConfinesStep.chain
    {head : Atom} (hhead : head.kind.isArithmetic = true) {tail : List Tree}
    (htree : C (.node head tail)) :
  GivesValue P (chain expression (.node head tail))
  := by
  unfold Eval.chain
  cases tail with
  | nil =>
      rw [Eval.chainOf, if_pos hhead]
      apply Respects.throw (hC.missingOperand htree _)
      rw [AtomKind.asksFor_of_isArithmetic hhead]
      decide
  | cons first others =>
      -- the chain goes on with the first operand, which is in `D`
      have hlink : ∀ link ∈ [Link.mk head.kind others.head?], link.Confined D P :=
        List.forall_mem_singleton.mpr (hC.link hhead htree)
      have hchain := hC.chainOf (hC.operands htree first List.mem_cons_self) hlink
      rw [Eval.chainOf, if_pos hhead]
      cases hlinks : Eval.chainOf [⟨head.kind, others.head?⟩] first with
      | none =>
          rw [hlinks] at hchain
          exact Respects.throw hchain
      | some chained =>
          rw [hlinks] at hchain
          apply (h hchain.1).bind
          intro result _
          apply hC.climb h hchain.2

theorem ConfinesStep.block {trees : List Tree} (htrees : ∀ t ∈ trees, D t) :
  GivesValue P (block expression trees)
  := by
  induction trees with
  | nil => exact Respects.throw (hC.expected trivial nofun nofun)
  | cons first rest ih =>
      rw [List.forall_mem_cons] at htrees
      cases rest with
      | nil => apply h htrees.1
      | cons second rest =>
          apply (h htrees.1).bind
          intro value _
          apply ih htrees.2

/-- The operand at a place of the tail is evaluated before what comes next. -/
theorem ConfinesStep.operandValue
    {head : Atom} {tail : List Tree} (htree : C (.node head tail)) {place : Nat}
    (hplace : place < head.kind.asksFor) {β : Type} {f : Value → EvalM β} {R : β → Prop}
    (hf : ∀ value, Safe P (f value) R) :
  Safe P (Eval.operand tail place >>= fun tree => expression tree >>= f) R
  := by
  apply (hC.operand htree hplace).bind
  intro tree htree
  apply (h htree).bind
  intro value _
  apply hf

theorem ConfinesStep.assignment
    {head : Atom} {tail : List Tree} (htree : C (.node head tail))
    (hasks : head.kind.asksFor = 2) :
  GivesValue P (assignment expression limit tail)
  := by
  apply hC.operandValue h htree (by omega)
  intro value
  apply (hC.operand htree (by omega)).bind
  intro target htarget
  split
  · apply (bind_safe P _ value).bind
    intro _ _
    apply Respects.pure trivial
  · next datum hdatum =>
      -- a symbol without a name lacks its datum
      apply Respects.throw (hC.badDatum (hC.nested htarget) _)
      rcases datum with _ | ⟨name | x⟩
      · rintro ⟨⟩
      · apply absurd rfl (hdatum name)
      · rintro ⟨⟩
  · split
    · refine Respects.throw (hC.expected trivial nofun ?_)
      rintro _ ⟨⟩
      exact htarget
    · next hheight => apply Respects.throw (hC.tooDeep htarget (Nat.lt_of_not_le hheight))

theorem ConfinesStep.comparison
    (operation : AtomKind) {head : Atom} {tail : List Tree} (htree : C (.node head tail))
    (hasks : head.kind.asksFor = 2) :
  GivesValue P (comparison expression operation tail)
  := by
  apply hC.operandValue h htree (by omega)
  intro a
  apply (hC.expectNumber operation a).bind
  intro x _
  apply hC.operandValue h htree (by omega)
  intro b
  apply (hC.expectNumber operation b).bind
  intro y _
  apply Respects.pure trivial

theorem ConfinesStep.equality
    (operation : AtomKind) {head : Atom} {tail : List Tree} (htree : C (.node head tail))
    (hasks : head.kind.asksFor = 2) :
  GivesValue P (equality expression operation tail)
  := by
  apply hC.operandValue h htree (by omega)
  intro a
  apply hC.operandValue h htree (by omega)
  intro b
  apply Respects.pure trivial

theorem ConfinesStep.conditional
    (kind : AtomKind) {head : Atom} {tail : List Tree} (htree : C (.node head tail))
    (hasks : head.kind.asksFor = 3) :
  GivesValue P (conditional expression kind tail)
  := by
  have hbranch : ∀ {place}, place < head.kind.asksFor →
      GivesValue P (Eval.operand tail place >>= expression) := by
    intro place hplace
    apply (hC.operand htree hplace).bind
    intro branch hbranch
    apply h hbranch
  apply hC.operandValue h htree (by omega)
  intro condition
  split
  · apply hbranch (by omega)
  · apply hbranch (by omega)
  · exact Respects.throw (hC.expected trivial nofun nofun)

theorem ConfinesStep.negation
    {head : Atom} {tail : List Tree} (htree : C (.node head tail))
    (hasks : head.kind.asksFor = 1) :
  GivesValue P (negation expression tail)
  := by
  apply hC.operandValue h htree (by omega)
  intro a
  apply (hC.expectNumber .negate a).bind
  intro x _
  apply (freshOrigin_safe P).bind
  intro origin _
  apply Respects.pure trivial

/-- Evaluating a tree in `C` gives a value or stops with an error in `P`, if evaluating an operand
in `D` does. -/
theorem ConfinesStep.tree {t : Tree} (ht : C t) :
  GivesValue P (tree expression limit t)
  := by
  cases t with
  | atom a => apply hC.leaf ht
  | node head tail =>
      obtain ⟨kind, datum⟩ := head
      cases kind with
      | plus | minus | times | divide | power => apply hC.chain h rfl ht
      | negate => apply hC.negation h ht rfl
      | assign => apply hC.assignment h ht rfl
      | greater | less => apply hC.comparison h _ ht rfl
      | equal | notEqual => apply hC.equality h _ ht rfl
      | block => apply hC.block h (hC.operands ht)
      | conditional | orConditional => apply hC.conditional h _ ht rfl
      | _ => apply Respects.throw (hC.unknownOperation ht rfl)

end Rules

end Step

/-! ### Evaluation -/

/-- A class of trees that contains the operands of its trees confines each step. -/
theorem Confines.step
    {C : Tree → Prop} {P : EvalError → Prop} (hC : Confines C P) (limit : Nat) :
  ConfinesStep C C limit P
  where
  operands := hC.operands
  nested ht := ht
  badDatum ha hfault := absurd (hC.fault ha) hfault
  operationAsLeaf := hC.operationAsLeaf
  unknownOperation := hC.unknownOperation
  missingOperand := hC.missingOperand
  tooDeep _ _ := hC.expected trivial nofun
  expected he _ htarget := hC.expected he htarget

/-- Evaluating a tree in `C` gives a value or stops with an error in `P`. -/
theorem Confines.evalAt
    {C : Tree → Prop} {P : EvalError → Prop} (hC : Confines C P) (depth : Nat) {tree : Tree}
    (htree : C tree) :
  GivesValue P (evalAt depth tree)
  := by
  induction depth generalizing tree with
  | zero => exact Respects.throw (hC.expected trivial nofun)
  | succ depth ih => apply (hC.step depth).tree ih htree

/-! ### Well-shaped trees -/

/-- The shape of a well-shaped tree causes no errors. -/
theorem confines_wellShaped :
  Confines WellShaped EvalError.IsExpected
  where
  operands htree := by
    cases htree with | node _ _ htail
    exact htail
  fault ha := by
    cases ha with | leaf hfault _
    exact hfault
  operationAsLeaf ha hnot := by
    cases ha with | leaf _ hleaf
    rw [hleaf] at hnot
    cases hnot
  unknownOperation htree hrule := by
    cases htree with | node _ htakes _
    rw [(AtomKind.hasRule_of_takes htakes).1] at hrule
    cases hrule
  missingOperand htree hlength := by
    cases htree with | node _ htakes _
    have hasks := (AtomKind.hasRule_of_takes htakes).2
    omega
  expected h _ := h

/-- Evaluating a well-shaped tree gives a value or stops with an expected error. -/
theorem evalAt_safe (depth : Nat) {tree : Tree} (htree : tree.WellShaped) :
  GivesValue EvalError.IsExpected (evalAt depth tree)
  := confines_wellShaped.evalAt depth htree

end Eval

end ExprScript
