import ExprScript.Eval.Basic
import ExprScript.Proofs.Eval.Origin
import ExprScript.Proofs.Outcome
import Mathlib.Data.List.Basic

/-!
# Evaluating in corresponding machines

An evaluation sees its machine only through looking names up, binding names and drawing origins.
Let `S` relate machines, let `ρ` pair the origins of the one with those of the other, and let `P` be
a class of trees.  If looking up a symbol in `P`, binding the target of an assignment in `P` and
drawing an origin give alike results on machines related by `S`, then so does evaluating a tree in
`P`, and it leaves related machines (`Corresponds.evalAt`).

With one machine in place of two, evaluating a tree in `P` keeps whatever drawing an origin and
binding the targets in `P` keep (`evalAt_keeps`).
-/

namespace ExprScript.Eval

/-- Whether the evaluations give results related by `R`, or stop with alike errors, on machines
related by `S`. -/
abbrev Agrees {α β : Type} (ρ : Nat → Nat → Prop) (S : Machine → Machine → Prop)
    (R : α → β → Prop) (x : EvalM α) (y : EvalM β) : Prop :=
  Relates S (EvalError.Alike ρ) R x y

/-- Whether the evaluations give alike values, or stop with alike errors, on machines related by
`S`. -/
abbrev GivesAlike (ρ : Nat → Nat → Prop) (S : Machine → Machine → Prop) (x y : EvalM Value) :
    Prop :=
  Agrees ρ S (Value.Alike ρ) x y

/-- What evaluation asks of a pairing `ρ` of origins, a relation `S` of machines and a class `P` of
trees: the operands of a tree in `P` are in `P`, its undefined numbers pair with themselves, and
looking up its symbols, binding its targets and drawing origins agree on machines related by `S`. -/
structure Corresponds (ρ : Nat → Nat → Prop) (S : Machine → Machine → Prop)
    (P : Tree → Prop) : Prop where
  pairing : Number.Pairing ρ
  operands : ∀ {head tail}, P (.node head tail) → ∀ t ∈ tail, P t
  literal : ∀ {x}, P (.atom ⟨.number, some (.number x)⟩) → x.Alike ρ x
  lookup : ∀ {name}, P (.atom ⟨.symbol, some (.text name)⟩) →
    GivesAlike ρ S (lookup name) (lookup name)
  bind : ∀ {datum name others},
    P (.node ⟨.assign, datum⟩ (.atom ⟨.symbol, some (.text name)⟩ :: others)) →
    ∀ {v w}, v.Alike ρ w → Agrees ρ S (fun _ _ => True) (bind name v) (bind name w)
  freshOrigin : Agrees ρ S ρ freshOrigin freshOrigin

/-- The second operands of a chain and its innermost operand are in `P` if the chain begins with a
tree in `P`. -/
theorem chainOf_operands
    {P : Tree → Prop} (operands : ∀ {head tail}, P (.node head tail) → ∀ t ∈ tail, P t)
    {links links' : List Link} {tree inner : Tree}
    (h : Eval.chainOf links tree = some (links', inner)) (htree : P tree)
    (hlinks : ∀ link ∈ links, ∀ second ∈ link.second, P second) :
  P inner ∧ ∀ link ∈ links', ∀ second ∈ link.second, P second
  := by
  fun_induction Eval.chainOf links tree with
  | case1 links a =>
      cases h
      exact ⟨htree, hlinks⟩
  | case2 => cases h
  | case3 links head hmath =>
      cases h
      exact ⟨htree, hlinks⟩
  | case4 links head first others hmath ih =>
      apply ih h (operands htree first (by simp))
      rw [List.forall_mem_cons]
      refine ⟨?_, hlinks⟩
      intro second hsecond
      apply operands htree second
      apply List.mem_cons_of_mem
      apply List.mem_of_mem_head? hsecond
  | case5 links head first others hmath =>
      cases h
      exact ⟨htree, hlinks⟩

section Correspondence

variable {ρ : Nat → Nat → Prop} {S : Machine → Machine → Prop} {P : Tree → Prop}

/-! ### Operands and operations -/

theorem expectNumber_agrees (operation : AtomKind) {v w : Value} (h : v.Alike ρ w) :
  Agrees ρ S (Number.Alike ρ) (expectNumber operation v) (expectNumber operation w)
  := by
  cases h with
  | number hx => apply Relates.pure hx
  | truth b => apply Relates.throw (.operandNotNumber operation (.truth b))
  | text s => apply Relates.throw (.operandNotNumber operation (.text s))
  | symbol name => apply Relates.throw (.operandNotNumber operation (.symbol name))
  | nothing => apply Relates.throw (.operandNotNumber operation .nothing)

/-- The operand at a place, if there is one, is passed on. -/
theorem operand_agrees
    {tail : List Tree} {place : Nat} {α β : Type} {R : α → β → Prop} {f : Tree → EvalM α}
    {g : Tree → EvalM β} (hfg : ∀ t ∈ tail, Agrees ρ S R (f t) (g t)) :
  Agrees ρ S R (operand tail place >>= f) (operand tail place >>= g)
  := by
  unfold operand
  cases hplace : tail[place]? with
  | some t => apply hfg t (List.mem_of_getElem? hplace)
  | none => apply Relates.throw (.same .missingOperand)

variable (hS : Corresponds ρ S P)
include hS

theorem Corresponds.leaf {a : Atom} (ha : P (.atom a)) :
  GivesAlike ρ S (leaf a) (leaf a)
  := by
  obtain ⟨kind, datum⟩ := a
  cases kind with
  | symbol =>
      rcases datum with _ | ⟨name | x⟩
      · apply Relates.throw (.same _)
      · apply hS.lookup ha
      · apply Relates.throw (.same _)
  | number =>
      rcases datum with _ | ⟨s | x⟩
      · apply Relates.throw (.same _)
      · apply Relates.throw (.same _)
      · apply Relates.pure (.number (hS.literal ha))
  | string =>
      rcases datum with _ | ⟨s | x⟩
      · apply Relates.throw (.same _)
      · apply Relates.pure (.text s)
      · apply Relates.throw (.same _)
  | truth => apply Relates.pure (.truth true)
  | falsity => apply Relates.pure (.truth false)
  | nothing => apply Relates.pure .nothing
  | _ => apply Relates.throw (.same _)

theorem Corresponds.compute
    (operation : AtomKind) {i j : Nat} (h : ρ i j) {x x' y y' : Number} (hx : x.Alike ρ x')
    (hy : y.Alike ρ y') :
  (compute operation i x y).Alike ρ (compute operation j x' y')
  := by
  unfold Eval.compute
  split
  · rw [Number.add, Number.add, hx.toFloat, hy.toFloat]
    apply Number.ofFloat_alike h
  · rw [Number.sub, Number.sub, hx.toFloat, hy.toFloat]
    apply Number.ofFloat_alike h
  · apply hx.divide hS.pairing.shared h hy
  · rw [Number.mul, Number.mul, hx.toFloat, hy.toFloat]
    apply Number.ofFloat_alike h
  · apply hy.power hS.pairing.shared h hx

theorem Corresponds.arithmetic
    (operation : AtomKind) {v v' w w' : Value} (hv : v.Alike ρ v') (hw : w.Alike ρ w') :
  GivesAlike ρ S (arithmetic operation v w) (arithmetic operation v' w')
  := by
  have hthrow : GivesAlike ρ S (throw (.operandsNotNumbers operation v w))
      (throw (.operandsNotNumbers operation v' w')) :=
    Relates.throw (.operandsNotNumbers operation hv hw)
  cases hv with
  | number hx =>
      cases hw with
      | number hy =>
          apply hS.freshOrigin.bind
          intro i j hij
          apply Relates.pure (.number (hS.compute operation hij hx hy))
      | _ => exact hthrow
  | _ => exact hthrow

/-! ### The rules -/

section Rules

variable {expression : Tree → EvalM Value}
  (h : ∀ t, P t → GivesAlike ρ S (expression t) (expression t))
include h

theorem Corresponds.climb
    {links : List Link} (hlinks : ∀ link ∈ links, ∀ second ∈ link.second, P second)
    {result result' : Value} (hresult : result.Alike ρ result') :
  GivesAlike ρ S (climb expression links result) (climb expression links result')
  := by
  induction links generalizing result result' with
  | nil => apply Relates.pure hresult
  | cons link links ih =>
      rw [List.forall_mem_cons] at hlinks
      unfold Eval.climb
      cases hsecond : link.second with
      | none => apply Relates.throw (.same _)
      | some second =>
          apply (h second (hlinks.1 second hsecond)).bind
          intro left left' hleft
          apply (hS.arithmetic _ hleft hresult).bind
          intro next next' hnext
          apply ih hlinks.2 hnext

theorem Corresponds.chain {tree : Tree} (htree : P tree) :
  GivesAlike ρ S (chain expression tree) (chain expression tree)
  := by
  unfold Eval.chain
  cases hchain : Eval.chainOf [] tree with
  | none => apply Relates.throw (.same _)
  | some chained =>
      obtain ⟨links, inner⟩ := chained
      obtain ⟨hinner, hlinks⟩ := chainOf_operands hS.operands hchain htree (by simp)
      apply (h inner hinner).bind
      intro result result' hresult
      apply hS.climb h hlinks hresult

omit hS in
theorem block_agrees {trees : List Tree} (htrees : ∀ t ∈ trees, P t) :
  GivesAlike ρ S (block expression trees) (block expression trees)
  := by
  induction trees with
  | nil => apply Relates.throw (.same _)
  | cons first rest ih =>
      rw [List.forall_mem_cons] at htrees
      cases rest with
      | nil => apply h first htrees.1
      | cons second rest =>
          apply (h first htrees.1).bind
          intro _ _ _
          apply ih htrees.2

omit hS in
/-- The operand at a place of the tail is evaluated before what comes next. -/
theorem operandValue_agrees
    {tail : List Tree} (htail : ∀ t ∈ tail, P t) {place : Nat} {α β : Type} {R : α → β → Prop}
    {f : Value → EvalM α} {g : Value → EvalM β}
    (hfg : ∀ v w, v.Alike ρ w → Agrees ρ S R (f v) (g w)) :
  Agrees ρ S R (operand tail place >>= fun t => expression t >>= f)
    (operand tail place >>= fun t => expression t >>= g)
  := by
  apply operand_agrees
  intro t ht
  apply (h t (htail t ht)).bind hfg

theorem Corresponds.assignment
    (limit : Nat) {datum : Option Datum} {tail : List Tree}
    (htree : P (.node ⟨.assign, datum⟩ tail)) :
  GivesAlike ρ S (assignment expression limit tail) (assignment expression limit tail)
  := by
  apply operandValue_agrees h (hS.operands htree)
  intro v w hvw
  cases tail with
  | nil => apply Relates.throw (.same _)
  | cons target others =>
      simp only [operand, List.getElem?_cons_zero, pure_bind]
      split
      · apply (hS.bind htree hvw).bind
        intro _ _ _
        apply Relates.pure (.symbol _)
      · apply Relates.throw (.same _)
      · split <;> apply Relates.throw (.same _)

omit hS in
theorem comparison_agrees (operation : AtomKind) {tail : List Tree} (htail : ∀ t ∈ tail, P t) :
  GivesAlike ρ S (comparison expression operation tail) (comparison expression operation tail)
  := by
  apply operandValue_agrees h htail
  intro v v' hv
  apply (expectNumber_agrees operation hv).bind
  intro x x' hx
  apply operandValue_agrees h htail
  intro w w' hw
  apply (expectNumber_agrees operation hw).bind
  intro y y' hy
  rw [hx.less hy, hy.less hx]
  apply Relates.pure (.truth _)

theorem Corresponds.equality (operation : AtomKind) {tail : List Tree}
    (htail : ∀ t ∈ tail, P t) :
  GivesAlike ρ S (equality expression operation tail) (equality expression operation tail)
  := by
  apply operandValue_agrees h htail
  intro v v' hv
  apply operandValue_agrees h htail
  intro w w' hw
  rw [hv.same hS.pairing hw]
  apply Relates.pure (.truth _)

omit hS in
theorem conditional_agrees (head : AtomKind) {tail : List Tree} (htail : ∀ t ∈ tail, P t) :
  GivesAlike ρ S (conditional expression head tail) (conditional expression head tail)
  := by
  have hbranch : ∀ place, GivesAlike ρ S (operand tail place >>= expression)
      (operand tail place >>= expression) := by
    intro place
    apply operand_agrees
    intro t ht
    apply h t (htail t ht)
  apply operandValue_agrees h htail
  intro condition condition' hcondition
  have hthrow : GivesAlike ρ S (throw (.conditionNotTruth head condition))
      (throw (.conditionNotTruth head condition')) :=
    Relates.throw (.conditionNotTruth head hcondition)
  cases hcondition with
  | truth b =>
      cases b with
      | true => apply hbranch
      | false => apply hbranch
  | _ => exact hthrow

theorem Corresponds.negation {tail : List Tree} (htail : ∀ t ∈ tail, P t) :
  GivesAlike ρ S (negation expression tail) (negation expression tail)
  := by
  apply operandValue_agrees h htail
  intro v v' hv
  apply (expectNumber_agrees .negate hv).bind
  intro x x' hx
  apply hS.freshOrigin.bind
  intro i j hij
  apply Relates.pure (.number (hx.negate hij))

theorem Corresponds.node (limit : Nat) {head : Atom} {tail : List Tree}
    (htree : P (.node head tail)) :
  GivesAlike ρ S (node expression limit head tail) (node expression limit head tail)
  := by
  have htail := hS.operands htree
  obtain ⟨kind, datum⟩ := head
  cases kind with
  | plus | minus | times | divide | power => apply hS.chain h htree
  | negate => apply hS.negation h htail
  | assign => apply hS.assignment h limit htree
  | greater | less => apply comparison_agrees h _ htail
  | equal | notEqual => apply hS.equality h _ htail
  | block => apply block_agrees h htail
  | conditional | orConditional => apply conditional_agrees h _ htail
  | _ => apply Relates.throw (.same _)

end Rules

/-- Evaluating a tree in `P` gives alike values, or stops with alike errors, on machines related by
`S`, and leaves machines related by `S`. -/
theorem Corresponds.evalAt (depth : Nat) {tree : Tree} (htree : P tree) :
  GivesAlike ρ S (evalAt depth tree) (evalAt depth tree)
  := by
  induction depth generalizing tree with
  | zero => apply Relates.throw (.same _)
  | succ depth ih =>
      cases tree with
      | atom a => apply hS.leaf htree
      | node head tail => apply hS.node (fun _ => ih) depth htree

end Correspondence

/-! ### The same results -/

/-- Machines correspond with every origin for itself if looking up symbols, binding targets and
drawing origins match on them. -/
theorem Corresponds.ofMatches
    {S : Machine → Machine → Prop} {P : Tree → Prop}
    (operands : ∀ {head tail}, P (.node head tail) → ∀ t ∈ tail, P t)
    (hlookup : ∀ {name}, P (.atom ⟨.symbol, some (.text name)⟩) →
      Matches S (Eval.lookup name) (Eval.lookup name))
    (hbind : ∀ {datum name others},
      P (.node ⟨.assign, datum⟩ (.atom ⟨.symbol, some (.text name)⟩ :: others)) →
      ∀ value, Matches S (Eval.bind name value) (Eval.bind name value))
    (hfresh : Matches S Eval.freshOrigin Eval.freshOrigin) :
  Corresponds Eq S P
  where
  pairing := Number.pairing_eq
  operands := operands
  literal _ := Number.alike_eq_iff.mpr rfl
  lookup hname := (hlookup hname).relates .same (fun _ => Value.alike_eq_iff.mpr rfl)
  bind htarget v w hvw := by
    obtain rfl := Value.alike_eq_iff.mp hvw
    apply (hbind htarget v).relates .same (fun _ => trivial)
  freshOrigin := hfresh.relates .same (fun _ => rfl)

/-- Machines that correspond with every origin for itself give the same value or error. -/
theorem Corresponds.evalAt_matches
    {S : Machine → Machine → Prop} {P : Tree → Prop} (hS : Corresponds Eq S P) (depth : Nat)
    {tree : Tree} (htree : P tree) :
  Matches S (Eval.evalAt depth tree) (Eval.evalAt depth tree)
  := (hS.evalAt depth htree).matches EvalError.Alike.eq Value.alike_eq_iff.mp

/-- Looking a name up leaves the machine as it is. -/
theorem lookup_keeps (I : Machine → Prop) (name : String) :
  Keeps I (lookup name)
  := by
  intro m hm
  rw [EStateM.run, lookup]
  cases m.env.get? name <;> exact ⟨hm, trivial⟩

/-- If the operands of a tree in `P` are in `P`, and if binding the targets of the assignments in
`P` and drawing an origin keep `I`, then evaluating a tree in `P` keeps `I`, whether it gives a
value or stops with an error. -/
theorem evalAt_keeps
    {I : Machine → Prop} {P : Tree → Prop}
    (operands : ∀ {head tail}, P (.node head tail) → ∀ t ∈ tail, P t)
    (hbind : ∀ {datum name others},
      P (.node ⟨.assign, datum⟩ (.atom ⟨.symbol, some (.text name)⟩ :: others)) →
      ∀ value, Keeps I (bind name value))
    (hfresh : Keeps I freshOrigin) (depth : Nat) {tree : Tree} (htree : P tree) :
  Keeps I (evalAt depth tree)
  := by
  have hS : Corresponds Eq (fun m n => m = n ∧ I m) P :=
    .ofMatches operands (fun {name} _ => (lookup_keeps I name).matches)
      (fun htarget value => (hbind htarget value).matches) hfresh.matches
  apply Matches.keeps
  apply hS.evalAt_matches depth htree

end ExprScript.Eval
