import ExprScript.Eval.Basic
import ExprScript.Proofs.Eval.Correspondence
import ExprScript.Proofs.Outcome

/-!
# Invariants of machines and values

Let `I` be a property of machines, `V` a property of values in a machine, and `P` a class of trees.
Suppose that numbers, truth values and nothing are in `V`, that looking up a name gives a value in
`V`, and that binding a name to a value in `V` and drawing an origin stay in `I`, with the symbol of
the name in `V` after it was bound.  Then evaluating a tree in `P` stays in `I`, whether it gives a
value or stops with an error, and a value that it gives is in `V` in the machine that it leaves
(`Upholds.evalAt`).
-/

namespace ExprScript.Eval

/-- Whether the evaluation stays in `I`, and gives values that are in `V` in the machine it
leaves. -/
abbrev Yields (I : Machine → Prop) (V : Value → Machine → Prop) (x : EvalM Value) : Prop :=
  ∀ m, I m → Establishes x m (fun v m' => I m' ∧ V v m') I

/-- What evaluation asks of a property `I` of machines, a property `V` of values in a machine and a
class `P` of trees. -/
structure Upholds (I : Machine → Prop) (V : Value → Machine → Prop) (P : Tree → Prop) :
    Prop where
  operands : ∀ {head tail}, P (.node head tail) → ∀ t ∈ tail, P t
  number : ∀ {m}, I m → ∀ x, V (.number x) m
  truth : ∀ {m}, I m → ∀ b, V (.truth b) m
  nothing : ∀ {m}, I m → V .nothing m
  text : ∀ {m s}, I m → P (.atom ⟨.string, some (.text s)⟩) → V (.text s) m
  lookup : ∀ {m name v}, I m → m.env.get? name = some v → V v m
  bind : ∀ {m v}, I m → V v m → ∀ name,
    Establishes (bind name v) m (fun _ m' => I m' ∧ V (.symbol name) m') I
  freshOrigin : Keeps I freshOrigin

section Upholds

variable {I : Machine → Prop} {V : Value → Machine → Prop} {P : Tree → Prop}

/-! ### Operands and operations -/

/-- The operand at a place, if there is one, is passed on. -/
theorem operand_establishes
    {tail : List Tree} {place : Nat} {α : Type} {Q : α → Machine → Prop} {f : Tree → EvalM α}
    {m : Machine} (hm : I m) (hf : ∀ t ∈ tail, Establishes (f t) m Q I) :
  Establishes (operand tail place >>= f) m Q I
  := by
  unfold operand
  cases hplace : tail[place]? with
  | some t => apply hf t (List.mem_of_getElem? hplace)
  | none => apply Establishes.throw hm

/-- A number is passed on. -/
theorem expectNumber_establishes
    {operation : AtomKind} {v : Value} {α : Type} {Q : α → Machine → Prop} {f : Number → EvalM α}
    {m : Machine} (hm : I m) (hf : ∀ x, Establishes (f x) m Q I) :
  Establishes (expectNumber operation v >>= f) m Q I
  := by
  cases v with
  | number x => apply hf
  | _ => apply Establishes.throw hm

variable (hI : Upholds I V P)
include hI

/-- An origin is drawn and passed on. -/
theorem Upholds.withOrigin
    {α : Type} {Q : α → Machine → Prop} {f : Nat → EvalM α} {m : Machine} (hm : I m)
    (hf : ∀ origin m', I m' → Establishes (f origin) m' Q I) :
  Establishes (Eval.freshOrigin >>= f) m Q I
  := by
  apply hf
  apply (hI.freshOrigin.of_ok hm rfl).1

theorem Upholds.lookup_yields (name : String) :
  Yields I V (Eval.lookup name)
  := by
  intro m hm
  rw [Establishes, EStateM.run, Eval.lookup]
  cases hname : m.env.get? name with
  | some v => exact ⟨hm, hI.lookup hm hname⟩
  | none => exact hm

theorem Upholds.leaf {a : Atom} (ha : P (.atom a)) :
  Yields I V (leaf a)
  := by
  intro m hm
  obtain ⟨kind, datum⟩ := a
  cases kind with
  | symbol =>
      rcases datum with _ | ⟨name | x⟩
      · apply Establishes.throw hm
      · apply hI.lookup_yields name m hm
      · apply Establishes.throw hm
  | number =>
      rcases datum with _ | ⟨s | x⟩
      · apply Establishes.throw hm
      · apply Establishes.throw hm
      · apply Establishes.pure ⟨hm, hI.number hm x⟩
  | string =>
      rcases datum with _ | ⟨s | x⟩
      · apply Establishes.throw hm
      · apply Establishes.pure ⟨hm, hI.text hm ha⟩
      · apply Establishes.throw hm
  | truth => apply Establishes.pure ⟨hm, hI.truth hm true⟩
  | falsity => apply Establishes.pure ⟨hm, hI.truth hm false⟩
  | nothing => apply Establishes.pure ⟨hm, hI.nothing hm⟩
  | _ => apply Establishes.throw hm

theorem Upholds.arithmetic (operation : AtomKind) (left right : Value) :
  Yields I V (arithmetic operation left right)
  := by
  intro m hm
  unfold Eval.arithmetic
  split
  · apply hI.withOrigin hm
    intro origin m' hm'
    apply Establishes.pure ⟨hm', hI.number hm' _⟩
  · apply Establishes.throw hm

/-! ### The rules -/

section Rules

variable {expression : Tree → EvalM Value} (h : ∀ t, P t → Yields I V (expression t))
include h

theorem Upholds.climb
    {links : List Link} (hlinks : ∀ link ∈ links, ∀ second ∈ link.second, P second)
    {result : Value} {m : Machine} (hm : I m) (hresult : V result m) :
  Establishes (climb expression links result) m (fun v m' => I m' ∧ V v m') I
  := by
  induction links generalizing result m with
  | nil => apply Establishes.pure ⟨hm, hresult⟩
  | cons link links ih =>
      rw [List.forall_mem_cons] at hlinks
      unfold Eval.climb
      cases hsecond : link.second with
      | none => apply Establishes.throw hm
      | some second =>
          apply (h second (hlinks.1 second hsecond) m hm).bind
          rintro left m₁ ⟨hm₁, -⟩
          apply (hI.arithmetic link.operation left result m₁ hm₁).bind
          rintro next m₂ ⟨hm₂, hnext⟩
          apply ih hlinks.2 hm₂ hnext

theorem Upholds.chain {tree : Tree} (htree : P tree) :
  Yields I V (chain expression tree)
  := by
  intro m hm
  unfold Eval.chain
  cases hchain : chainOf [] tree with
  | none => apply Establishes.throw hm
  | some chained =>
      obtain ⟨links, inner⟩ := chained
      obtain ⟨hinner, hlinks⟩ := chainOf_operands hI.operands hchain htree (by simp)
      apply (h inner hinner m hm).bind
      rintro result m' ⟨hm', hresult⟩
      apply hI.climb h hlinks hm' hresult

omit hI in
theorem block_yields {trees : List Tree} (htrees : ∀ t ∈ trees, P t) :
  Yields I V (block expression trees)
  := by
  induction trees with
  | nil => exact fun m hm => Establishes.throw hm
  | cons first rest ih =>
      rw [List.forall_mem_cons] at htrees
      cases rest with
      | nil => apply h first htrees.1
      | cons second rest =>
          intro m hm
          apply (h first htrees.1 m hm).bind
          rintro _ m' ⟨hm', -⟩
          apply ih htrees.2 m' hm'

omit hI in
/-- The operand at a place of the tail is evaluated before what comes next. -/
theorem operandValue_establishes
    {tail : List Tree} (htail : ∀ t ∈ tail, P t) {place : Nat} {α : Type}
    {Q : α → Machine → Prop} {f : Value → EvalM α} {m : Machine} (hm : I m)
    (hf : ∀ v m', I m' → V v m' → Establishes (f v) m' Q I) :
  Establishes (operand tail place >>= fun t => expression t >>= f) m Q I
  := by
  apply operand_establishes hm
  intro t ht
  apply (h t (htail t ht) m hm).bind
  rintro v m' ⟨hm', hv⟩
  apply hf v m' hm' hv

theorem Upholds.assignment (limit : Nat) {tail : List Tree} (htail : ∀ t ∈ tail, P t) :
  Yields I V (assignment expression limit tail)
  := by
  intro m hm
  apply operandValue_establishes h htail hm
  intro v m' hm' hv
  apply operand_establishes hm'
  intro target _
  split
  · apply (hI.bind hm' hv _).bind
    intro _ m'' hbound
    exact Establishes.pure hbound
  · apply Establishes.throw hm'
  · split <;> apply Establishes.throw hm'

theorem Upholds.comparison (operation : AtomKind) {tail : List Tree} (htail : ∀ t ∈ tail, P t) :
  Yields I V (comparison expression operation tail)
  := by
  intro m hm
  apply operandValue_establishes h htail hm
  intro _ m₁ hm₁ _
  apply expectNumber_establishes hm₁
  intro _
  apply operandValue_establishes h htail hm₁
  intro _ m₂ hm₂ _
  apply expectNumber_establishes hm₂
  intro _
  apply Establishes.pure ⟨hm₂, hI.truth hm₂ _⟩

theorem Upholds.equality (operation : AtomKind) {tail : List Tree} (htail : ∀ t ∈ tail, P t) :
  Yields I V (equality expression operation tail)
  := by
  intro m hm
  apply operandValue_establishes h htail hm
  intro _ m₁ hm₁ _
  apply operandValue_establishes h htail hm₁
  intro _ m₂ hm₂ _
  apply Establishes.pure ⟨hm₂, hI.truth hm₂ _⟩

omit hI in
theorem conditional_yields (head : AtomKind) {tail : List Tree} (htail : ∀ t ∈ tail, P t) :
  Yields I V (conditional expression head tail)
  := by
  have hbranch : ∀ place, Yields I V (operand tail place >>= expression) := by
    intro place m hm
    apply operand_establishes hm
    intro t ht
    apply h t (htail t ht) m hm
  intro m hm
  apply operandValue_establishes h htail hm
  intro condition m' hm' _
  split
  · apply hbranch _ m' hm'
  · apply hbranch _ m' hm'
  · apply Establishes.throw hm'

theorem Upholds.negation {tail : List Tree} (htail : ∀ t ∈ tail, P t) :
  Yields I V (negation expression tail)
  := by
  intro m hm
  apply operandValue_establishes h htail hm
  intro _ m₁ hm₁ _
  apply expectNumber_establishes hm₁
  intro _
  apply hI.withOrigin hm₁
  intro _ m₂ hm₂
  apply Establishes.pure ⟨hm₂, hI.number hm₂ _⟩

theorem Upholds.node (limit : Nat) {head : Atom} {tail : List Tree} (htree : P (.node head tail)) :
  Yields I V (node expression limit head tail)
  := by
  have htail := hI.operands htree
  obtain ⟨kind, datum⟩ := head
  cases kind with
  | plus | minus | times | divide | power => apply hI.chain h htree
  | negate => apply hI.negation h htail
  | assign => apply hI.assignment h limit htail
  | greater | less => apply hI.comparison h _ htail
  | equal | notEqual => apply hI.equality h _ htail
  | block => apply block_yields h htail
  | conditional | orConditional => apply conditional_yields h _ htail
  | _ => exact fun m hm => Establishes.throw hm

end Rules

/-- Evaluating a tree in `P` stays in `I`, and a value that it gives is in `V`. -/
theorem Upholds.evalAt (depth : Nat) {tree : Tree} (htree : P tree) :
  Yields I V (evalAt depth tree)
  := by
  induction depth generalizing tree with
  | zero => exact fun m hm => Establishes.throw hm
  | succ depth ih =>
      cases tree with
      | atom a => apply hI.leaf htree
      | node head tail => apply hI.node (fun _ => ih) depth htree

end Upholds

end ExprScript.Eval
