import ExprScript.Program
import ExprScript.Proofs.Eval.Correspondence
import ExprScript.Proofs.Scope.Environment
import ExprScript.Proofs.Tree.Occurrence
import Mathlib.Data.Set.Insert

/-!
# Evaluation sees an environment through its look-ups

Evaluating a tree on two machines gives the same value or error if their environments give the same
for every name that the tree mentions, whatever the scopes of the environments are, and afterwards
they again give the same for these names (`evaluate_coincides`).  The undefined numbers that the two
evaluations make may have different origins, which are then paired one by one.

In particular the scopes of an environment may be replaced by one that holds its visible bindings.
-/

namespace ExprScript

/-- Errors of evaluation that are alike. -/
inductive Error.Alike (ρ : Nat → Nat → Prop) : Error → Error → Prop
  | eval {cause cause' : EvalError} :
      cause.Alike ρ cause' → Error.Alike ρ (.eval cause) (.eval cause')

theorem Error.Alike.eq {e f : Error} (h : e.Alike Eq f) :
  e = f
  := by
  obtain ⟨hcause⟩ := h
  rw [hcause.eq]

theorem Error.Alike.message {ρ : Nat → Nat → Prop} {e f : Error} (h : e.Alike ρ f) :
  e.message = f.message
  := by
  obtain ⟨hcause⟩ := h
  apply hcause.message

theorem Error.Alike.title {ρ : Nat → Nat → Prop} {e f : Error} (h : e.Alike ρ f) :
  e.title = f.title
  := by
  obtain ⟨hcause⟩ := h
  apply hcause.title

/-- Evaluating a tree in `P` gives alike values, or stops with alike errors, on corresponding
machines. -/
theorem Eval.Corresponds.evaluate
    {ρ : Nat → Nat → Prop} {S : Machine → Machine → Prop} {P : Tree → Prop}
    (hS : Eval.Corresponds ρ S P) (limit : Nat) {tree : Tree} (htree : P tree) :
  Relates S (Error.Alike ρ) (Value.Alike ρ) (Program.evaluate limit tree)
    (Program.evaluate limit tree)
  := by
  intro m n hmn
  have houtcome := hS.evalAt limit htree m n hmn
  rw [EStateM.run, EStateM.run, Program.evaluate, Program.evaluate]
  generalize (Eval.evalAt limit tree).run m = outcome at houtcome
  generalize (Eval.evalAt limit tree).run n = outcome' at houtcome
  cases houtcome with
  | ok hvalue hmn' => apply RelatedOutcome.ok hvalue hmn'
  | error hcause hmn' => apply RelatedOutcome.error (.eval hcause) hmn'

namespace Machine

/-! ### Agreement on names -/

/-- Whether two machines give alike values, or both none, for the names, and draw origins from now
on that are paired one by one. -/
structure AgreeOn (ρ : Nat → Nat → Prop) (names : Set String) (m n : Machine) : Prop where
  fresh : ∀ k, ρ (m.fresh + k) (n.fresh + k)
  get : ∀ name ∈ names, Option.Rel (Value.Alike ρ) (m.env.get? name) (n.env.get? name)

theorem agreeOn_eq_iff {names : Set String} {m n : Machine} :
  AgreeOn Eq names m n ↔
    m.fresh = n.fresh ∧ ∀ name ∈ names, m.env.get? name = n.env.get? name
  := by
  constructor
  · rintro ⟨hfresh, hget⟩
    refine ⟨hfresh 0, ?_⟩
    intro name hname
    have hrel := hget name hname
    generalize m.env.get? name = v at hrel
    generalize n.env.get? name = w at hrel
    cases hrel with
    | some hvalue => rw [Value.alike_eq_iff.mp hvalue]
    | none => rfl
  · rintro ⟨hfresh, hget⟩
    constructor
    · intro k
      rw [hfresh]
    · intro name hname
      rw [hget name hname]
      cases n.env.get? name with
      | some value => exact .some (Value.alike_eq_iff.mpr rfl)
      | none => exact .none

/-- Machines that agree on the names that a tree mentions correspond for that tree. -/
theorem agreeOn_corresponds
    {ρ : Nat → Nat → Prop} (hρ : Number.Pairing ρ) {tree : Tree} {names : Set String}
    (hnames : ∀ name, tree.Mentions name → name ∈ names)
    (hliterals : ∀ i, Tree.OccursIn (.atom ⟨.number, some (.number (.undefined i))⟩) tree → ρ i i) :
  Eval.Corresponds ρ (AgreeOn ρ names) (fun t => t.OccursIn tree)
  where
  pairing := hρ
  operands htail t ht := htail.of_mem ht
  literal {x} hx := by
    cases x with
    | finite negative rank => apply Number.Alike.finite
    | infinite negative => apply Number.Alike.infinite
    | undefined i => apply Number.Alike.undefined (hliterals i hx)
  lookup {name} hname := by
    intro m n hmn
    have hrel := hmn.get name (hnames name hname)
    rw [EStateM.run, EStateM.run, Eval.lookup, Eval.lookup]
    generalize m.env.get? name = v at hrel
    generalize n.env.get? name = w at hrel
    cases hrel with
    | some hvalue => exact .ok hvalue hmn
    | none => exact .error (.same _) hmn
  bind {datum name others} _ {v w} hvw := by
    intro m n hmn
    refine .ok trivial ⟨hmn.fresh, ?_⟩
    intro key hkey
    rw [Environment.get?_insert, Environment.get?_insert]
    split
    · exact .some hvw
    · apply hmn.get key hkey
  freshOrigin := by
    intro m n hmn
    refine .ok (hmn.fresh 0) ⟨?_, hmn.get⟩
    intro k
    rw [Nat.add_assoc, Nat.add_assoc]
    apply hmn.fresh

/-! ### The same visible bindings -/

/-- Whether two machines have the same visible bindings and the same next origin. -/
structure SameVisible (m n : Machine) : Prop where
  fresh : m.fresh = n.fresh
  bindings : m.env.bindings = n.env.bindings

/-- Machines with the same visible bindings correspond for every tree. -/
theorem sameVisible_corresponds :
  Eval.Corresponds Eq SameVisible (fun _ => True)
  := by
  apply Eval.Corresponds.ofMatches
  · intros
    trivial
  · intro name _ m n hmn
    have hget : m.env.get? name = n.env.get? name := by
      rw [← Environment.get?_bindings, hmn.bindings, Environment.get?_bindings]
    rw [EStateM.run, EStateM.run, Eval.lookup, Eval.lookup, hget]
    cases n.env.get? name with
    | some value => exact .ok hmn
    | none => exact .error hmn
  · intro datum name others _ value m n hmn
    apply SameOutcome.ok
    refine ⟨hmn.fresh, ?_⟩
    rw [Environment.bindings_insert, hmn.bindings, Environment.bindings_insert]
  · intro m n hmn
    rw [EStateM.run, EStateM.run, Eval.freshOrigin, Eval.freshOrigin, hmn.fresh]
    apply SameOutcome.ok
    exact ⟨rfl, hmn.bindings⟩

/-- A machine has the same visible bindings with its scopes replaced by one that holds them. -/
theorem sameVisible_single (m : Machine) :
  SameVisible m { m with env := ⟨m.env.bindings, []⟩ }
  where
  fresh := rfl
  bindings := (Environment.bindings_single m.env.bindings).symm

end Machine

namespace Program

open Machine (AgreeOn)

/-- Let `names` hold every name that the tree mentions.

* Let `ρ` be a pairing of origins that pairs the undefined numbers in the tree with themselves.  If
  two machines give alike values, or both none, for the `names`, and draw origins paired by `ρ` from
  now on, then evaluating the tree on them gives alike values, or stops with alike errors, which
  belong to the same class and have the same message.  The machines left agree in the same way.
* If two machines have the same next origin and give the same for the `names`, then evaluating the
  tree on them gives the same value or stops with the same error, and the machines left give the
  same for the `names`.
* Evaluating the tree on a machine and on the machine with a single scope that holds the visible
  bindings gives the same value or stops with the same error, and the machines left have the same
  visible bindings. -/
theorem evaluate_coincides
    (limit : Nat) {tree : Tree} {names : Set String}
    (hnames : ∀ name, tree.Mentions name → name ∈ names) :
  (∀ ρ, Number.Pairing ρ →
      (∀ i, Tree.OccursIn (.atom ⟨.number, some (.number (.undefined i))⟩) tree → ρ i i) →
      ∀ m n, AgreeOn ρ names m n →
        RelatedOutcome (AgreeOn ρ names)
          (fun e f => e.Alike ρ f ∧ e.title = f.title ∧ e.message = f.message) (Value.Alike ρ)
          ((evaluate limit tree).run m) ((evaluate limit tree).run n)) ∧
    (∀ m n : Machine, m.fresh = n.fresh →
      (∀ name ∈ names, m.env.get? name = n.env.get? name) →
      SameOutcome
        (fun m' n' => m'.fresh = n'.fresh ∧
          ∀ name ∈ names, m'.env.get? name = n'.env.get? name)
        ((evaluate limit tree).run m) ((evaluate limit tree).run n)) ∧
    ∀ m : Machine,
      SameOutcome (fun m' n' => m'.env.bindings = n'.env.bindings)
        ((evaluate limit tree).run m)
        ((evaluate limit tree).run { m with env := ⟨m.env.bindings, []⟩ })
  := by
  refine ⟨?_, ?_, ?_⟩
  · intro ρ hρ hliterals m n hmn
    have hS := Machine.agreeOn_corresponds hρ hnames hliterals
    apply (hS.evaluate limit .self m n hmn).mono
    intro e f hef
    exact ⟨hef, hef.title, hef.message⟩
  · intro m n hfresh hget
    have hS := Machine.agreeOn_corresponds Number.pairing_eq hnames (fun _ _ => rfl)
    have hmn : AgreeOn Eq names m n := Machine.agreeOn_eq_iff.mpr ⟨hfresh, hget⟩
    apply SameOutcome.mono Machine.agreeOn_eq_iff.mp
    apply (hS.evaluate limit .self).matches Error.Alike.eq Value.alike_eq_iff.mp m n hmn
  · intro m
    apply SameOutcome.mono Machine.SameVisible.bindings
    apply (Machine.sameVisible_corresponds.evaluate limit trivial).matches Error.Alike.eq
      Value.alike_eq_iff.mp
    apply Machine.sameVisible_single

/-- On one machine `y` is bound outside and on the other inside, to undefined numbers of different
origins, and the machines differ on `z`.  Evaluating `x = y` and then `x == y` gives true on the
one, and so it does on the other, with `x` bound to an undefined number of the paired origin. -/
theorem evaluate_coincides_undefined :
  ∃ n', (evaluate 3 (.node (.ofKind .block)
      [.node (.ofKind .assign)
        [.atom ⟨.symbol, some (.text "x")⟩, .atom ⟨.symbol, some (.text "y")⟩],
      .node (.ofKind .equal)
        [.atom ⟨.symbol, some (.text "x")⟩, .atom ⟨.symbol, some (.text "y")⟩]])).run
        ⟨⟨⟨[("y", .number (.undefined 7)), ("z", .truth true)], by decide⟩, []⟩, 9, #[]⟩ =
      .ok (.truth true) n' ∧
    n'.env.get? "x" = some (.number (.undefined 7))
  := by
  let tree : Tree := .node (.ofKind .block)
    [.node (.ofKind .assign)
      [.atom ⟨.symbol, some (.text "x")⟩, .atom ⟨.symbol, some (.text "y")⟩],
    .node (.ofKind .equal)
      [.atom ⟨.symbol, some (.text "x")⟩, .atom ⟨.symbol, some (.text "y")⟩]]
  let ρ (i j : Nat) : Prop := i = 0 ∧ j = 0 ∨ i = 3 ∧ j = 7 ∨ 5 ≤ i ∧ j = i + 4
  let m : Machine :=
    ⟨⟨⟨[("z", .nothing)], by decide⟩, [⟨[("y", .number (.undefined 3))], by decide⟩]⟩, 5, #[]⟩
  let n : Machine :=
    ⟨⟨⟨[("y", .number (.undefined 7)), ("z", .truth true)], by decide⟩, []⟩, 9, #[]⟩
  have hρ : Number.Pairing ρ := by
    constructor
    · intro i i' j j' hi hj
      simp only [ρ] at hi hj
      omega
    · exact .inl ⟨rfl, rfl⟩
  have hmn : AgreeOn ρ {"x", "y"} m n := by
    constructor
    · intro k
      exact .inr (.inr ⟨by simp [m], by simp [m, n]; omega⟩)
    · rintro name (rfl | rfl)
      · exact .none
      · exact .some (.number (.undefined (.inr (.inl ⟨rfl, rfl⟩))))
  have hnames : ∀ name, tree.Mentions name → name ∈ ({"x", "y"} : Set String) := by
    intro name hname
    simpa [tree, Tree.Mentions, Tree.atom_occursIn_node, Tree.occursIn_atom, eq_comm] using hname
  have hliterals (i : Nat) :
      Tree.OccursIn (.atom ⟨.number, some (.number (.undefined i))⟩) tree → ρ i i := by
    simp [tree, Tree.atom_occursIn_node, Tree.occursIn_atom]
  have hrun : ∃ m', (evaluate 3 tree).run m = .ok (.truth true) m' ∧
      m'.env.get? "x" = some (.number (.undefined 3)) := ⟨_, rfl, rfl⟩
  obtain ⟨m', hm, hx⟩ := hrun
  have h := (evaluate_coincides 3 hnames).1 ρ hρ hliterals m n hmn
  rw [hm] at h
  generalize (evaluate 3 tree).run n = outcome at h ⊢
  obtain @⟨_, _, _, n', ⟨⟩, hmn'⟩ := h
  refine ⟨n', rfl, ?_⟩
  have hrel := hmn'.get "x" (.inl rfl)
  rw [hx] at hrel
  generalize n'.env.get? "x" = value at hrel ⊢
  obtain ⟨⟨hnumber⟩⟩ := hrel
  cases hnumber with | @undefined _ j hj
  have hj : j = 7 := by
    simp only [ρ] at hj
    omega
  rw [hj]

end Program

end ExprScript
