import ExprScript.Proofs.Eval.Correspondence
import ExprScript.Proofs.Program.Reading
import ExprScript.Proofs.Scope.Insertion
import ExprScript.Proofs.Tree.Occurrence

/-!
# What an evaluation leaves alone

Whether it gives a value or stops with an error, evaluating a tree leaves the scopes around the
innermost one as they are.  In the innermost scope it leaves the names in their places, and it binds
or changes only names to which the tree assigns (`evaluate_frame`).  Running a program does the same
with the tree as which it is read (`run_framed`).
-/

namespace ExprScript

/-- What binding no other names than `names` may change of an environment: the innermost scope,
where names that are bound stay in their places, and new names come after them. -/
structure Environment.Framed (names : String → Prop) (before after : Environment) : Prop where
  outer : after.outer = before.outer
  order : before.own.names <+: after.own.names
  written : ∀ name, after.own.get? name ≠ before.own.get? name → names name

namespace Environment.Framed

theorem refl (names : String → Prop) (env : Environment) :
  Framed names env env
  where
  outer := rfl
  order := List.prefix_rfl
  written _ hne := absurd rfl hne

/-- Binding one of the names is within the frame. -/
theorem insert
    {names : String → Prop} {before after : Environment} (h : Framed names before after)
    {name : String} (hname : names name) (value : Value) :
  Framed names before (after.insert name value)
  := by
  constructor
  · exact h.outer
  · apply h.order.trans
    rw [Environment.insert, Scope.names_insert]
    split
    · apply List.prefix_rfl
    · apply List.prefix_append
  · intro key hne
    rw [Environment.insert, Scope.get?_insert] at hne
    split at hne
    · next hkey => rwa [hkey]
    · apply h.written key hne

theorem mono
    {names names' : String → Prop} (hnames : ∀ name, names name → names' name)
    {before after : Environment} (h : Framed names before after) :
  Framed names' before after
  where
  outer := h.outer
  order := h.order
  written name hne := hnames name (h.written name hne)

end Environment.Framed

open Environment (Framed)

/-- Evaluating a tree binds no other names than those to which it assigns. -/
theorem Eval.evalAt_keeps_framed (depth : Nat) (tree : Tree) (env : Environment) :
  Keeps (fun m => Framed tree.Assigns env m.env) (Eval.evalAt depth tree)
  := by
  apply Eval.evalAt_keeps (P := fun t => t.OccursIn tree)
  · intro head tail htail t ht
    apply htail.of_mem ht
  · intro datum name others htarget value m hm
    exact ⟨hm.insert ⟨datum, others, htarget⟩ value, trivial⟩
  · intro m hm
    exact ⟨hm, trivial⟩
  · apply Tree.OccursIn.self

namespace Program

theorem finalState_evaluate (limit : Nat) (tree : Tree) (m : Machine) :
  finalState (evaluate limit tree) m = finalState (Eval.evalAt limit tree) m
  := by
  rw [finalState, finalState, EStateM.run, evaluate]
  cases (Eval.evalAt limit tree).run m <;> rfl

theorem evaluate_framed (limit : Nat) (tree : Tree) (m : Machine) :
  Framed tree.Assigns m.env (finalState (evaluate limit tree) m).env
  := by
  rw [finalState_evaluate]
  apply (Eval.evalAt_keeps_framed limit tree m.env).finalState
  apply Framed.refl

/-- Running a source binds no other names than those to which the tree of the source assigns. -/
theorem run_framed (limit : Nat) (source : String) (m : Machine) :
  Framed (fun name => ∃ tree, ReadsAs limit source tree ∧ tree.Assigns name) m.env
    (finalState (run limit source) m).env
  := by
  rw [finalState]
  cases hread : (read limit source).run m.log with
  | ok tree log =>
      rw [run_of_read hread]
      apply (evaluate_framed limit tree { m with log := log }).mono
      intro name hname
      exact ⟨tree, readsAs_of_read hread, hname⟩
  | error e log =>
      rw [run_of_read_error hread]
      apply Framed.refl

/-- For every tree and every machine, let `after` be the environment that evaluating the tree
leaves, whether it gives a value or stops with an error.

* The scopes around the innermost one are the same as before.
* The names bound in the innermost scope before are still bound there, in the same places.
* If the innermost scope gives for a name something else than before, then a symbol with that name
  is the first operand of an assignment that occurs in the tree. -/
theorem evaluate_frame (limit : Nat) (tree : Tree) (m : Machine) :
  let after := (finalState (evaluate limit tree) m).env
  after.outer = m.env.outer ∧ m.env.own.names <+: after.own.names ∧
    ∀ name, after.own.get? name ≠ m.env.own.get? name → tree.Assigns name
  := by
  have h := evaluate_framed limit tree m
  exact ⟨h.outer, h.order, h.written⟩

end Program

end ExprScript
