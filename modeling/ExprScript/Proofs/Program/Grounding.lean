import ExprScript.Proofs.Eval.Invariant
import ExprScript.Proofs.Program.Frame
import ExprScript.Proofs.Scope.Grounding

/-!
# Programs store and give grounded values

No program spells a text, and the symbol that an assignment gives has just been bound.  Names that
are bound stay bound.  So whatever programs have run before, one after the other and from an
environment that binds nothing, no value stored or given is a text, and every symbol among them has
a name that is bound (`run_values_grounded`).
-/

open ExprScript.Parser
open ExprScript.Environment (Framed)

namespace ExprScript

/-- Names that are bound stay bound within a frame. -/
theorem Environment.Framed.contains
    {names : String → Prop} {before after : Environment} (h : Framed names before after)
    {name : String} (hname : before.contains name = true) :
  after.contains name = true
  := by
  rw [Environment.contains_iff, Environment.chain] at hname ⊢
  obtain ⟨scope, hscope, hmem⟩ := hname
  rcases List.mem_cons.mp hscope with rfl | houter
  · exact ⟨after.own, List.mem_cons_self, h.order.mem hmem⟩
  · rw [← h.outer] at houter
    exact ⟨scope, List.mem_cons_of_mem _ houter, hmem⟩

/-- Whether the tree is not the leaf of a text. -/
def Tree.IsNoText (tree : Tree) : Prop := ∀ datum, tree ≠ .atom ⟨.string, datum⟩

/-- The atom of a token is no text. -/
theorem Token.kind_ne_string_of_toAtom {token : Token} {atom : Atom}
    (h : token.toAtom = .ok atom) :
  atom.kind ≠ .string
  := by
  obtain ⟨kind, payload⟩ := token
  cases kind with
  | number | symbol =>
      rcases payload with _ | ⟨_ | _ | _ | _⟩ <;> cases h
      simp
  | _ => cases h <;> simp [Atom.ofKind]

/-- No rule makes the leaf of a text. -/
theorem Parser.MadeByRule.isNoText
    {E : Int → Reading Tree} {tree : Tree} (h : MadeByRule E tree) :
  tree.IsNoText
  := by
  rintro datum rfl
  cases h with
  | literal _ hatom => apply Token.kind_ne_string_of_toAtom hatom rfl

/-- Evaluating a tree without texts in a grounded environment leaves it grounded, and gives a value
grounded in it. -/
theorem Eval.upholds_grounded :
  Upholds (fun m => m.env.Grounded) (fun v m => v.GroundedIn m.env) (Tree.Everywhere Tree.IsNoText)
  where
  operands htree := (Tree.everywhere_node.mp htree).2
  number _ _ := trivial
  truth _ _ := trivial
  nothing _ := trivial
  text _ htree := absurd rfl (htree _ .self _)
  lookup hm hget := hm.get? hget
  bind hm hv name := ⟨hm.insert hv name, Environment.contains_insert_self _ name _⟩
  freshOrigin _ hm := ⟨hm, trivial⟩

namespace Program

/-- Running a program in a grounded environment leaves it grounded, and gives a value grounded in
it. -/
theorem run_grounded (limit : Nat) (source : String) {m : Machine} (hm : m.env.Grounded) :
  Establishes (run limit source) m (fun v m' => m'.env.Grounded ∧ v.GroundedIn m'.env)
    (fun m' => m'.env.Grounded)
  := by
  rw [Establishes]
  cases hread : (read limit source).run m.log with
  | error e log =>
      rw [run_of_read_error hread]
      exact hm
  | ok tree log =>
      have htree : tree.Everywhere Tree.IsNoText :=
        (readsAs_of_read hread).everywhere MadeByRule.isNoText
      have hvalue := Eval.upholds_grounded.evalAt limit htree { m with log := log } hm
      rw [run_of_read hread, EStateM.run, evaluate]
      rw [Establishes] at hvalue
      cases hrun : (Eval.evalAt limit tree).run { m with log := log } with
      | ok v m' =>
          rw [hrun] at hvalue
          exact hvalue
      | error e m' =>
          rw [hrun] at hvalue
          exact hvalue

/-- The machine that programs leave when they run one after the other, each with its own limit and
whether it gives a value or stops with an error. -/
def runAll (calls : List (Nat × String)) (m : Machine) : Machine :=
  calls.foldl (fun m call => finalState (run call.1 call.2) m) m

theorem runAll_grounded (calls : List (Nat × String)) {m : Machine} (hm : m.env.Grounded) :
  (runAll calls m).env.Grounded
  := by
  induction calls generalizing m with
  | nil => exact hm
  | cons call calls ih =>
      apply ih
      apply (run_grounded call.1 call.2 hm).finalState And.left

/-- Names that are bound stay bound however many programs run. -/
theorem contains_runAll
    (calls : List (Nat × String)) {m : Machine} {name : String}
    (hname : m.env.contains name = true) :
  (runAll calls m).env.contains name = true
  := by
  induction calls generalizing m with
  | nil => exact hname
  | cons call calls ih =>
      apply ih
      apply (run_framed call.1 call.2 m).contains hname

theorem outer_runAll (calls : List (Nat × String)) (m : Machine) :
  (runAll calls m).env.outer = m.env.outer
  := by
  induction calls generalizing m with
  | nil => rfl
  | cons call calls ih => exact (ih _).trans (run_framed call.1 call.2 m).outer

/-- Let `after` be the machine that programs leave which run one after the other in an environment
of a single scope that binds nothing, each with any limit, and whether they give values or stop
with errors.

* The environment is still a single scope.  Every value stored in it is a number, a truth value,
  nothing, or a symbol whose name is bound in it.
* So is every value that one more program gives, in the environment that this program leaves, and
  it remains so whatever programs run later. -/
theorem run_values_grounded (calls : List (Nat × String)) (m : Machine) :
  let after := runAll calls { m with env := .empty }
  after.env.outer = [] ∧ (∀ entry ∈ after.env.own.entries, entry.2.GroundedIn after.env) ∧
    ∀ limit source value m', (run limit source).run after = .ok value m' →
      value.GroundedIn m'.env ∧
        ∀ later, value.GroundedIn (runAll later m').env
  := by
  intro after
  have hafter : after.env.Grounded := runAll_grounded calls Environment.grounded_empty
  refine ⟨outer_runAll calls _, hafter _ List.mem_cons_self, ?_⟩
  intro limit source value m' hrun
  have hvalue := ((run_grounded limit source hafter).of_ok hrun).2
  use hvalue
  intro later
  apply hvalue.mono (contains_runAll later)

/-- The program `y = ( x = true ) z` fails, since `z` is not bound.  After it `y` gives the symbol
`x`, which is bound. -/
theorem run_values_grounded_symbol :
  ∃ m', (run 6 "y").run (runAll [(6, "y = ( x = true ) z")] (.ofEnvironment .empty)) =
      .ok (.symbol "x") m' ∧
    m'.env.contains "x" = true
  := by
  obtain ⟨hfailing, hname⟩ :
      Lexeme.split "y = ( x = true ) z" = .ok ["y", "=", "(", "x", "=", "true", ")", "z"] ∧
        Lexeme.split "y" = .ok ["y"] := ⟨by cbv, by cbv⟩
  obtain ⟨fresh, log, hafter⟩ : ∃ fresh log,
      runAll [(6, "y = ( x = true ) z")] (.ofEnvironment .empty) =
        ⟨⟨⟨[("x", .truth true), ("y", .symbol "x")], by decide⟩, []⟩, fresh, log⟩ := by
    have hread := (run_read 6 hfailing #[]).trans rfl
    rw [runAll, List.foldl_cons, List.foldl_nil, finalState, run_of_read hread]
    exact ⟨_, _, rfl⟩
  have hgrounded := run_values_grounded [(6, "y = ( x = true ) z")] (.ofEnvironment .empty)
  obtain ⟨m', hrun⟩ : ∃ m', (run 6 "y").run
      (runAll [(6, "y = ( x = true ) z")] (.ofEnvironment .empty)) = .ok (.symbol "x") m' := by
    rw [hafter, run_of_read ((run_read 6 hname log).trans rfl)]
    exact ⟨_, rfl⟩
  exact ⟨m', hrun, (hgrounded.2.2 6 "y" _ m' hrun).1⟩

end Program

end ExprScript
