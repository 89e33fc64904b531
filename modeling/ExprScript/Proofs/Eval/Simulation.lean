import ExprScript.Proofs.Eval.Correspondence

/-!
# Evaluating in related machines

An evaluation sees its machine only through looking names up, binding names and drawing origins.
If these match on machines related by `S`, for the symbols of the trees in `P`, then evaluating a
tree in `P` from related machines gives the same value or error, and related machines
(`Simulates.evalAt`).

In particular the events reported before have no part in an evaluation
(`simulates_sameBindings`).
-/

namespace ExprScript.Eval

/-- What evaluation asks of a relation `S` of machines and a class `P` of trees: an operand of a
tree in `P` is in `P`, and looking up or binding a symbol in `P` and drawing an origin match on
machines related by `S`. -/
structure Simulates (S : Machine → Machine → Prop) (P : Tree → Prop) : Prop where
  operands : ∀ {head tail}, P (.node head tail) → ∀ t ∈ tail, P t
  lookup : ∀ {name}, P (.atom ⟨.symbol, some (.text name)⟩) →
    Matches S (lookup name) (lookup name)
  bind : ∀ {name}, P (.atom ⟨.symbol, some (.text name)⟩) → ∀ value,
    Matches S (bind name value) (bind name value)
  freshOrigin : Matches S freshOrigin freshOrigin

/-- Evaluating a tree in `P` matches on machines related by `S`. -/
theorem Simulates.evalAt
    {S : Machine → Machine → Prop} {P : Tree → Prop} (hS : Simulates S P) (depth : Nat)
    {tree : Tree} (htree : P tree) :
  Matches S (evalAt depth tree) (evalAt depth tree)
  := by
  have hcorresponds : Corresponds Eq S P :=
    .ofMatches hS.operands hS.lookup
      (fun htarget => hS.bind (hS.operands htarget _ List.mem_cons_self)) hS.freshOrigin
  apply hcorresponds.evalAt_matches depth htree

/-! ### Events -/

/-- Whether two machines differ at most in the events reported so far. -/
def SameBindings (m n : Machine) : Prop := m.env = n.env ∧ m.fresh = n.fresh

/-- The events reported so far have no part in an evaluation. -/
theorem simulates_sameBindings :
  Simulates SameBindings (fun _ => True)
  where
  operands _ _ _ := trivial
  lookup {name} _ := by
    rintro ⟨env, fresh, log⟩ ⟨_, _, log'⟩ ⟨rfl, rfl⟩
    rw [EStateM.run, EStateM.run, lookup, lookup]
    cases env.get? name with
    | some value => exact .ok ⟨rfl, rfl⟩
    | none => exact .error ⟨rfl, rfl⟩
  bind _ value := by
    rintro ⟨env, fresh, log⟩ ⟨_, _, log'⟩ ⟨rfl, rfl⟩
    exact .ok ⟨rfl, rfl⟩
  freshOrigin := by
    rintro ⟨env, fresh, log⟩ ⟨_, _, log'⟩ ⟨rfl, rfl⟩
    exact .ok ⟨rfl, rfl⟩

end ExprScript.Eval
