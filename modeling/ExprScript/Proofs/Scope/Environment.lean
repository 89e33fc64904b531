import ExprScript.Proofs.Scope.Insertion
import ExprScript.Scope.Environment

/-!
# Binding names in an environment

Binding a name changes what the environment gives for it and for no other name (`get?_insert`).

The visible bindings of an environment give for a name what the environment gives for it
(`get?_bindings`), binding a name binds it among the visible bindings (`bindings_insert`), and the
scope of the visible bindings on its own has the same visible bindings (`bindings_single`), all with
the same order of names.
-/

namespace ExprScript.Environment

/-- An environment with a name bound gives the value for it, and what it gave before for any other
name. -/
theorem get?_insert (env : Environment) (name : String) (value : Value) (key : String) :
  (env.insert name value).get? key = if key = name then some value else env.get? key
  := by
  rw [Environment.get?, Environment.get?, chain, chain, Environment.insert,
    List.findSome?_cons, List.findSome?_cons, Scope.get?_insert]
  by_cases hkey : key = name
  · rw [if_pos hkey, if_pos hkey]
  · rw [if_neg hkey, if_neg hkey]

/-! ### Visible bindings -/

/-- The visible bindings of an environment give for a name what the environment gives for it. -/
theorem get?_bindings (env : Environment) (name : String) :
  env.bindings.get? name = env.get? name
  := by
  rw [bindings, Environment.get?]
  induction env.chain with
  | nil => rfl
  | cons scope scopes ih =>
      rw [List.foldr_cons, Scope.get?_update, ih, List.findSome?_cons]
      cases scope.get? name <;> rfl

/-- Binding a name binds it among the visible bindings. -/
theorem bindings_insert (env : Environment) (name : String) (value : Value) :
  (env.insert name value).bindings = env.bindings.insert name value
  := Scope.update_insert _ env.own name value

/-- The visible bindings of a scope on its own are its bindings. -/
theorem bindings_single (s : Scope) :
  bindings ⟨s, []⟩ = s
  := Scope.empty_update s

end ExprScript.Environment
