import ExprScript.Eval.Error
import ExprScript.Event
import ExprScript.Scope.Environment

/-!
# The machine

An evaluation changes the innermost scope of its environment, hands out origins to the
undefined numbers it makes, and reports the bindings it makes. What it has done before an
error stays done.
-/

namespace ExprScript

/-- What an evaluation changes: the environment, the next origin of an undefined number,
and the events so far. -/
structure Machine where
  env : Environment
  fresh : Nat
  log : Array Event

/-- The machine with the given environment that has made no undefined number. -/
def Machine.ofEnvironment (env : Environment) : Machine :=
  ⟨env, Number.sharedOrigin + 1, #[]⟩

/-- An evaluation that may stop with an error. -/
abbrev EvalM := EStateM EvalError Machine

namespace Eval

/-- The value of a name. -/
def lookup (name : String) : EvalM Value := fun m =>
  match m.env.get? name with
  | some value => .ok value m
  | none => .error (.unbound name) m

/-- Binds a name in the innermost scope and reports it. -/
def bind (name : String) (value : Value) : EvalM Unit := fun m =>
  .ok () { m with env := m.env.insert name value, log := m.log.push (.bound name value) }

/-- An origin that no undefined number has yet. -/
def freshOrigin : EvalM Nat := fun m =>
  .ok m.fresh { m with fresh := m.fresh + 1 }

end Eval

end ExprScript
