import ExprScript.Scope.Basic

/-!
# Environments

An environment is a scope with the scopes around it, from the inside out. A name is looked
up from the inside out, and bound in the innermost scope only.
-/

namespace ExprScript

/-- The innermost scope and those around it, the nearest first. -/
structure Environment where
  own : Scope
  outer : List Scope

namespace Environment

/-- A single scope that binds nothing. -/
def empty : Environment :=
  ⟨.empty, []⟩

/-- The scopes from the inside out. -/
def chain (env : Environment) : List Scope :=
  env.own :: env.outer

/-- The value of a name: the innermost one, if any scope binds it. -/
def get? (env : Environment) (name : String) : Option Value :=
  env.chain.findSome? (fun scope => scope.get? name)

/-- Whether a name is bound. -/
def contains (env : Environment) (name : String) : Bool :=
  (env.get? name).isSome

/-- The environment with `name` bound to `value` in the innermost scope. -/
def insert (env : Environment) (name : String) (value : Value) : Environment :=
  { env with own := env.own.insert name value }

/-- A new scope inside the environment. -/
def child (env : Environment) : Environment :=
  ⟨.empty, env.chain⟩

/-- The number of scopes around the innermost one. -/
def depth (env : Environment) : Nat :=
  env.outer.length

/-- Every visible binding as one scope: the bindings of the scopes from the outside in, the
inner ones over the outer ones. -/
def bindings (env : Environment) : Scope :=
  env.chain.foldr (fun scope visible => visible.update scope) .empty

/-- Every visible binding, if no more than `limit` scopes are around the innermost one. -/
def bindings? (limit : Nat) (env : Environment) : Option Scope :=
  if env.depth ≤ limit then some env.bindings else none

/-- The environment as written: its own bindings and its depth. -/
def description (env : Environment) : String :=
  "Environment(\x7b" ++ Scope.entriesText env.own.entries ++ "\x7d, depth="
    ++ Text.decimal env.depth ++ ")"

end Environment

end ExprScript
