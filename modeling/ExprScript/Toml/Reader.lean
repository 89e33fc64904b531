/-!
# Readers

A reader takes what it reads off the front of the characters of a document. It fails when
they do not have the form it reads, and then something else may be read in their place. It
gives the whole document up when a number has too many digits or values nest too deep.
-/

namespace ExprScript.Toml

/-- Why the reading of a document is given up. -/
inductive Surrender where
  | numberTooLong
  | tooDeep
  deriving DecidableEq

/-- What a reading comes to. -/
inductive Attempt (α : Type) where
  | ok (result : α)
  | malformed
  | surrendered (cause : Surrender)

namespace Attempt

/-- What the attempt comes to when it is followed by another. -/
def andThen {α β : Type} (attempt : Attempt α) (next : α → Attempt β) : Attempt β :=
  match attempt with
  | .ok result => next result
  | .malformed => .malformed
  | .surrendered cause => .surrendered cause

/-- The attempt, or the other one if it fails. An attempt given up stays so. -/
def orElse {α : Type} (attempt : Attempt α) (other : Unit → Attempt α) : Attempt α :=
  match attempt with
  | .malformed => other ()
  | _ => attempt

/-- The attempt that gives the result, if there is one. -/
def ofOption {α : Type} : Option α → Attempt α
  | some result => .ok result
  | none => .malformed

end Attempt

instance : Monad Attempt where
  pure := .ok
  bind := .andThen

instance : Alternative Attempt where
  failure := .malformed
  orElse := .orElse

instance : MonadLift Option Attempt where
  monadLift := .ofOption

/-- A reader of the characters of a document. -/
abbrev Reader := StateT (List Char) Attempt

/-- Gives the document up. -/
def surrender {α : Type} (cause : Surrender) : Reader α := fun _ =>
  .surrendered cause

/-- The next character, if any, which stays the next. -/
def peek? : Reader (Option Char) :=
  return (← get).head?

/-- Reads the next character. -/
def next : Reader Char := fun cs =>
  match cs with
  | [] => .malformed
  | c :: rest => .ok (c, rest)

/-- Reads all characters up to the first that is not accepted. -/
def takeWhile (accepts : Char → Bool) : Reader (List Char) := fun cs =>
  .ok (cs.takeWhile accepts, cs.dropWhile accepts)

/-- Reads the given characters, if they come next. -/
def tryTake (expected : List Char) : Reader Bool := fun cs =>
  if expected.isPrefixOf cs then .ok (true, cs.drop expected.length) else .ok (false, cs)

/-- Reads the given characters. -/
def take (expected : List Char) : Reader Unit := do
  guard (← tryTake expected)

end ExprScript.Toml
