import ExprScript.Eval.Basic
import ExprScript.Grammar.Parser
import ExprScript.Token.Classify
import ExprScript.Token.Lexeme

/-!
# Programs

A program is read from its source, cut into lexemes, typed and parsed as one block, and
then evaluated. It is read as a whole before anything of it is evaluated.
-/

namespace ExprScript

/-- Why a program fails. -/
inductive Error where
  | character (cause : Source.InvalidCharacter)
  | parse (cause : ParseError)
  | eval (cause : EvalError)

namespace Error

/-- The error in words. -/
def message : Error → String
  | .character cause => cause.text
  | .parse cause => cause.message
  | .eval cause => cause.message

/-- The name of the class of errors to which the error belongs. -/
def title : Error → String
  | .character _ => "InvalidCharacterError"
  | .parse _ => "ParseError"
  | .eval cause => cause.title

end Error

/-- Reading a program, with the events so far. -/
abbrev ReadM := EStateM Error (Array Event)

namespace Program

/-- How deep expressions may nest. -/
def nestingLimit : Nat := 400

/-- The lexemes of a source. -/
def lexemes (source : String) : ReadM (List String) :=
  match Lexeme.split source with
  | .error cause => throw (.character cause)
  | .ok texts => do
    modify (·.push (.tokenized texts.length))
    return texts

/-- The block of all expressions of a source. -/
def read (limit : Nat) (source : String) : ReadM Tree := do
  let tokens := Token.ofLexemes (← lexemes source)
  fun log =>
    match (Parser.parseProgram limit).run ⟨tokens, 0, log⟩ with
    | .ok tree s => .ok tree s.log
    | .error cause s => .error (.parse cause) s.log

/-- A reading whose events are put in words as they occur. It fails where the condition of
a conditional is too high to be written. -/
def verbose {α : Type} (limit : Nat) (reading : ReadM α) : ReadM α := fun log =>
  match reading.run log with
  | .ok a after =>
    if after.all (·.isWritable limit) then .ok a after
    else .error (.parse .tooDeep) (after.takeWhile (·.isWritable limit))
  | .error e after =>
    if after.all (·.isWritable limit) then .error e after
    else .error (.parse .tooDeep) (after.takeWhile (·.isWritable limit))

/-- A reading as a part of a run. -/
def ofReading {α : Type} (reading : ReadM α) : EStateM Error Machine α := fun m =>
  match reading.run m.log with
  | .ok a log => .ok a { m with log := log }
  | .error e log => .error e { m with log := log }

/-- The value of a tree. -/
def evaluate (limit : Nat) (tree : Tree) : EStateM Error Machine Value := fun m =>
  match (Eval.evalAt limit tree).run m with
  | .ok value after => .ok value after
  | .error cause after => .error (.eval cause) after

/-- The value of a program. -/
def run (limit : Nat) (source : String) : EStateM Error Machine Value := do
  evaluate limit (← ofReading (read limit source))

/-- The value of a program whose events are put in words as they occur. -/
def runVerbose (limit : Nat) (source : String) : EStateM Error Machine Value := do
  evaluate limit (← ofReading (verbose limit (read limit source)))

end Program

end ExprScript
