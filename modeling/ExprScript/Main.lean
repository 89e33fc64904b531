import ExprScript.CommandLine.Commands

/-!
# The program

Reads what the arguments name, runs the command and writes what it leaves. Lines of an
interactive session are evaluated as they arrive.
-/

namespace ExprScript.CommandLine

/-- What stands at a path of the file system. A directory can be opened but not read; a path
that goes through a file cannot be opened, and the error then names it. -/
def placeOf (path : String) : IO Place := do
  try
    return .file (← IO.FS.readFile (normalPath path))
  catch
    | .noFileOrDirectory .. => return .nothing
    | .inappropriateType none .. => return .directory
    | .inappropriateType (some _) .. => return .nothing
    | .invalidArgument .. => return .tooLong
    | e => throw e

/-- Writes what stands on a console. -/
def flush (c : Console) : IO Unit := do
  IO.print c.out
  (← IO.getStdout).flush
  IO.eprint c.err

/-- Writes a report and gives its exit code. -/
def deliver (report : Report) : IO UInt32 := do
  flush ⟨report.out, report.err⟩
  if let some crash := report.crash then
    IO.eprintln crash.message
  return report.exit.toUInt32

/-- Does one step of a session, and ends the session with an exit code if the step ends it. -/
def step {α : Type} (work : ConsoleM α) : ExceptT UInt32 IO α := do
  match work.run ⟨"", ""⟩ with
  | .ok a c =>
    flush c
    return a
  | .error stop c => throw (← deliver (reportOf do set c; throw stop))

/-- Evaluates the given lines and then the lines of the input as they arrive, with a prompt
after each. -/
partial def converse (settings : Settings) (machine : Machine) :
    List (List Char) → ExceptT UInt32 IO Unit
  | line :: rest => do
    let after ← step do
      let after ← replLine settings line machine
      putPrompt settings
      return after
    converse settings after rest
  | [] => do
    let text ← (← IO.getStdin).getLine
    if text.isEmpty then return
    converse settings machine (inputLines text)

/-- Begins a session with a prompt, and gives its exit code. -/
def startSession (settings : Settings) : IO UInt32 := do
  let session := do
    step (putPrompt settings)
    converse settings (.ofEnvironment .empty) []
  match ← session.run with
  | .ok _ => return 0
  | .error code => return code

/-- Runs the program on its arguments, and gives its exit code. -/
def runArguments (arguments : List String) : IO UInt32 := do
  let some request := request? arguments | return 2
  let places ← request.paths.mapM fun path => return (path, ← placeOf path)
  let files : Files := fun path => (places.lookup path).getD .nothing
  match plan? files (← IO.getEnv "SLATE_LOG_LEVEL") request with
  | none => return 2
  | some (.answered report) => deliver report
  | some (.perform settings .repl) => startSession settings
  | some (.perform settings command) => deliver (reportOf (perform settings "" command))

end ExprScript.CommandLine

/-- Evaluates programs from the command line. -/
def main (arguments : List String) : IO UInt32 :=
  ExprScript.CommandLine.runArguments arguments
