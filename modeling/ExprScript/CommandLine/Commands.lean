import ExprScript.CommandLine.Arguments
import ExprScript.CommandLine.Console
import ExprScript.CommandLine.Files
import ExprScript.Layout.Table
import ExprScript.Program
import ExprScript.Version

/-!
# Commands

The commands evaluate a program from a file or from an argument, show its tokens or its
tree, or evaluate programs line by line, where later lines see the bindings of earlier
ones. All of them run under the settings, which are loaded first.
-/

namespace ExprScript.CommandLine

/-- Complains of an error. -/
def complainOf (e : Error) : ConsoleM Unit :=
  complain (e.title ++ ": " ++ String.ofList (Layout.verbatim e.message.toList))

/-- Complains of an error and fails. -/
def failWith {α : Type} (e : Error) : ConsoleM α := do
  complainOf e
  throw .failed

/-- Whether the settings log events. -/
def isLogged (settings : Settings) : Bool :=
  Settings.logsEvents settings.logLevel

/-- What a reading gives, with its events logged. -/
def reading {α : Type} (settings : Settings) (m : ReadM α) : ConsoleM (Except Error α) := do
  let logged := isLogged settings
  let m := if logged then Program.verbose Program.nestingLimit m else m
  match m.run #[] with
  | .ok a events =>
    logEvents logged events
    return .ok a
  | .error e events =>
    logEvents logged events
    return .error e

/-- Writes a tree. -/
def sayTree (tree : Tree) : ConsoleM Unit :=
  match tree.text? Program.nestingLimit with
  | some text => say text
  | none => throw (.crashed .treeTooHigh)

/-- What a program gives in an environment, and the environment after it. The machine keeps
no events. -/
def execute (settings : Settings) (source : String) (machine : Machine) :
    ConsoleM (Except Error Value × Machine) := do
  match ← reading settings (Program.read Program.nestingLimit source) with
  | .error e => return (.error e, machine)
  | .ok tree =>
    logEvents (isLogged settings) #[.evaluationStarted tree.operands.length]
    if settings.showTree then sayTree tree
    match (Program.evaluate Program.nestingLimit tree).run machine with
    | .ok value after =>
      logEvents (isLogged settings) after.log
      return (.ok value, { after with log := #[] })
    | .error e after =>
      logEvents (isLogged settings) after.log
      return (.error e, { after with log := #[] })

/-- Writes the value of a program. -/
def evalCommand (settings : Settings) (source : String) : ConsoleM Unit := do
  match ← execute settings source (.ofEnvironment .empty) with
  | (.ok value, _) => say value.shown
  | (.error e, _) => failWith e

/-- The lexemes of a program, each with its token, if there are as many of the one as of the
other. -/
def tokenRows? (lexemes : List String) : Option (List (String × Token)) :=
  let tokens := (Cursor.ofTokens (Token.ofLexemes lexemes)).all.1
  if lexemes.length = tokens.length then some (lexemes.zip tokens) else none

/-- The table of lexemes with their tokens. -/
def tokenTable (rows : List (String × Token)) : String :=
  let valueOf (t : Token) : String := match t.payload with
    | none => ""
    | some payload => payload.literal
  Layout.table Layout.width "Tokens"
    [ ⟨['#'], (List.range rows.length).map Text.decimalDigits, true⟩,
      ⟨['R', 'a', 'w'], rows.map (·.1.toList), false⟩,
      ⟨['K', 'i', 'n', 'd'], rows.map (·.2.kind.name.toList), false⟩,
      ⟨['V', 'a', 'l', 'u', 'e'], rows.map (fun row => (valueOf row.2).toList), false⟩ ]
    rows.length

/-- Writes the tokens of a program. -/
def tokensCommand (settings : Settings) (source : String) : ConsoleM Unit := do
  match ← reading settings (Program.lexemes source) with
  | .ok lexemes =>
    match tokenRows? lexemes with
    | some rows => put (tokenTable rows)
    | none => throw (.crashed .unpairedLexemes)
  | .error e => failWith e

/-- Writes the tree of a program. -/
def treeCommand (settings : Settings) (source : String) : ConsoleM Unit := do
  match ← reading settings (Program.read Program.nestingLimit source) with
  | .ok tree => sayTree tree
  | .error e => failWith e

/-- Writes the prompt. -/
def putPrompt (settings : Settings) : ConsoleM Unit := do
  put (Layout.wrap (← interpret settings.prompt))

/-- Evaluates one line and writes its value or a complaint. A blank line is passed over. -/
def replLine (settings : Settings) (line : List Char) (machine : Machine) : ConsoleM Machine := do
  if (Text.trim line).isEmpty then return machine
  let (result, after) ← execute settings (String.ofList line) machine
  match result with
  | .ok value => say value.shown
  | .error e => complainOf e
  return after

/-- Evaluates lines one after the other, with a prompt before each and at the end. -/
def repl (settings : Settings) (machine : Machine) : List (List Char) → ConsoleM Unit
  | [] => putPrompt settings
  | line :: rest => do
    putPrompt settings
    let after ← replLine settings line machine
    repl settings after rest

/-- The lines of an input; a newline at its end begins no line. -/
def inputLines (input : String) : List (List Char) :=
  let all := Text.lines (Text.normalizeNewlines input.toList)
  if all.getLast? = some [] then all.dropLast else all

/-- A command that is well used. -/
inductive Command where
  | eval (source : String)
  | tokens (source : String)
  | tree (source : String)
  | repl

/-- The command of the given name with its arguments, if they are well used. -/
def command? (files : Files) (name : String) (arguments : List String) : Option Command := do
  match name, ← plainArguments? arguments with
  | "run", [path] =>
    let text ← textAt? files path
    return .eval (String.ofList (Text.normalizeNewlines text.toList))
  | "eval", [source] => return .eval source
  | "tokens", [source] => return .tokens source
  | "ast", [source] => return .tree source
  | "repl", [] => return .repl
  | _, _ => none

/-- The names of the commands. -/
def commandNames : List String :=
  ["run", "eval", "tokens", "ast", "repl"]

/-- Runs a command under the settings. -/
def perform (settings : Settings) (input : String) : Command → ConsoleM Unit
  | .eval source => evalCommand settings source
  | .tokens source => tokensCommand settings source
  | .tree source => treeCommand settings source
  | .repl => repl settings (.ofEnvironment .empty) (inputLines input)

/-- Complains of a file that holds no settings. The name of the file may hold tags. -/
def rejectConfig {α : Type} (config reason : String) : ConsoleM α := do
  let start ← interpret ("[red]Invalid config " ++ normalPath config ++ ":[/red] ")
  complain (start ++ reason)
  throw .failed

/-- Loads the settings from a file, if it is there, and the level of logging. -/
def loadSettings (files : Files) (config : String) (level : Option String) : ConsoleM Settings := do
  let document ← match files config with
    | .file text => pure (some text)
    | .nothing => pure none
    | .directory => throw (.crashed .configIsDirectory)
    | .tooLong => throw (.crashed .configPathTooLong)
  match Settings.load document level with
  | .ok settings => return settings
  | .error .notDocument => rejectConfig config "not a TOML document"
  | .error (.surrendered cause) => throw (.crashed (.configSurrendered cause))
  | .error .notEntries => throw (.crashed .configNotEntries)
  | .error .notPair => throw (.crashed .configNotPair)
  | .error (.invalid faults) =>
    rejectConfig config ("\n".intercalate (faults.map SettingsFault.message))

/-- What a command was given: its arguments, the files it can read, its input, and the
level of logging from outside. -/
structure Invocation where
  arguments : List String
  files : Files
  input : String
  level : Option String

/-- What a command leaves: its exit code, what it wrote, and what broke it off. -/
structure Report where
  exit : Nat
  out : String
  err : String
  crash : Option Crash

/-- The report of a command at work. -/
def reportOf (work : ConsoleM Unit) : Report :=
  match work.run ⟨"", ""⟩ with
  | .ok _ c => ⟨0, c.out, c.err, none⟩
  | .error .failed c => ⟨1, c.out, c.err, none⟩
  | .error (.crashed cause) c => ⟨1, c.out, c.err, some cause⟩

/-- What a request comes to: a report at once, or a command to be run under its settings. -/
inductive Plan where
  | answered (report : Report)
  | perform (settings : Settings) (command : Command)

/-- What a request comes to, unless it is ill used. The name of the command is checked before
the settings are loaded, and its arguments after. -/
def plan? (files : Files) (level : Option String) : Request → Option Plan
  | .version =>
    some (.answered ⟨0, "slate " ++ Version.ofDistribution Version.distribution ++ "\n", "", none⟩)
  | .command config name arguments =>
    if commandNames.contains name then
      match (loadSettings files config level).run ⟨"", ""⟩ with
      | .error stop c => some (.answered (reportOf do set c; throw stop))
      | .ok settings _ => (command? files name arguments).map (.perform settings)
    else none

/-- What an invocation leaves, unless it is ill used. -/
def respondTo (i : Invocation) : Option Report := do
  match ← plan? i.files i.level (← request? i.arguments) with
  | .answered report => return report
  | .perform settings command => return reportOf (perform settings i.input command)

end ExprScript.CommandLine
