/-!
# Arguments

The arguments begin with options, up to the first that is none, which names the command.
The rest are the arguments of the command: these may hold no options, but after `--`
anything is taken as it is. An argument is an option when it begins with a dash and is
more than a dash.
-/

namespace ExprScript.CommandLine

/-- What the options ask for: the version, or a command with its arguments under the
settings of the given file. -/
inductive Request where
  | version
  | command (config : String) (name : String) (arguments : List String)

/-- The paths at which a request may read: the file of its settings, and what a program is
run from. -/
def Request.paths : Request → List String
  | .version => []
  | .command config name arguments => config :: (if name = "run" then arguments else [])

/-- The options read so far. -/
structure Options where
  config : String := "slate.toml"
  version : Bool := false

/-- Whether an argument is an option. -/
def isOption (argument : String) : Bool :=
  match argument.toList with
  | '-' :: _ :: _ => true
  | _ => false

/-- The part of `argument` after `start`, if it begins so. -/
def after? (start argument : String) : Option String :=
  if start.toList.isPrefixOf argument.toList then
    some (String.ofList (argument.toList.drop start.length))
  else none

/-- The options that the arguments begin with, after those in `o`, and the arguments after
them. -/
def readOptions (o : Options) : List String → Option (Options × List String)
  | [] => some (o, [])
  | "--" :: rest => some (o, rest)
  | ["--config"] | ["-c"] => none
  | "--config" :: value :: rest | "-c" :: value :: rest => readOptions { o with config := value } rest
  | "--version" :: rest => readOptions { o with version := true } rest
  | argument :: rest =>
    if isOption argument then
      match after? "--config=" argument, after? "--" argument, after? "-c" argument with
      | some value, _, _ => readOptions { o with config := value } rest
      | none, none, some value => readOptions { o with config := value } rest
      | _, _, _ => none
    else some (o, argument :: rest)

/-- The request that the arguments make, if they are well used. What stands in the place of
the command but is an option is read as options once more, and can still ask for the
version. The path of a file holds no null character. -/
def request? (arguments : List String) : Option Request := do
  let (options, rest) ← readOptions {} arguments
  if options.version then return .version
  guard (!options.config.toList.contains '\x00')
  match rest with
  | [] => none
  | name :: more =>
    if isOption name then
      let (again, _) ← readOptions {} rest
      guard again.version
      return .version
    return .command options.config name more

/-- The plain arguments of a command, if there are no options among them. -/
def plainArguments? : List String → Option (List String)
  | [] => some []
  | "--" :: rest => some rest
  | argument :: rest =>
    if isOption argument then none else (plainArguments? rest).map (argument :: ·)

end ExprScript.CommandLine
