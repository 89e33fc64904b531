import ExprScript.Event
import ExprScript.Layout.Markup
import ExprScript.Layout.Wrap
import ExprScript.Settings.Load

/-!
# The console

What a command writes: its results and its complaints, each wrapped to the width of the
terminal, and the events it logs, one to a line. A command may fail after a complaint, and
it may break off.
-/

namespace ExprScript.CommandLine

/-- What breaks a command off: a tree too high to be written, lexemes that do not pair off with
their tokens, settings at a path that is a directory or too long, a document of settings that
is given up, settings that list no entries or no pairs, or a text that cannot be shown. -/
inductive Crash where
  | treeTooHigh
  | unpairedLexemes
  | configIsDirectory
  | configPathTooLong
  | configSurrendered (cause : Toml.Surrender)
  | configNotEntries
  | configNotPair
  | markup (fault : Layout.MarkupFault)
  deriving DecidableEq

/-- What broke a command off, in words. -/
def Crash.message : Crash → String
  | .treeTooHigh => "The tree is too high to be written"
  | .unpairedLexemes => "The lexemes do not pair off with their tokens"
  | .configIsDirectory => "The settings are a directory"
  | .configPathTooLong => "The path of the settings is too long"
  | .configSurrendered .numberTooLong => "A number of the settings has too many digits"
  | .configSurrendered .tooDeep => "The settings nest too deep"
  | .configNotEntries => "The settings list no entries"
  | .configNotPair => "An entry of the settings is no pair"
  | .markup .unmatchedTag => "A text ends a style that it does not begin"
  | .markup .badArguments => "The arguments of an action are no literal"
  | .markup .badColor => "A component of a color is no number"

/-- How a command ends before its end. -/
inductive Stop where
  | failed
  | crashed (cause : Crash)
  deriving DecidableEq

/-- What has been written so far. -/
structure Console where
  out : String
  err : String

/-- A command at work. -/
abbrev ConsoleM := EStateM Stop Console

/-- Writes to the results. -/
def put (text : String) : ConsoleM Unit :=
  modify fun c => { c with out := c.out ++ text }

/-- Writes to the complaints. -/
def putError (text : String) : ConsoleM Unit :=
  modify fun c => { c with err := c.err ++ text }

/-- Writes a result on lines of its own. -/
def say (text : String) : ConsoleM Unit :=
  put (Layout.wrap text ++ "\n")

/-- Writes a complaint on lines of its own. -/
def complain (text : String) : ConsoleM Unit :=
  putError (Layout.wrap text ++ "\n")

/-- The text without its tags, if it can be shown. -/
def interpret (text : String) : ConsoleM String :=
  match Layout.plain text with
  | .ok shown => return shown
  | .error fault => throw (.crashed (.markup fault))

/-- Logs an event. -/
def logEvent (event : Event) : ConsoleM Unit :=
  putError ("[DEBUG] " ++ event.source ++ ": " ++ event.message ++ "\n")

/-- Logs events, if events are logged. -/
def logEvents (logged : Bool) (events : Array Event) : ConsoleM Unit :=
  if logged then events.forM logEvent else return

end ExprScript.CommandLine
