import ExprScript.Settings.Basic
import ExprScript.Toml.Document

/-!
# Loading settings

The settings stand under the key `slate` of a TOML document. What stands there is a table,
or else something that lists the entries of a table: pairs, each a list of two items, a
text of two characters, or a table of two keys. The level of logging can be given from
outside as well, and then counts instead of the one in the document.
-/

namespace ExprScript

/-- Why no settings can be loaded: the document is none or was given up, what stands in it
lists no entries, an entry is no pair, or the settings are wrong. -/
inductive LoadError where
  | notDocument
  | surrendered (cause : Toml.Surrender)
  | notEntries
  | notPair
  | invalid (faults : List SettingsFault)

namespace Settings

/-- Adds the entry of a pair whose first item is the key. A key that is no text is never
looked up; a list or table is no key. -/
def addPair (entries : List (String × PlainData)) :
    List PlainData → Except LoadError (List (String × PlainData))
  | [.text key, value] => .ok (PlainData.setEntry key value entries)
  | [.list _, _] | [.table _, _] => .error .notEntries
  | [_, _] => .ok entries
  | _ => .error .notPair

/-- The items of what can be a pair. -/
def pairItems : PlainData → Except LoadError (List PlainData)
  | .list items => .ok items
  | .text s => .ok (s.toList.map fun c => .text (String.ofList [c]))
  | .table entries => .ok (entries.map fun entry => .text entry.1)
  | _ => .error .notEntries

/-- The entries that a list of pairs gives after those in `entries`. -/
def addPairs (entries : List (String × PlainData)) :
    List PlainData → Except LoadError (List (String × PlainData))
  | [] => .ok entries
  | item :: rest => do
    let entries ← addPair entries (← pairItems item)
    addPairs entries rest

/-- The entries that data give. -/
def entriesOf : PlainData → Except LoadError (List (String × PlainData))
  | .table entries => .ok entries
  | .list items => addPairs [] items
  | .text s => addPairs [] (s.toList.map fun c => .text (String.ofList [c]))
  | _ => .error .notEntries

/-- The entries that the text of a document gives, if there is one. -/
def documentEntries : Option String → Except LoadError (List (String × PlainData))
  | none => .ok []
  | some text =>
    match Toml.parse text with
    | .malformed => .error .notDocument
    | .surrendered cause => .error (.surrendered cause)
    | .ok root =>
      match root.lookup "slate" with
      | none => .ok []
      | some data => entriesOf data

/-- The entries with the level of logging from outside, unless it is blank. -/
def overrideLevel (level : Option String) (entries : List (String × PlainData)) :
    List (String × PlainData) :=
  match Text.trim (level.getD "").toList with
  | [] => entries
  | cs => PlainData.setEntry "log_level" (.text (String.ofList cs)) entries

/-- The settings from the text of a document, if there is one, and the level of logging
from outside, if there is one. -/
def load (document level : Option String) : Except LoadError Settings := do
  let entries ← documentEntries document
  match ofEntries (overrideLevel level entries) with
  | .ok settings => return settings
  | .error faults => throw (.invalid faults)

end Settings

end ExprScript
