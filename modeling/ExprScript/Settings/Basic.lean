import ExprScript.Number.Whole
import ExprScript.Text.Blank
import ExprScript.Text.Quoted
import ExprScript.Toml.Datum

/-!
# Settings

The settings of a run: how much is logged, whether the tree of a program is shown, and the
prompt of the interactive mode. They are read from the entries of a table. A missing entry
has its default, and unknown entries are ignored. All entries are checked, and each that
is wrong is a fault of its own.
-/

namespace ExprScript

/-- How a run behaves. -/
structure Settings where
  logLevel : String
  showTree : Bool
  prompt : String
  deriving DecidableEq

/-- Why data are no settings. -/
inductive SettingsFault where
  | notTable
  | notText (key : String)
  | unknownLevel (given : String)
  | unreadableTruth
  | notTruth
  deriving DecidableEq

namespace SettingsFault

/-- The entry at fault; none when it is the whole. -/
def place : SettingsFault → List String
  | .notTable => []
  | .notText key => [key]
  | .unknownLevel _ => ["log_level"]
  | .unreadableTruth | .notTruth => ["show_ast"]

/-- The category under which the fault is reported. -/
def category : SettingsFault → String
  | .notTable => "model_type"
  | .notText _ => "string_type"
  | .unknownLevel _ => "value_error"
  | .unreadableTruth => "bool_parsing"
  | .notTruth => "bool_type"

/-- The fault in words. -/
def message : SettingsFault → String
  | .notTable => "Input should be a valid dictionary or instance of SlateConfig"
  | .notText _ => "Input should be a valid string"
  | .unknownLevel given => "Value error, Unknown log level " ++ Text.quoted given
  | .unreadableTruth => "Input should be a valid boolean, unable to interpret input"
  | .notTruth => "Input should be a valid boolean"

end SettingsFault

namespace Settings

/-- The settings of a run that configures nothing. -/
def default : Settings :=
  ⟨"WARNING", false, "slate> "⟩

/-- The letters outside ASCII whose capitals are ASCII letters. -/
def foreignCapitals : List (Char × List Char) :=
  [ ('ß', ['S', 'S']), ('ı', ['I']), ('ſ', ['S']), ('ﬀ', ['F', 'F']), ('ﬁ', ['F', 'I']),
    ('ﬂ', ['F', 'L']), ('ﬃ', ['F', 'F', 'I']), ('ﬄ', ['F', 'F', 'L']), ('ﬅ', ['S', 'T']),
    ('ﬆ', ['S', 'T']) ]

/-- A character in capitals, as far as those are ASCII letters. -/
def capitals (c : Char) : List Char :=
  match foreignCapitals.lookup c with
  | some cs => cs
  | none => [c.toUpper]

/-- The levels of logging. -/
def levels : List String :=
  ["CRITICAL", "FATAL", "ERROR", "WARN", "WARNING", "INFO", "DEBUG", "NOTSET"]

/-- The level that a text names, whatever its case and the blanks around it. -/
def level? (given : String) : Option String :=
  let level := String.ofList (Text.trim (given.toList.flatMap capitals))
  if levels.contains level then some level else none

/-- Whether the level logs every event. -/
def logsEvents (level : String) : Bool :=
  level == "DEBUG" || level == "NOTSET"

/-- The texts that stand for false. -/
def falseWords : List String :=
  ["0", "off", "f", "false", "n", "no"]

/-- The texts that stand for true. -/
def trueWords : List String :=
  ["1", "on", "t", "true", "y", "yes"]

/-- The entry for the level of logging. -/
def readLevel (entries : List (String × PlainData)) : Except SettingsFault String :=
  match entries.lookup "log_level" with
  | none => .ok default.logLevel
  | some (.text given) =>
    match level? given with
    | some level => .ok level
    | none => .error (.unknownLevel given)
  | some _ => .error (.notText "log_level")

/-- The first integer too large for a machine word with a sign. -/
def wordBound : Int := 0x8000000000000000

/-- The truth value of an integer that fits a machine word. -/
def truthOfWhole (i : Int) : Except SettingsFault Bool :=
  if i = 0 then .ok false
  else if i = 1 then .ok true
  else if -wordBound ≤ i ∧ i < wordBound then .error .unreadableTruth
  else .error .notTruth

/-- The truth value of a number that is whole and smaller than all that exceed a machine
word. -/
def truthOfNumber (x : Number) : Except SettingsFault Bool :=
  match x.whole? with
  | some i => if i = -wordBound then .error .notTruth else truthOfWhole i
  | none => .error .notTruth

/-- The truth value of a word, whatever its case. -/
def truthOfWord (word : String) : Except SettingsFault Bool :=
  let lower := word.map Char.toLower
  if falseWords.contains lower then .ok false
  else if trueWords.contains lower then .ok true
  else .error .unreadableTruth

/-- The entry for showing the tree. -/
def readShowTree (entries : List (String × PlainData)) : Except SettingsFault Bool :=
  match entries.lookup "show_ast" with
  | none => .ok default.showTree
  | some (.truth b) => .ok b
  | some (.whole i) => truthOfWhole i
  | some (.number x) => truthOfNumber x
  | some (.text word) => truthOfWord word
  | some _ => .error .notTruth

/-- The entry for the prompt. -/
def readPrompt (entries : List (String × PlainData)) : Except SettingsFault String :=
  match entries.lookup "prompt" with
  | none => .ok default.prompt
  | some (.text prompt) => .ok prompt
  | some _ => .error (.notText "prompt")

/-- The fault of a reading. -/
def faultOf {α : Type} : Except SettingsFault α → List SettingsFault
  | .ok _ => []
  | .error fault => [fault]

/-- The settings that the entries of a table give, or all their faults. -/
def ofEntries (entries : List (String × PlainData)) : Except (List SettingsFault) Settings :=
  match readLevel entries, readShowTree entries, readPrompt entries with
  | .ok level, .ok showTree, .ok prompt => .ok ⟨level, showTree, prompt⟩
  | level, showTree, prompt => .error (faultOf level ++ faultOf showTree ++ faultOf prompt)

/-- The settings that data give. -/
def ofData : PlainData → Except (List SettingsFault) Settings
  | .table entries => ofEntries entries
  | _ => .error [.notTable]

end Settings

end ExprScript
