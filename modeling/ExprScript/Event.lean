import ExprScript.Tree.Text
import ExprScript.Value

/-!
# Events

What a run reports of its progress: the lexemes counted, each conditional and the whole
program once parsed, the start of the evaluation, and each binding made. Every event has a
source, which names the part of the program that reports it, and a message.
-/

namespace ExprScript

/-- A step of a run worth reporting. -/
inductive Event where
  | tokenized (count : Nat)
  | conditionalParsed (head : AtomKind) (condition : Tree)
  | programParsed (count : Nat)
  | evaluationStarted (count : Nat)
  | bound (name : String) (value : Value)

namespace Event

/-- The part of the program that reports the event. -/
def source : Event → String
  | .tokenized _ => "slate.core.language.tokenizer"
  | .conditionalParsed _ _ | .programParsed _ => "slate.core.language.parser"
  | .evaluationStarted _ => "slate.cli"
  | .bound _ _ => "slate.core.language.evaluator"

/-- The event in words. -/
def message : Event → String
  | .tokenized count => "Tokenized " ++ Text.decimal count ++ " raw tokens"
  | .conditionalParsed head condition =>
    "Parsed " ++ head.name ++ " with condition " ++ condition.text
  | .programParsed count =>
    "Parsed program with " ++ Text.decimal count ++ " top-level expressions"
  | .evaluationStarted count =>
    "Evaluating " ++ Text.decimal count ++ " top-level expressions"
  | .bound name value => "Bound " ++ name ++ " = " ++ value.shown

/-- Whether the event can be put in words without writing a tree higher than `limit`. -/
def isWritable (limit : Nat) : Event → Bool
  | .conditionalParsed _ condition => condition.height ≤ limit
  | _ => true

end Event

end ExprScript
