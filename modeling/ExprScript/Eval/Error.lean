import ExprScript.Tree.Text
import ExprScript.Value

/-!
# Evaluation errors

Why a tree has no value in an environment.
-/

namespace ExprScript

/-- Why an evaluation stops. -/
inductive EvalError where
  | unbound (name : String)
  | operandNotNumber (operation : AtomKind) (operand : Value)
  | operandsNotNumbers (operation : AtomKind) (left right : Value)
  | conditionNotTruth (head : AtomKind) (condition : Value)
  | operationAsLeaf (kind : AtomKind)
  | unknownOperation (kind : AtomKind)
  | invalidTarget (target : Tree)
  | emptyBlock
  | tooDeep
  | missingOperand
  | badDatum

namespace EvalError

/-- A value with its type, as named in messages. -/
def typed (value : Value) : String :=
  value.typeName ++ " " ++ value.shown

/-- The error in words. -/
def message : EvalError → String
  | .unbound name => "Symbol " ++ Text.quoted name ++ " is not bound"
  | .operandNotNumber operation operand =>
    "Operator " ++ operation.name ++ " needs a float, got " ++ typed operand
  | .operandsNotNumbers operation left right =>
    "Cannot evaluate " ++ operation.name ++ " with " ++ typed left ++ " and " ++ typed right
  | .conditionNotTruth head condition =>
    "Non boolean value given to " ++ head.name ++ ": " ++ typed condition
  | .operationAsLeaf kind => "Cannot interpret atom " ++ kind.name
  | .unknownOperation kind => "Unknown operation " ++ kind.name
  | .invalidTarget target => "Invalid assignment target " ++ target.text
  | .emptyBlock => "Cannot evaluate an empty block"
  | .tooDeep => "Expression nests too deeply to evaluate"
  | .missingOperand => "list index out of range"
  | .badDatum => ""

/-- The name of the class of errors to which the error belongs. -/
def title : EvalError → String
  | .unbound _ => "UnboundSymbolError"
  | .operandNotNumber _ _ | .operandsNotNumbers _ _ _ | .conditionNotTruth _ _ =>
    "TypeMismatchError"
  | .operationAsLeaf _ | .unknownOperation _ => "UnknownOperationError"
  | .invalidTarget _ | .emptyBlock | .tooDeep => "EvalError"
  | .missingOperand => "MissingOperandError"
  | .badDatum => "BadDatumError"

end EvalError

end ExprScript
