import ExprScript.Number.Text
import ExprScript.Text.Quoted

/-!
# Values

What an expression evaluates to: a number, a truth value, a text, nothing, or the symbol
that an assignment has just bound.
-/

namespace ExprScript

/-- The result of an evaluation. -/
inductive Value where
  | number (value : Number)
  | truth (value : Bool)
  | text (value : String)
  | symbol (name : String)
  | nothing
  deriving DecidableEq

namespace Value

/-- The name of the type of a value. -/
def typeName : Value → String
  | .number _ => "float"
  | .truth _ => "bool"
  | .text _ => "string"
  | .symbol _ => "symbol"
  | .nothing => "nothing"

/-- A value as results show it. -/
def shown : Value → String
  | .number x => x.text
  | .truth b => if b then "true" else "false"
  | .text s => s
  | .symbol name => "'" ++ name
  | .nothing => "nothing"

/-- A value with its type and what it holds, unambiguously. -/
def description : Value → String
  | .number x => "FloatValue(value=" ++ x.literal ++ ")"
  | .truth b => "BoolValue(value=" ++ (if b then "True" else "False") ++ ")"
  | .text s => "StringValue(value=" ++ Text.quoted s ++ ")"
  | .symbol name => "SymbolValue(name=" ++ Text.quoted name ++ ")"
  | .nothing => "NothingValue()"

/-- Whether two values are equal: of one type and holding the same. -/
def same : Value → Value → Bool
  | .number x, .number y => x.same y
  | .truth a, .truth b => a == b
  | .text a, .text b => a == b
  | .symbol a, .symbol b => a == b
  | .nothing, .nothing => true
  | _, _ => false

end Value

end ExprScript
