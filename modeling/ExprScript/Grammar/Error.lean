import ExprScript.Token.Basic

/-!
# Parse errors

Why a list of tokens is no program.
-/

namespace ExprScript

/-- Why parsing stops. -/
inductive ParseError where
  | expected (kind : TokenKind) (found : Token)
  | unexpectedEnd
  | cannotStart (token : Token)
  | cannotContinue (token : Token)
  | cannotFollow (token : Token) (head : AtomKind)
  | outsideConditional (token : Token)
  | noAtom (token : Token)
  | badPayload
  | invalidNode (faults : List Fault)
  | tooDeep
  deriving DecidableEq

namespace ParseError

/-- The error in words. -/
def message : ParseError → String
  | .expected kind found => "Expected " ++ kind.name ++ ", got " ++ found.text
  | .unexpectedEnd => "Unexpected end of input"
  | .cannotStart token => "Unexpected token " ++ token.text ++ " at start of expression"
  | .cannotContinue token => "Token " ++ token.text ++ " cannot continue an expression"
  | .cannotFollow token head =>
    "Unexpected token " ++ token.text ++ " after " ++ head.name ++ " block"
  | .outsideConditional token =>
    "Unexpected token " ++ token.text ++ " outside of an if block"
  | .noAtom token => "Cannot convert token " ++ token.text ++ " to an atom"
  | .badPayload => ""
  | .invalidNode faults => ", ".intercalate (faults.map Fault.message)
  | .tooDeep => "Program nests too deeply to parse"

/-- The reason why a token is no atom, as a reason to stop parsing. -/
def ofTokenError : TokenError → ParseError
  | .badPayload => .badPayload
  | .noAtom token => .noAtom token

end ParseError

end ExprScript
