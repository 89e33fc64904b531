import ExprScript.Text.DecimalDigit
import ExprScript.Text.Letter
import ExprScript.Token.Basic

/-!
# From lexemes to tokens

Each lexeme is one token. The operators, brackets and keywords are looked up by their
text. Of the others a run of digits is a number, a run of letters a symbol, and anything
else unknown.
-/

namespace ExprScript.Token

/-- The operators, brackets and keywords with their kinds. -/
def fixedKinds : List (String × TokenKind) :=
  [ ("+", .plus), ("-", .minus), ("/", .divide), ("*", .times), ("^", .power), ("!", .invert),
    ("<", .less), (">", .greater), ("==", .equal), ("!=", .notEqual), ("=", .assign),
    ("(", .openParen), (")", .closeParen), ("if", .ifWord), ("then", .thenWord),
    ("else", .elseWord), ("elseif", .elseifWord), ("end", .endWord), ("fn", .fnWord),
    ("true", .truth), ("false", .falsity) ]

/-- Whether `cs` is a run of at least one character of the given class. -/
def isRun (accepts : Char → Bool) (cs : List Char) : Bool :=
  !cs.isEmpty && cs.all accepts

/-- The token of a lexeme. -/
def classify (lexeme : String) : Token :=
  match fixedKinds.lookup lexeme with
  | some kind => ofKind kind
  | none =>
    let cs := lexeme.toList
    if lexeme = "\n" then ofKind .newline
    else if isRun Text.isDigit cs then ⟨.number, some (.number (Number.ofNat (Text.ofDigits cs)))⟩
    else if isRun Text.isLetter cs then ⟨.symbol, some (.text lexeme)⟩
    else ⟨.unknown, some (.text lexeme)⟩

/-- The tokens of a list of lexemes; newlines are dropped. -/
def ofLexemes (lexemes : List String) : List Token :=
  (lexemes.filter (· ≠ "\n")).map classify

end ExprScript.Token
