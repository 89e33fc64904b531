/-!
# Kinds of tokens

The kinds of tokens and how tightly the kinds that join two operands bind.
-/

namespace ExprScript

/-- The kind of a token. -/
inductive TokenKind where
  | symbol
  | number
  | truth
  | falsity
  | openParen
  | closeParen
  | plus
  | minus
  | times
  | divide
  | power
  | equal
  | notEqual
  | invert
  | greater
  | less
  | ifWord
  | thenWord
  | elseWord
  | elseifWord
  | endWord
  | fnWord
  | newline
  | assign
  | finish
  | unknown
  deriving DecidableEq

namespace TokenKind

/-- Every kind. -/
def all : List TokenKind :=
  [ .symbol, .number, .truth, .falsity, .openParen, .closeParen, .plus, .minus, .times, .divide,
    .power, .equal, .notEqual, .invert, .greater, .less, .ifWord, .thenWord, .elseWord,
    .elseifWord, .endWord, .fnWord, .newline, .assign, .finish, .unknown ]

/-- The kind as written in messages. -/
def name : TokenKind → String
  | .symbol => "symbol"
  | .number => "float"
  | .truth => "true"
  | .falsity => "false"
  | .openParen => "lparen"
  | .closeParen => "rparen"
  | .plus => "plus"
  | .minus => "minus"
  | .times => "multiply"
  | .divide => "divide"
  | .power => "power"
  | .equal => "equal"
  | .notEqual => "not_equal"
  | .invert => "not"
  | .greater => "greater_than"
  | .less => "less_than"
  | .ifWord => "if"
  | .thenWord => "then"
  | .elseWord => "else"
  | .elseifWord => "elseif"
  | .endWord => "end"
  | .fnWord => "fn"
  | .newline => "newline"
  | .assign => "assign"
  | .finish => "eof"
  | .unknown => "unknown"

/-- The kind written as `name`. -/
def ofName? (name : String) : Option TokenKind :=
  all.find? (fun kind => kind.name == name)

/-- How tightly the kind binds two operands; zero for a kind that joins none. -/
def precedence : TokenKind → Int
  | .equal | .notEqual => 5
  | .greater | .less => 10
  | .plus | .minus => 20
  | .times | .divide => 30
  | .power => 40
  | .assign => 50
  | _ => 0

end TokenKind

end ExprScript
