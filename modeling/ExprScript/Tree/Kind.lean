/-!
# Kinds of atoms

An atom is a leaf of a tree or the head of a node. The kinds of leaves (names, strings,
numbers, the two truth values and nothing) and the kinds of heads (operations) are apart.
-/

namespace ExprScript

/-- The kind of an atom. -/
inductive AtomKind where
  | symbol
  | string
  | number
  | truth
  | falsity
  | nothing
  | plus
  | minus
  | times
  | divide
  | power
  | negate
  | conditional
  | otherwise
  | orConditional
  | equal
  | notEqual
  | invert
  | greater
  | less
  | assign
  | block
  | close
  deriving DecidableEq

namespace AtomKind

/-- Every kind, in the order in which they are listed to the user. -/
def all : List AtomKind :=
  [ .symbol, .string, .number, .truth, .falsity, .nothing, .plus, .minus, .times, .divide,
    .power, .negate, .conditional, .otherwise, .orConditional, .equal, .notEqual, .invert,
    .greater, .less, .assign, .block, .close ]

/-- The kind as written. -/
def name : AtomKind → String
  | .symbol => "symbol"
  | .string => "string"
  | .number => "float"
  | .truth => "true"
  | .falsity => "false"
  | .nothing => "nothing"
  | .plus => "+"
  | .minus => "-"
  | .times => "*"
  | .divide => "/"
  | .power => "^"
  | .negate => "negate"
  | .conditional => "if"
  | .otherwise => "else"
  | .orConditional => "elseif"
  | .equal => "=="
  | .notEqual => "!="
  | .invert => "!"
  | .greater => ">"
  | .less => "<"
  | .assign => "="
  | .block => "block"
  | .close => "end"

/-- The kind written as `name`. -/
def ofName? (name : String) : Option AtomKind :=
  all.find? (fun kind => kind.name == name)

/-- Whether atoms of the kind are leaves; the other kinds head nodes. -/
def isLeaf : AtomKind → Bool
  | .symbol | .string | .number | .truth | .falsity | .nothing => true
  | _ => false

/-- Whether the kind is an operation on two numbers that gives a number. -/
def isArithmetic : AtomKind → Bool
  | .plus | .minus | .times | .divide | .power => true
  | _ => false

end AtomKind

end ExprScript
