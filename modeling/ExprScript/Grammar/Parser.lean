import ExprScript.Event
import ExprScript.Grammar.Cursor

/-!
# The parser

Every token has a rule for when it starts an expression, and an operator has a rule for
when it follows an expression already read. An expression is read up to the first token
that binds no tighter than a given bound:

    ==  !=      5
    <   >       10
    +   -       20
    *   /       30
    ^           40   from the right
    =           50

A block is a run of expressions up to the end of the input or one of the words `end`,
`else` and `elseif`. A conditional is

    if condition then block (end | else block end | elseif condition then block ...)

The rules take the reader of expressions as an argument, and `parseAt` ties the knot: it
reads expressions nested up to a given depth. The length of an expression costs no depth.
-/

namespace ExprScript

/-- What the parser works on: the tokens not yet read, how often the end of the input was
read, and the events so far. -/
structure Stream where
  rest : List Token
  overrun : Nat
  log : Array Event

/-- A reader of tokens that may stop with an error; what it has read stays read. -/
abbrev ParseM := EStateM ParseError Stream

namespace Parser

/-- The next token, which stays the next. -/
def peek : ParseM Token := fun s =>
  .ok (s.rest.headD Token.finish) s

/-- The next token, which is read. -/
def next : ParseM Token := fun s =>
  match s.rest with
  | [] => .ok Token.finish { s with overrun := s.overrun + 1 }
  | token :: rest => .ok token { s with rest := rest }

/-- The next token, which is read and must be of the given kind. -/
def expect (kind : TokenKind) : ParseM Token := do
  let token ← next
  if token.kind = kind then return token
  throw (.expected kind token)

/-- Records an event. -/
def report (event : Event) : ParseM Unit := fun s =>
  .ok () { s with log := s.log.push event }

/-- The number of tokens not yet read. -/
def remaining : ParseM Nat := fun s =>
  .ok s.rest.length s

/-- The atom of a token. -/
def atomOf (token : Token) : ParseM Atom :=
  match token.toAtom with
  | .ok atom => pure atom
  | .error e => throw (.ofTokenError e)

/-- The node with the given head and tail. -/
def nodeOf (head : Atom) (tail : List Tree) : ParseM Tree :=
  match Tree.build (.atom head) tail with
  | .ok tree => pure tree
  | .error faults => throw (.invalidNode faults)

/-- Whether a token of the kind closes a block. -/
def closesBlock : TokenKind → Bool
  | .finish | .endWord | .elseWord | .elseifWord => true
  | _ => false

/-- Whether a token of the kind joins two operands and, among its equals, groups from the
left. -/
def groupsLeft : TokenKind → Bool
  | .plus | .minus | .divide | .times | .assign | .greater | .less | .equal | .notEqual => true
  | _ => false

section Rules

variable (expression : Int → ParseM Tree)

/-- The expressions up to the end of a block, after those in `done`, which are in reverse.
Each expression takes a token, so `fuel` beyond the number of tokens is never used up. -/
def expressions : (fuel : Nat) → (done : List Tree) → ParseM (List Tree)
  | 0, done => return done.reverse
  | fuel + 1, done => do
    let token ← peek
    if closesBlock token.kind then return done.reverse
    let tree ← expression 0
    expressions fuel (tree :: done)

/-- The block of the expressions up to its end. -/
def block : ParseM Tree := do
  let trees ← expressions expression ((← remaining) + 1) []
  nodeOf (.ofKind .block) trees

/-- What follows the block of a conditional: `end`, or an alternative that starts with
`else` or `elseif`. -/
def alternative (head : AtomKind) : ParseM Tree := do
  let token ← peek
  match token.kind with
  | .endWord =>
    let _ ← next
    return .atom (.ofKind .nothing)
  | .elseWord | .elseifWord => expression 0
  | _ => throw (.cannotFollow token head)

/-- The rest of a conditional after its first word. -/
def conditional (head : AtomKind) : ParseM Tree := do
  let condition ← expression 0
  let _ ← expect .thenWord
  let branch ← block expression
  let otherwise ← alternative expression head
  report (.conditionalParsed head condition)
  nodeOf (.ofKind head) [condition, branch, otherwise]

/-- The expression that `token` starts. -/
def startRule (token : Token) : ParseM Tree :=
  match token.kind with
  | .number | .symbol | .truth | .falsity => return .atom (← atomOf token)
  | .openParen => do
    let inner ← expression 0
    let _ ← expect .closeParen
    return inner
  | .plus => expression token.precedence
  | .minus => do
    let operand ← expression token.precedence
    nodeOf (.ofKind .negate) [operand]
  | .ifWord => conditional expression .conditional
  | .elseifWord => conditional expression .orConditional
  | .elseWord => do
    let branch ← block expression
    let _ ← expect .endWord
    return branch
  | .finish => throw .unexpectedEnd
  | _ => throw (.cannotStart token)

/-- The expression that `token` continues, after its left operand. -/
def continueRule (left : Tree) (token : Token) : ParseM Tree := do
  if groupsLeft token.kind then
    let right ← expression token.precedence
    nodeOf (← atomOf token) [left, right]
  else if token.kind = .power then
    let right ← expression (token.precedence - 1)
    nodeOf (← atomOf token) [left, right]
  else throw (.cannotContinue token)

/-- The expression that begins with `left` and goes on while the tokens bind tighter than
`bound`. Each step takes a token, so `fuel` beyond the number of tokens is never used up. -/
def continuation (bound : Int) : (fuel : Nat) → (left : Tree) → ParseM Tree
  | 0, left => return left
  | fuel + 1, left => do
    let token ← peek
    if token.precedence > bound then
      let token ← next
      let longer ← continueRule expression left token
      continuation bound fuel longer
    else return left

/-- An expression whose operators bind tighter than `bound`. -/
def expressionRule (bound : Int) : ParseM Tree := do
  let token ← next
  let left ← startRule expression token
  continuation expression bound ((← remaining) + 1) left

end Rules

/-- An expression whose operators bind tighter than `bound`, with expressions nested in it
up to the given depth. -/
def parseAt : (depth : Nat) → (bound : Int) → ParseM Tree
  | 0, _ => throw .tooDeep
  | depth + 1, bound => expressionRule (parseAt depth) bound

/-- A block with expressions nested in it up to the given depth. -/
def parseBlock (depth : Nat) : ParseM Tree :=
  block (parseAt depth)

/-- The block of all tokens. -/
def parseProgram (depth : Nat) : ParseM Tree := do
  let tree ← parseBlock depth
  let token ← peek
  if token.kind = .finish then
    report (.programParsed tree.operands.length)
    return tree
  throw (.outsideConditional token)

end Parser

namespace Cursor

/-- The tokens of the cursor as the parser works on them. -/
def stream (c : Cursor) (log : Array Event) : Stream :=
  ⟨c.remaining, c.index - c.tokens.length, log⟩

/-- The cursor after the parser has worked on its tokens. -/
def resume (c : Cursor) (s : Stream) : Cursor :=
  { c with index := c.tokens.length - s.rest.length + s.overrun }

/-- What a reader gives from the cursor on, and where it leaves the cursor. -/
def parse {α : Type} (c : Cursor) (reader : ParseM α) : Except ParseError α × Cursor :=
  match reader.run (c.stream #[]) with
  | .ok a s => (.ok a, c.resume s)
  | .error e s => (.error e, c.resume s)

end Cursor

end ExprScript
