import ExprScript.Eval.Machine
import ExprScript.Number.Arithmetic

/-!
# Evaluation

A tree has a value in an environment. The rules take the evaluator of operands as an
argument, and `evalAt` ties the knot: it evaluates trees nested up to a given depth.

Arithmetic nodes that nest through their first operand, such as those of a long sum, are
one chain: the innermost operand is evaluated first, then the second operands from the
inside out, and the chain costs no depth however long it is. An operation takes its second
operand as the left one and its first as the right one, except for the power, whose base
is its first operand.

An assignment evaluates its value before it looks at its target. A conditional evaluates
its condition and then one branch. The branches and the expressions of a block share the
environment.
-/

namespace ExprScript.Eval

/-- The value of a leaf. -/
def leaf (a : Atom) : EvalM Value :=
  match a.kind, a.datum with
  | .number, some (.number x) => return .number x
  | .string, some (.text s) => return .text s
  | .symbol, some (.text name) => lookup name
  | .number, _ | .string, _ | .symbol, _ => throw .badDatum
  | .truth, _ => return .truth true
  | .falsity, _ => return .truth false
  | .nothing, _ => return .nothing
  | kind, _ => throw (.operationAsLeaf kind)

/-- The operand at a place of a tail. -/
def operand (tail : List Tree) (place : Nat) : EvalM Tree :=
  match tail[place]? with
  | some tree => pure tree
  | none => throw .missingOperand

/-- The number that an operation needs as its operand. -/
def expectNumber (operation : AtomKind) : Value → EvalM Number
  | .number x => pure x
  | value => throw (.operandNotNumber operation value)

/-- The result of arithmetic on numbers; an undefined result has the given origin. -/
def compute (operation : AtomKind) (origin : Nat) (left right : Number) : Number :=
  match operation with
  | .plus => left.add origin right
  | .minus => left.sub origin right
  | .divide => Number.divide origin left right
  | .times => left.mul origin right
  | _ => Number.power origin right left

/-- The result of arithmetic on values. -/
def arithmetic (operation : AtomKind) (left right : Value) : EvalM Value :=
  match left, right with
  | .number x, .number y => return .number (compute operation (← freshOrigin) x y)
  | _, _ => throw (.operandsNotNumbers operation left right)

/-- One arithmetic node of a chain: its operation and its second operand. -/
structure Link where
  operation : AtomKind
  second : Option Tree

/-- The links of the chain of arithmetic nodes that begins with a tree, the innermost first
and followed by `links`, and the first operand of the innermost. A chain breaks off where
an arithmetic node has no operands. -/
def chainOf (links : List Link) : Tree → Option (List Link × Tree)
  | .atom a => some (links, .atom a)
  | .node head [] => if head.kind.isArithmetic then none else some (links, .node head [])
  | .node head (first :: others) =>
    if head.kind.isArithmetic then chainOf (⟨head.kind, others.head?⟩ :: links) first
    else some (links, .node head (first :: others))

section Rules

variable (expression : Tree → EvalM Value)

/-- The value of a chain of arithmetic nodes on top of the value of its innermost operand. -/
def climb : List Link → Value → EvalM Value
  | [], result => return result
  | link :: links, result => do
    match link.second with
    | none => throw .missingOperand
    | some second =>
      let left ← expression second
      let result ← arithmetic link.operation left result
      climb links result

/-- The value of an arithmetic node. -/
def chain (tree : Tree) : EvalM Value :=
  match chainOf [] tree with
  | none => throw .missingOperand
  | some (links, inner) => do
    let result ← expression inner
    climb expression links result

/-- The value of a block: that of its last expression, after all before it. -/
def block : List Tree → EvalM Value
  | [] => throw .emptyBlock
  | [last] => expression last
  | first :: rest => do
    let _ ← expression first
    block rest

/-- The symbol bound by an assignment. The target must be a symbol; any other is reported,
provided it is no higher than `limit`. -/
def assignment (limit : Nat) (tail : List Tree) : EvalM Value := do
  let value ← expression (← operand tail 1)
  match ← operand tail 0 with
  | .atom ⟨.symbol, some (.text name)⟩ =>
    bind name value
    return .symbol name
  | .atom ⟨.symbol, _⟩ => throw .badDatum
  | target =>
    if target.height ≤ limit then throw (.invalidTarget target)
    throw .tooDeep

/-- The truth value of a comparison of two numbers. -/
def comparison (operation : AtomKind) (tail : List Tree) : EvalM Value := do
  let a ← expectNumber operation (← expression (← operand tail 0))
  let b ← expectNumber operation (← expression (← operand tail 1))
  return .truth (if operation = .greater then b.less a else a.less b)

/-- Whether two values are equal, or whether they differ. -/
def equality (operation : AtomKind) (tail : List Tree) : EvalM Value := do
  let a ← expression (← operand tail 0)
  let b ← expression (← operand tail 1)
  return .truth (a.same b == (operation == .equal))

/-- The value of the branch that the condition selects. -/
def conditional (head : AtomKind) (tail : List Tree) : EvalM Value := do
  match ← expression (← operand tail 0) with
  | .truth true => expression (← operand tail 1)
  | .truth false => expression (← operand tail 2)
  | value => throw (.conditionNotTruth head value)

/-- The value of a negation. -/
def negation (tail : List Tree) : EvalM Value := do
  let x ← expectNumber .negate (← expression (← operand tail 0))
  return .number (x.negate (← freshOrigin))

/-- The value of a node. -/
def node (limit : Nat) (head : Atom) (tail : List Tree) : EvalM Value :=
  match head.kind with
  | .plus | .minus | .times | .divide | .power => chain expression (.node head tail)
  | .negate => negation expression tail
  | .assign => assignment expression limit tail
  | .greater | .less => comparison expression head.kind tail
  | .equal | .notEqual => equality expression head.kind tail
  | .block => block expression tail
  | .conditional | .orConditional => conditional expression head.kind tail
  | kind => throw (.unknownOperation kind)

/-- The value of a tree. -/
def tree (limit : Nat) : Tree → EvalM Value
  | .atom a => leaf a
  | .node head tail => node expression limit head tail

end Rules

/-- The value of a tree with operands nested in it up to the given depth. -/
def evalAt : (depth : Nat) → Tree → EvalM Value
  | 0, _ => throw .tooDeep
  | depth + 1, t => tree (evalAt depth) depth t

end ExprScript.Eval
