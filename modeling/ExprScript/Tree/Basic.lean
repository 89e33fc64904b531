import ExprScript.Number.Basic
import ExprScript.Tree.Kind

/-!
# Trees

A program is a tree. A leaf is an atom, and a node has an atom as its head and a list of
trees as its tail, in the order of the grammar:

* two operands for an operation on two operands,
* the target and the value for an assignment,
* condition, block and alternative for a conditional,
* the operand for a negation,
* any number of expressions for a block.

The type holds any atom anywhere. `Tree.WellFormed` says which trees the constructors of
`ExprScript.Tree.Build` accept.
-/

namespace ExprScript

/-- What an atom carries. -/
inductive Datum where
  | text (value : String)
  | number (value : Number)
  deriving DecidableEq

/-- A kind with what it carries, if anything. -/
structure Atom where
  kind : AtomKind
  datum : Option Datum
  deriving DecidableEq

/-- An atom that carries nothing. -/
def Atom.ofKind (kind : AtomKind) : Atom :=
  ⟨kind, none⟩

/-- A leaf or a node with its head and its operands. -/
inductive Tree where
  | atom (leaf : Atom)
  | node (head : Atom) (tail : List Tree)

/-- Whether two data are equal. -/
def Datum.same : Datum → Datum → Bool
  | .text a, .text b => a == b
  | .number x, .number y => x.same y
  | _, _ => false

/-- Whether two atoms are equal in kind and in what they carry. -/
def Atom.same (a b : Atom) : Bool :=
  a.kind == b.kind &&
    match a.datum, b.datum with
    | none, none => true
    | some x, some y => x.same y
    | _, _ => false

namespace Tree

mutual

/-- Whether two trees are equal: leaf by leaf and head by head. -/
def same : Tree → Tree → Bool
  | .atom a, .atom b => a.same b
  | .node h ts, .node k us => h.same k && sameAll ts us
  | _, _ => false

/-- Whether two lists of trees are equal, tree by tree. -/
def sameAll : List Tree → List Tree → Bool
  | [], [] => true
  | t :: ts, u :: us => same t u && sameAll ts us
  | _, _ => false

end

mutual

/-- The number of trees on the longest path from the tree down to a leaf. -/
def height : Tree → Nat
  | .atom _ => 1
  | .node _ ts => heightAll ts + 1

/-- The height of the highest tree of a list. -/
def heightAll : List Tree → Nat
  | [] => 0
  | t :: ts => max (height t) (heightAll ts)

end

/-- The operands of a node; a leaf has none. -/
def operands : Tree → List Tree
  | .atom _ => []
  | .node _ ts => ts

end Tree

end ExprScript
