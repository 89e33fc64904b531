import ExprScript.Number.Text
import ExprScript.Tree.Basic

/-!
# Trees as text

A node is written between parentheses, its head first and then its operands, with a space
between each two. A number is written as results show it, a string between double quotes
as it is, a symbol as it is, and any other atom by its kind.

Writing a tree takes as many nested steps as the tree is high, so `Tree.text?` writes only
trees up to a given height.
-/

namespace ExprScript

/-- What an atom carries, as written. -/
def Datum.shown : Datum → String
  | .text s => s
  | .number x => x.text

/-- An atom as written. -/
def Atom.text (a : Atom) : String :=
  match a.kind, a.datum with
  | .number, some d => d.shown
  | .symbol, some d => d.shown
  | .string, some d => "\"" ++ d.shown ++ "\""
  | kind, _ => kind.name

namespace Tree

mutual

/-- A tree as written. -/
def text : Tree → String
  | .atom a => a.text
  | .node h ts => "(" ++ h.text ++ textAll ts ++ ")"

/-- The trees of a list as written, each with a space in front. -/
def textAll : List Tree → String
  | [] => ""
  | t :: ts => " " ++ text t ++ textAll ts

end

/-- A tree as written, if it is no higher than `limit`. -/
def text? (limit : Nat) (t : Tree) : Option String :=
  if t.height ≤ limit then some t.text else none

end Tree

end ExprScript
