import ExprScript.Tree.Basic

/-!
# Building trees

Atoms and nodes are built through checks. An atom that is a number carries a number, and a
symbol and a string carry a text. A node is headed by an operation, and an atom among its
operands is a leaf. What a check rejects is reported as a list of faults: an atom has one
fault at most, and a node one for its head and one for its tail.
-/

namespace ExprScript

/-- Why an atom or a node cannot be built. -/
inductive Fault where
  | unknownKind
  | lacksNumber
  | lacksText (kind : AtomKind)
  | leafAsHead (kind : AtomKind)
  | nodeAsHead
  | operationAsLeaf (kind : AtomKind)
  deriving DecidableEq

namespace Fault

/-- The part of the atom or node at fault; none when it is the whole. -/
def place : Fault → List String
  | .unknownKind => ["kind"]
  | .lacksNumber | .lacksText _ => []
  | .leafAsHead _ | .nodeAsHead => ["head"]
  | .operationAsLeaf _ => ["tail"]

/-- The category under which the fault is reported. -/
def category : Fault → String
  | .unknownKind => "enum"
  | .nodeAsHead => "model_type"
  | _ => "value_error"

/-- The names of the kinds in quotes, as an enumeration in a sentence. -/
def kindNames : List AtomKind → String
  | [] => ""
  | [kind] => "'" ++ kind.name ++ "'"
  | [kind, last] => "'" ++ kind.name ++ "' or '" ++ last.name ++ "'"
  | kind :: rest => "'" ++ kind.name ++ "', " ++ kindNames rest

/-- The fault in words. -/
def message : Fault → String
  | .unknownKind => "Input should be " ++ kindNames AtomKind.all
  | .lacksNumber => "Value error, float atom needs a float value"
  | .lacksText kind => "Value error, " ++ kind.name ++ " atom needs a str value"
  | .leafAsHead kind => "Value error, " ++ kind.name ++ " atom cannot head a node"
  | .nodeAsHead => "Input should be a valid dictionary or instance of Atom"
  | .operationAsLeaf kind => "Value error, " ++ kind.name ++ " atom cannot be a leaf"

end Fault

namespace Atom

/-- The fault of an atom: a number without a number, or a symbol or string without a
text. -/
def fault? (a : Atom) : Option Fault :=
  match a.kind, a.datum with
  | .number, some (.number _) => none
  | .number, _ => some .lacksNumber
  | .symbol, some (.text _) => none
  | .symbol, _ => some (.lacksText .symbol)
  | .string, some (.text _) => none
  | .string, _ => some (.lacksText .string)
  | _, _ => none

/-- The atom of the kind written as `name`, carrying `datum`. -/
def build (name : String) (datum : Option Datum) : Except (List Fault) Atom :=
  match AtomKind.ofName? name with
  | none => .error [.unknownKind]
  | some kind =>
    match fault? ⟨kind, datum⟩ with
    | some fault => .error [fault]
    | none => .ok ⟨kind, datum⟩

end Atom

namespace Tree

/-- The fault of a tree as the head of a node. -/
def headFault? : Tree → Option Fault
  | .atom head => if head.kind.isLeaf then some (.leafAsHead head.kind) else none
  | .node _ _ => some .nodeAsHead

/-- The fault of a list of trees as the tail of a node: its first atom that is no leaf. -/
def tailFault? : List Tree → Option Fault
  | [] => none
  | .atom a :: ts => if a.kind.isLeaf then tailFault? ts else some (.operationAsLeaf a.kind)
  | .node _ _ :: ts => tailFault? ts

/-- The node with the given head and tail. -/
def build (head : Tree) (tail : List Tree) : Except (List Fault) Tree :=
  match head, (headFault? head).toList ++ (tailFault? tail).toList with
  | .atom a, [] => .ok (.node a tail)
  | _, faults => .error faults

/-- The node headed by the operation written as `name`. -/
def buildNamed (name : String) (tail : List Tree) : Except (List Fault) Tree :=
  match Atom.build name none with
  | .error faults => .error faults
  | .ok head => build (.atom head) tail

/-- The leaf of the given kind and datum. -/
def buildAtom (name : String) (datum : Option Datum) : Except (List Fault) Tree :=
  (Atom.build name datum).map .atom

/-- The tree `inner` put `times` times under the operation written as `name`, each time
between the operands `before` and `after`. -/
def nest (name : String) (before after : List Tree) : Nat → Tree → Except (List Fault) Tree
  | 0, inner => .ok inner
  | times + 1, inner =>
    match buildNamed name (before ++ inner :: after) with
    | .error faults => .error faults
    | .ok tree => nest name before after times tree

mutual

/-- Whether the checks accept the tree and every tree in it. -/
def WellFormed : Tree → Prop
  | .atom a => a.fault? = none
  | .node h ts => h.fault? = none ∧ headFault? (.atom h) = none ∧ tailFault? ts = none
      ∧ WellFormedAll ts

/-- Whether the checks accept every tree of a list and every tree in them. -/
def WellFormedAll : List Tree → Prop
  | [] => True
  | t :: ts => WellFormed t ∧ WellFormedAll ts

end

end Tree

end ExprScript
