import ExprScript.Program

/-!
# Sessions

A session holds any number of scopes, each inside at most one other. A scope is made after
the scope around it, so it has the greater number. Scopes share the scopes around them: a
binding made in a scope is at once visible in all scopes inside it that do not bind the
name themselves, and nowhere else.

A request names its scope by its place in a list. Of a chain of scopes made by one request
only the innermost is listed.
-/

namespace ExprScript

/-- A scope of a session and the number of the scope around it. -/
structure SessionScope where
  parent : Option Nat
  own : Scope

/-- Scopes by their numbers, the numbers of the listed scopes, and the next origin of an
undefined number. -/
structure Session where
  scopes : Array SessionScope
  listed : List Nat
  fresh : Nat

namespace Session

/-- A session with one scope, which is listed. -/
def start (fresh : Nat) : Session :=
  ⟨#[⟨none, .empty⟩], [0], fresh⟩

/-- The bindings of the scope with the given number. -/
def ownOf (s : Session) (id : Nat) : Scope :=
  match s.scopes[id]? with
  | some scope => scope.own
  | none => .empty

/-- The number of the scope around the scope with the given number. -/
def parentOf? (s : Session) (id : Nat) : Option Nat :=
  s.scopes[id]?.bind (·.parent)

/-- The numbers of the scopes around the scope with the given number, from the inside out.
A scope has a greater number than the one around it, so `fuel` from the number on is never
used up. -/
def around (s : Session) : (fuel id : Nat) → List Nat
  | 0, _ => []
  | fuel + 1, id =>
    match s.parentOf? id with
    | none => []
    | some parent => parent :: s.around fuel parent

/-- The environment of the scope with the given number. -/
def environment (s : Session) (id : Nat) : Environment :=
  ⟨s.ownOf id, (s.around id id).map s.ownOf⟩

/-- The session with the bindings of one scope replaced. -/
def setOwn (s : Session) (id : Nat) (own : Scope) : Session :=
  { s with scopes := s.scopes.modify id (fun scope => { scope with own := own }) }

/-- The session with a chain of `count` new scopes inside the given one, and the number of
the innermost. -/
def addChildren (s : Session) : (count id : Nat) → Session × Nat
  | 0, id => (s, id)
  | count + 1, id =>
    addChildren { s with scopes := s.scopes.push ⟨some id, .empty⟩ } count s.scopes.size

/-- What can be asked of a scope. -/
inductive Request where
  | child (count : Nat)
  | insert (name : String) (value : Value)
  | get (name : String)
  | contains (name : Option String)
  | bindings
  | names
  | parent
  | describe
  | run (source : String)
  | evaluate (tree : Tree)

/-- What a request gives: a place in the list, nothing, a value if there is one, a truth
value, bindings or names unless the scopes nest too deep, a text, or the outcome of a
program. -/
inductive Reply where
  | place (index : Option Nat)
  | done
  | value (value : Option Value)
  | truth (value : Bool)
  | bindings (scope : Option Scope)
  | names (names : Option (List String))
  | text (text : String)
  | outcome (result : Except Error Value)

/-- Runs a program in the scope with the given number. -/
def runIn (s : Session) (id : Nat) (program : EStateM Error Machine Value) :
    Except Error Value × Session :=
  match program.run ⟨s.environment id, s.fresh, #[]⟩ with
  | .ok value m => (.ok value, { s.setOwn id m.env.own with fresh := m.fresh })
  | .error e m => (.error e, { s.setOwn id m.env.own with fresh := m.fresh })

/-- What a request gives in the scope with the given number, and the session after it. -/
def answer (limit : Nat) (s : Session) (id : Nat) : Request → Reply × Session
  | .child count =>
    let (after, child) := s.addChildren count id
    (.place (some s.listed.length), { after with listed := s.listed ++ [child] })
  | .insert name value => (.done, s.setOwn id ((s.ownOf id).insert name value))
  | .get name => (.value ((s.environment id).get? name), s)
  | .contains name => (.truth (name.any (s.environment id).contains), s)
  | .bindings => (.bindings ((s.environment id).bindings? limit), s)
  | .names => (.names (((s.environment id).bindings? limit).map Scope.names), s)
  | .parent => (.place ((s.parentOf? id).bind (s.listed.idxOf? ·)), s)
  | .describe => (.text (s.environment id).description, s)
  | .run source =>
    let (result, after) := s.runIn id (Program.run limit source)
    (.outcome result, after)
  | .evaluate tree =>
    let (result, after) := s.runIn id (Program.evaluate limit tree)
    (.outcome result, after)

/-- The number of the scope at a place of the list. -/
def listed? (s : Session) (place : Nat) : Option Nat :=
  s.listed[place]?

end Session

end ExprScript
