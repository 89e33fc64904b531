import ExprScript.Toml.Scalar

/-!
# TOML documents

A document is a sequence of statements: a key with its value, the header of a table, or
the header of a further table of a list. The values after a header belong to its table.

A document may set a key once, and open a table by a header once. Besides the data, a
reading keeps three lists of keys from the root: the tables that no header may open any
more, those that will be closed in this way at the next header (because a key with points
has gone through them), and the lists and tables written in one piece, to which nothing
may be added.
-/

namespace ExprScript.Toml

/-- The keys from the root to a part of a document. -/
abbrev Path := List String

/-- Entries of a table. -/
abbrev Entries := List (String × PlainData)

/-- The last table of a list replaced by what `change` makes of it. -/
def changeLast (change : Entries → Option Entries) : List PlainData → Option (List PlainData)
  | [] => none
  | [.table entries] => do return [.table (← change entries)]
  | [_] => none
  | item :: rest => do return item :: (← changeLast change rest)

/-- The entries with the table at a path replaced by what `change` makes of it. Tables on
the path are made where there are none. A path goes through the last table of a list, if
`throughLists` holds, and through nothing else that is no table. -/
def changeAt (throughLists : Bool) (change : Entries → Option Entries) :
    Path → Entries → Option Entries
  | [], entries => change entries
  | key :: path, entries => do
    match entries.lookup key with
    | none =>
      let inner ← changeAt throughLists change path []
      return PlainData.setEntry key (.table inner) entries
    | some (.table old) =>
      let inner ← changeAt throughLists change path old
      return PlainData.setEntry key (.table inner) entries
    | some (.list items) =>
      guard throughLists
      let changed ← changeLast (changeAt throughLists change path) items
      return PlainData.setEntry key (.list changed) entries
    | some _ => none

/-- The entries with a new key set. -/
def addEntry (key : String) (value : PlainData) (entries : Entries) : Option Entries :=
  if (entries.lookup key).isSome then none else some (entries ++ [(key, value)])

/-- The entries with an empty table added to the list at a key. -/
def addToList (key : String) (entries : Entries) : Option Entries :=
  match entries.lookup key with
  | none => some (entries ++ [(key, .list [.table []])])
  | some (.list items) => some (PlainData.setEntry key (.list (items ++ [.table []])) entries)
  | some _ => none

/-- The path to the table around the last key of a path, and the last key. -/
def splitLast (path : Path) : Option (Path × String) :=
  path.getLast?.map fun last => (path.dropLast, last)

/-- Whether a value is written in one piece and holds others. -/
def isCompound : PlainData → Bool
  | .list _ | .table _ => true
  | _ => false

/-- Whether `path` leads to or into one of the given parts. -/
def isWithin (parts : List Path) (path : Path) : Bool :=
  parts.any (fun part => part.isPrefixOf path)

/-! ### Values -/

section Values

variable (value : Reader PlainData)

/-- Reads the items of a list after its bracket, and after `done`, which is in reverse. -/
def items : (fuel : Nat) → (done : List PlainData) → Reader (List PlainData)
  | 0, _ => failure
  | fuel + 1, done => do
    skipLines (← get).length
    if ← tryTake [']'] then return done.reverse
    let item ← value
    skipLines (← get).length
    if ← tryTake [']'] then return (item :: done).reverse
    take [',']
    items fuel (item :: done)

/-- Reads a key, its value, and what stands between them. -/
def keyValue : Reader (Path × PlainData) := do
  let path ← key
  take ['=']
  skipGaps
  return (path, ← value)

/-- Reads the entries of a table in one piece after its brace and the blanks after it, and
after `done`. -/
def fields : (fuel : Nat) → (frozen : List Path) → (done : Entries) → Reader Entries
  | 0, _, _ => failure
  | fuel + 1, frozen, done => do
    let (path, datum) ← keyValue value
    guard (!isWithin frozen path)
    match splitLast path with
    | none => failure
    | some (parent, last) =>
      match changeAt false (addEntry last datum) parent done with
      | none => failure
      | some entries =>
        skipGaps
        if ← tryTake ['\x7d'] then return entries
        take [',']
        skipGaps
        fields fuel (if isCompound datum then path :: frozen else frozen) entries

/-- Reads a value of any kind. -/
def valueRule : Reader PlainData := do
  let fuel := (← get).length
  if ← tryTake ['['] then return .list (← items value fuel [])
  if ← tryTake ['\x7b'] then
    skipGaps
    if ← tryTake ['\x7d'] then return .table []
    return .table (← fields value fuel [] [])
  scalar

end Values

/-- Reads a value with values nested in it up to the given depth. -/
def value : (depth : Nat) → Reader PlainData
  | 0 => surrender .tooDeep
  | depth + 1 => valueRule (value depth)

/-- How deep values may nest. -/
def nestingLimit : Nat := 400

/-! ### Statements -/

/-- What has been read of a document: its data, the path of the current table, and the
parts that may no longer be opened, will not be, or may not be added to. -/
structure Reading where
  root : Entries
  header : Path
  closed : List Path
  closing : List Path
  frozen : List Path

/-- Nothing read yet. -/
def Reading.start : Reading :=
  ⟨[], [], [], [], []⟩

/-- The paths from `header` to the tables around the last of `keys`. -/
def pathsThrough (header : Path) (keys : Path) : List Path :=
  (List.range (keys.length - 1)).map fun i => header ++ keys.take (i + 1)

/-- The reading after a key of the current table has been set. -/
def Reading.set (r : Reading) (keys : Path) (datum : PlainData) : Option Reading := do
  let (parent, last) ← splitLast keys
  let through := pathsThrough r.header keys
  guard (!through.any r.closed.contains)
  guard (!isWithin r.frozen (r.header ++ parent))
  let root ← changeAt true (addEntry last datum) (r.header ++ parent) r.root
  let frozen := if isCompound datum then (r.header ++ keys) :: r.frozen else r.frozen
  return { r with root := root, closing := through ++ r.closing, frozen := frozen }

/-- The reading with all tables closed that the next header closes. -/
def Reading.close (r : Reading) : Reading :=
  { r with closed := r.closing ++ r.closed, closing := [] }

/-- The reading after the header of a table. -/
def Reading.openTable (r : Reading) (path : Path) : Option Reading := do
  guard (!r.closed.contains path && !isWithin r.frozen path)
  let root ← changeAt true some path r.root
  return { r with root := root, header := path, closed := path :: r.closed }

/-- The reading after the header of a further table of a list. -/
def Reading.openItem (r : Reading) (path : Path) : Option Reading := do
  guard (!isWithin r.frozen path)
  let (parent, last) ← splitLast path
  let root ← changeAt true (addToList last) parent r.root
  let outside (other : Path) : Bool := !path.isPrefixOf other
  return { r with
    root := root
    header := path
    closed := path :: r.closed.filter outside
    frozen := r.frozen.filter outside }

/-- Reads one statement that begins with the next character. -/
def statement (r : Reading) : Reader Reading := do
  if ← tryTake ['[', '['] then
    skipGaps
    let path ← key
    take [']', ']']
    r.close.openItem path
  else if ← tryTake ['['] then
    skipGaps
    let path ← key
    take [']']
    r.close.openTable path
  else
    let (keys, datum) ← keyValue (value nestingLimit)
    r.set keys datum

/-- Reads a document, of which `r` is already read. Each step but the last takes a
character, so `fuel` beyond their number is never used up. -/
def statements : (fuel : Nat) → Reading → Reader Reading
  | 0, r => return r
  | fuel + 1, r => do
    skipGaps
    match ← peek? with
    | none => return r
    | some '\n' =>
      let _ ← next
      statements fuel r
    | some c =>
      let after ← if c = '#' then pure r else statement r
      skipGaps
      skipComment
      match ← peek? with
      | none => return after
      | some _ =>
        take ['\n']
        statements fuel after

/-- The line breaks of a document with a carriage return before the newline, without it. -/
def joinBreaks : List Char → List Char
  | [] => []
  | '\r' :: '\n' :: cs => '\n' :: joinBreaks cs
  | c :: cs => c :: joinBreaks cs

/-- The entries of a document. -/
def parse (text : String) : Attempt Entries := do
  let cs := joinBreaks text.toList
  let (reading, _) ← (statements (cs.length + 1) .start).run cs
  return reading.root

end ExprScript.Toml
