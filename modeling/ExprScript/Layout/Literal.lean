import ExprScript.Layout.Literal.Part
import ExprScript.Text.Lines

/-!
# Literals

The arguments of an action are written as one literal: a number, a text or bytes between
quotes, one of a few constants, or a tuple, set or dictionary of literals. Only whether a
text is a literal counts here, so a literal is read for its shape alone. What is looked up
by its value, an item of a set or a key of a dictionary, may not itself be a set or a
dictionary, nor a tuple with one in it. Outside of brackets a literal ends with its line.
-/

namespace ExprScript.Layout.Literal

/-- What a literal is, as far as it matters where it may stand: a number, with or without a
sign, something else that can be looked up by its value, or something that cannot. -/
inductive Shape where
  | real (signed : Bool)
  | imaginary (signed : Bool)
  | fixed
  | changing
  deriving DecidableEq

/-- A reader of parts. -/
abbrev Reader := StateT (List Part) Option

/-- Reads the given part, if it comes next. -/
def tryTake (expected : Part) : Reader Bool := fun ps =>
  match ps with
  | [] => some (false, [])
  | p :: rest => if p = expected then some (true, rest) else some (false, ps)

/-- Reads the given part. -/
def take (expected : Part) : Reader Unit := do
  guard (← tryTake expected)

/-- Reads the next part. -/
def next : Reader Part := fun ps =>
  match ps with
  | [] => none
  | p :: rest => some (p, rest)

/-- Reads a sign, if one comes next. -/
def trySign : Reader Bool := fun ps =>
  match ps with
  | .plus :: rest | .minus :: rest => some (true, rest)
  | _ => some (false, ps)

/-- Reads texts of one kind, which are one text together. -/
def moreTexts (ofBytes : Bool) : Reader Unit := fun ps =>
  some ((), ps.dropWhile (· = .text ofBytes))

section Rules

variable (expression : Reader Shape)

/-- Reads items with commas between them, up to the part that closes them, after which a comma
may stand as well. -/
def items (item : Reader Shape) (closing : Part) : (fuel : Nat) → Reader (List Shape)
  | 0 => failure
  | fuel + 1 => do
    if ← tryTake closing then return []
    let shape ← item
    if ← tryTake closing then return [shape]
    take .comma
    return shape :: (← items item closing fuel)

/-- Reads what stands between parentheses, after the first: a tuple, or one literal. -/
def parenthesized : Reader Shape := do
  let fuel := (← get).length
  if ← tryTake .right then return .fixed
  let first ← expression
  if ← tryTake .right then return first
  take .comma
  let rest ← items expression .right fuel
  return if (first :: rest).contains .changing then .changing else .fixed

/-- Reads a key of a dictionary with its value. -/
def entry : Reader Shape := do
  let key ← expression
  take .colon
  let _ ← expression
  return key

/-- Reads what stands between braces, after the first: a dictionary or a set. -/
def braced : Reader Shape := do
  let fuel := (← get).length
  if ← tryTake .rightBrace then return .changing
  let first ← expression
  let isDictionary ← tryTake .colon
  if isDictionary then
    let _ ← expression
  let rest ← if ← tryTake .rightBrace then pure [] else do
    take .comma
    items (if isDictionary then entry expression else expression) .rightBrace fuel
  guard (!(first :: rest).contains .changing)
  return .changing

/-- Reads a literal without a sign. -/
def unsigned : Reader Shape := do
  match ← next with
  | .real => return .real false
  | .imaginary => return .imaginary false
  | .constant => return .fixed
  | .text ofBytes =>
    moreTexts ofBytes
    return .fixed
  | .setName =>
    take .left
    take .right
    return .changing
  | .left => parenthesized expression
  | .leftBrace => braced expression
  | _ => failure

/-- Reads a literal, a number perhaps with a sign. -/
def signed : Reader Shape := do
  if ← trySign then
    match ← unsigned expression with
    | .real false => return .real true
    | .imaginary false => return .imaginary true
    | _ => failure
  unsigned expression

/-- Reads a literal, or a real and an imaginary number together. -/
def sum : Reader Shape := do
  let first ← signed expression
  if ← trySign then
    match first, ← signed expression with
    | .real _, .imaginary false => return .fixed
    | _, _ => failure
  return first

end Rules

/-- Reads a literal with brackets up to the given depth. -/
def expression : (depth : Nat) → Reader Shape
  | 0 => failure
  | depth + 1 => sum (expression depth)

/-- The parts without the line breaks around them. -/
def trimBreaks (ps : List Part) : List Part :=
  let isBreak (p : Part) : Bool := p = .lineBreak
  ((ps.dropWhile isBreak).reverse.dropWhile isBreak).reverse

/-- Whether a text is a literal. A tuple may stand without its parentheses. -/
def accepts (text : List Char) : Bool :=
  let cs := Text.normalizeNewlines text
  match (parts 0 (cs.length + 1) cs).map trimBreaks with
  | none | some [] => false
  | some ps =>
    !cs.contains '\x00'
      && ((parenthesized (expression (nestingLimit + 1))).run (ps ++ [.right])).any (·.2.isEmpty)

end ExprScript.Layout.Literal
