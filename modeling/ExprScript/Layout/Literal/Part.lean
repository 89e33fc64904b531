import ExprScript.Text.HexDigit
import ExprScript.Text.Word

/-!
# Parts of literals

A literal is made of numbers, texts or bytes between quotes, a few names, and punctuation
marks. Of each of them only its kind is kept. Blanks and comments, which begin with a number
sign, are passed over, and so are line breaks between brackets. Outside of brackets no line
begins with blanks.
-/

namespace ExprScript.Layout.Literal

open Text

/-- A part of a literal. -/
inductive Part where
  | real
  | imaginary
  | text (ofBytes : Bool)
  | constant
  | setName
  | left
  | right
  | leftBrace
  | rightBrace
  | comma
  | colon
  | plus
  | minus
  | lineBreak
  deriving DecidableEq

/-! ### Numbers -/

/-- The digits at the front of the characters, with single underscores before them left out,
and the characters after them. -/
def digitRun (accepts : Char → Bool) : List Char → List Char × List Char
  | [] => ([], [])
  | '_' :: c :: cs =>
    if accepts c then
      let (digits, after) := digitRun accepts cs
      (c :: digits, after)
    else ([], '_' :: c :: cs)
  | c :: cs =>
    if accepts c then
      let (digits, after) := digitRun accepts cs
      (c :: digits, after)
    else ([], c :: cs)

/-- The decimal digits at the front of the characters, if the first character is one. -/
def decimalRun (cs : List Char) : List Char × List Char :=
  if cs.head?.any Char.isDigit then digitRun Char.isDigit cs else ([], cs)

/-- The characters after an exponent, if one comes next. -/
def afterExponent? : List Char → Option (List Char)
  | [] => none
  | c :: cs =>
    let unsigned := match cs with
      | '+' :: rest | '-' :: rest => rest
      | _ => cs
    match decimalRun unsigned with
    | ([], _) => none
    | (_, after) => if c = 'e' || c = 'E' then some after else none

/-- The greatest number of digits of a decimal integer. -/
def digitLimit : Nat := 4300

/-- Whether the digits are those of an integer: it begins with a zero only if it is zero. -/
def isInteger (digits : List Char) : Bool :=
  digits.length ≤ digitLimit && (digits.head? ≠ some '0' || digits.all (· = '0'))

/-- Reads a decimal number, which begins with a digit or a point. -/
def decimalNumber (cs : List Char) : Option (Part × List Char) :=
  let (whole, afterWhole) := decimalRun cs
  let afterFraction := match afterWhole with
    | '.' :: rest => some (decimalRun rest).2
    | _ => none
  let beforeExponent := afterFraction.getD afterWhole
  let exponent := afterExponent? beforeExponent
  match exponent.getD beforeExponent with
  | 'j' :: rest | 'J' :: rest => some (.imaginary, rest)
  | rest =>
    if afterFraction.isSome || exponent.isSome || isInteger whole then some (.real, rest)
    else none

/-- The base that a letter after a zero stands for. -/
def radix? : Char → Option Nat
  | 'x' | 'X' => some 16
  | 'o' | 'O' => some 8
  | 'b' | 'B' => some 2
  | _ => none

/-- Reads a number, which begins with a digit or a point. -/
def number (cs : List Char) : Option (Part × List Char) :=
  match cs with
  | '0' :: letter :: rest =>
    match radix? letter with
    | some base =>
      let (digits, after) := digitRun (isDigitOf base) rest
      if digits.isEmpty then none else some (.real, after)
    | none => decimalNumber cs
  | _ => decimalNumber cs

/-! ### Texts -/

/-- How a text is written: as bytes or as characters, with plain backslashes or with escapes,
between three quotes or between one. -/
structure Quotation where
  ofBytes : Bool
  raw : Bool
  long : Bool
  quote : Char

/-- The value of the first `count` characters as hexadecimal digits. -/
def hexNumber? (count : Nat) (cs : List Char) : Option Nat :=
  let digits := cs.take count
  if digits.length = count && digits.all (isDigitOf 16) then some (ofDigitsOf 16 digits) else none

/-- Whether the characters begin with a name between braces. -/
def beginsName : List Char → Bool
  | '\x7b' :: cs =>
    let name := cs.takeWhile (fun c => c.isAlphanum || c = ' ' || c = '-')
    !name.isEmpty && (cs.drop name.length).head? = some '\x7d'
  | _ => false

/-- Whether a backslash with `c` after it begins an escape, where the given characters come
next. An unknown escape stands for itself. -/
def Quotation.allowsEscape (q : Quotation) (c : Char) (cs : List Char) : Bool :=
  match c with
  | 'x' => q.raw || (hexNumber? 2 cs).isSome
  | 'u' => q.raw || q.ofBytes || (hexNumber? 4 cs).isSome
  | 'U' => q.raw || q.ofBytes || (hexNumber? 8 cs).any (· < 0x110000)
  | 'N' => q.raw || q.ofBytes || beginsName cs
  | _ => true

/-- Whether `c` may stand in the text. -/
def Quotation.allows (q : Quotation) (c : Char) : Bool :=
  !q.ofBytes || c.toNat < 128

/-- The characters after a text whose opening quotes have been read. -/
def Quotation.after? (q : Quotation) : List Char → Option (List Char)
  | [] | ['\\'] => none
  | '\\' :: c :: cs => if q.allows c && q.allowsEscape c cs then q.after? cs else none
  | c :: cs =>
    if q.long then
      if [q.quote, q.quote, q.quote].isPrefixOf (c :: cs) then some (cs.drop 2)
      else if q.allows c then q.after? cs
      else none
    else if c = q.quote then some cs
    else if q.allows c && c ≠ '\n' then q.after? cs
    else none

/-- Reads a text whose letters before the quotes have been read. -/
def text (ofBytes raw : Bool) : List Char → Option (Part × List Char)
  | [] => none
  | quote :: cs =>
    let long := [quote, quote].isPrefixOf cs
    let body := if long then cs.drop 2 else cs
    ((⟨ofBytes, raw, long, quote⟩ : Quotation).after? body).map (.text ofBytes, ·)

/-- Whether `c` is a quote. -/
def isQuote (c : Char) : Bool :=
  c = '\'' || c = '"'

/-- Reads a text with letters before it, or a name that is part of literals. -/
def name (cs : List Char) : Option (Part × List Char) :=
  let word := cs.takeWhile isWordChar
  let rest := cs.drop word.length
  if rest.head?.any isQuote then
    match String.ofList (word.map Char.toLower) with
    | "" | "u" => text false false rest
    | "r" => text false true rest
    | "b" => text true false rest
    | "br" | "rb" => text true true rest
    | _ => none
  else
    match String.ofList word with
    | "None" | "True" | "False" => some (.constant, rest)
    | "set" => some (.setName, rest)
    | _ => none

/-! ### Parts -/

/-- The part that a punctuation mark is. -/
def mark? : Char → Option Part
  | '(' => some .left
  | ')' => some .right
  | '\x7b' => some .leftBrace
  | '\x7d' => some .rightBrace
  | ',' => some .comma
  | ':' => some .colon
  | '+' => some .plus
  | '-' => some .minus
  | _ => none

/-- Reads the next part. -/
def part? (cs : List Char) : Option (Part × List Char) :=
  match cs with
  | [] => none
  | '.' :: '.' :: '.' :: rest => some (.constant, rest)
  | '.' :: c :: _ => if c.isDigit then number cs else none
  | c :: rest =>
    match mark? c with
    | some mark => some (mark, rest)
    | none => if c.isDigit then number cs else name cs

/-- How deep brackets may nest. -/
def nestingLimit : Nat := 200

/-- The number of brackets that are open after a part, if it leaves any. -/
def depthAfter? (depth : Nat) : Part → Option Nat
  | .left | .leftBrace => if depth < nestingLimit then some (depth + 1) else none
  | .right | .rightBrace => if depth = 0 then none else some (depth - 1)
  | _ => some depth

/-- Whether a line that holds a part begins with blanks. -/
def isIndented (line : List Char) : Bool :=
  match line.dropWhile (fun c => c = ' ' || c = '\t') with
  | [] | '\n' :: _ | '#' :: _ => false
  | c :: _ => line.head? ≠ some c

/-- The parts of a text, with `depth` brackets open before it. Each step takes a character, so
`fuel` beyond their number is never used up. -/
def parts (depth : Nat) : (fuel : Nat) → List Char → Option (List Part)
  | 0, _ => none
  | _ + 1, [] => some []
  | fuel + 1, c :: cs =>
    if c = ' ' || c = '\t' || c = '\x0c' then parts depth fuel cs
    else if c = '#' then parts depth fuel (cs.dropWhile (· ≠ '\n'))
    else if c = '\\' then
      match cs with
      | '\n' :: rest => if rest.isEmpty then none else parts depth fuel rest
      | _ => none
    else if c = '\n' then
      if depth = 0 && isIndented cs then none
      else (parts depth fuel cs).map fun ps => if depth = 0 then .lineBreak :: ps else ps
    else do
      let (part, rest) ← part? (c :: cs)
      let depth ← depthAfter? depth part
      return part :: (← parts depth fuel rest)

end ExprScript.Layout.Literal
