import ExprScript.Number.Arithmetic
import ExprScript.Text.DecimalDigit
import ExprScript.Text.HexDigit
import ExprScript.Toml.Datum
import ExprScript.Toml.Reader

/-!
# Scalars of a TOML document

Reading the parts of a TOML document that hold no others: blanks and comments, keys,
strings, numbers, dates and times.
-/

namespace ExprScript.Toml

/-! ### Characters -/

/-- Whether `c` is a control character other than a tab. -/
def isControl (c : Char) : Bool :=
  (c.toNat < 32 && c ≠ '\t') || c.toNat = 127

/-- Whether `c` separates the parts of a line. -/
def isGap (c : Char) : Bool :=
  c = ' ' || c = '\t'

/-- Whether `c` may stand in a key without quotes. -/
def isKeyChar (c : Char) : Bool :=
  c.isAlphanum || c = '-' || c = '_'

/-- Reads the blanks of a line. -/
def skipGaps : Reader Unit := do
  let _ ← takeWhile isGap

/-- Reads a comment up to the end of its line, if one comes next. -/
def skipComment : Reader Unit := do
  if ← tryTake ['#'] then
    let comment ← takeWhile (· ≠ '\n')
    guard (!comment.any isControl)

/-- Reads blanks, newlines and comments; there are fewer of them than `fuel`. -/
def skipLines : (fuel : Nat) → Reader Unit
  | 0 => return
  | fuel + 1 => do
    let before := (← get).length
    let _ ← takeWhile (fun c => isGap c || c = '\n')
    skipComment
    if (← get).length < before then skipLines fuel

/-! ### Strings -/

/-- Reads `count` hexadecimal digits after those that make up `value`. -/
def hexNumber (value : Nat) : (count : Nat) → Reader Nat
  | 0 => return value
  | count + 1 => do
    match Text.hexValue? (← next) with
    | some digit => hexNumber (16 * value + digit) count
    | none => failure

/-- Reads a character given by its code point in `count` hexadecimal digits. -/
def codePoint (count : Nat) : Reader (List Char) := do
  let n ← hexNumber 0 count
  guard (n < 0xd800 || (0xdfff < n && n < 0x110000))
  return [Char.ofNat n]

/-- Reads what an escaped line break hides: the rest of the blanks of the line with its
newline, and the blanks and newlines after it. The blanks may also end the document. -/
def hiddenBreak (first : Char) : Reader (List Char) := do
  if first ≠ '\n' then
    skipGaps
    match ← peek? with
    | none => return []
    | some c =>
      guard (c = '\n')
      let _ ← next
  let _ ← takeWhile (fun c => isGap c || c = '\n')
  return []

/-- Reads the part of an escape after its backslash. -/
def escape (multiline : Bool) : Reader (List Char) := do
  let c ← next
  if multiline && (isGap c || c = '\n') then hiddenBreak c
  else
    match c with
    | 'u' => codePoint 4
    | 'U' => codePoint 8
    | 'b' => return ['\x08']
    | 't' => return ['\t']
    | 'n' => return ['\n']
    | 'f' => return ['\x0c']
    | 'r' => return ['\r']
    | '"' => return ['"']
    | '\\' => return ['\\']
    | _ => failure

/-- Reads a string between double quotes after its opening quotes, and after `done`, which
is in reverse. Each step takes a character, so `fuel` beyond their number is never used
up. -/
def basicString (multiline : Bool) : (fuel : Nat) → (done : List Char) → Reader (List Char)
  | 0, _ => failure
  | fuel + 1, done => do
    if multiline then
      if ← tryTake ['"', '"', '"'] then return done.reverse
    match ← next with
    | '"' => if multiline then basicString multiline fuel ('"' :: done) else return done.reverse
    | '\\' =>
      let cs ← escape multiline
      basicString multiline fuel (cs.reverse ++ done)
    | c =>
      guard (!isControl c || (multiline && c = '\n'))
      basicString multiline fuel (c :: done)

/-- Reads a string between single quotes after its opening quote. -/
def literalString : Reader (List Char) := do
  let cs ← takeWhile (· ≠ '\'')
  take ['\'']
  guard (!cs.any isControl)
  return cs

/-- Reads a string between triple single quotes after its opening quotes, and after `done`,
which is in reverse. -/
def longLiteral : (fuel : Nat) → (done : List Char) → Reader (List Char)
  | 0, _ => failure
  | fuel + 1, done => do
    if ← tryTake ['\'', '\'', '\''] then return done.reverse
    let c ← next
    guard (!isControl c || c = '\n')
    longLiteral fuel (c :: done)

/-- Reads up to two more quotes, which belong to a string that closes with more than three
of them. -/
def extraQuotes (quote : Char) (cs : List Char) : Reader (List Char) := do
  if ← tryTake [quote] then
    if ← tryTake [quote] then return cs ++ [quote, quote]
    return cs ++ [quote]
  return cs

/-- Reads a string of either kind on one line or on several. -/
def string : Reader (List Char) := do
  let fuel := (← get).length
  if ← tryTake ['"', '"', '"'] then
    let _ ← tryTake ['\n']
    extraQuotes '"' (← basicString true fuel [])
  else if ← tryTake ['\'', '\'', '\''] then
    let _ ← tryTake ['\n']
    extraQuotes '\'' (← longLiteral fuel [])
  else if ← tryTake ['"'] then basicString false fuel []
  else
    take ['\'']
    literalString

/-! ### Keys -/

/-- Reads one part of a key: a bare one, or a string on one line. -/
def keyPart : Reader String := do
  let fuel := (← get).length
  if ← tryTake ['"'] then return String.ofList (← basicString false fuel [])
  if ← tryTake ['\''] then return String.ofList (← literalString)
  let cs ← takeWhile isKeyChar
  guard (!cs.isEmpty)
  return String.ofList cs

/-- Reads the further parts of a key, each after a point. -/
def keyRest : (fuel : Nat) → Reader (List String)
  | 0 => return []
  | fuel + 1 => do
    skipGaps
    if ← tryTake ['.'] then
      skipGaps
      let part ← keyPart
      return part :: (← keyRest fuel)
    return []

/-- Reads a key and the blanks after it. -/
def key : Reader (List String) := do
  let part ← keyPart
  return part :: (← keyRest (← get).length)

/-! ### Dates and times -/

/-- Reads two digits that make a number from `low` to `high`. -/
def twoDigits (low high : Nat) : Reader Nat := do
  let a ← next
  let b ← next
  guard (a.isDigit && b.isDigit)
  let n := 10 * (a.toNat - '0'.toNat) + (b.toNat - '0'.toNat)
  guard (low ≤ n && n ≤ high)
  return n

/-- Reads a time of the day. -/
def clock : Reader Unit := do
  let _ ← twoDigits 0 23
  take [':']
  let _ ← twoDigits 0 59
  take [':']
  let _ ← twoDigits 0 59
  let fraction : Reader Unit := do
    take ['.']
    let digits ← takeWhile Char.isDigit
    guard (!digits.isEmpty)
  fraction <|> return

/-- Reads the distance of a time from universal time. -/
def timeOffset : Reader Unit := do
  let c ← next
  if c = 'Z' || c = 'z' then return
  guard (c = '+' || c = '-')
  let _ ← twoDigits 0 23
  take [':']
  let _ ← twoDigits 0 59

/-- The number of days of a month. -/
def monthDays (year month : Nat) : Nat :=
  if month = 2 then
    if year % 4 = 0 ∧ (year % 100 ≠ 0 ∨ year % 400 = 0) then 29 else 28
  else if month = 4 ∨ month = 6 ∨ month = 9 ∨ month = 11 then 30
  else 31

/-- Reads a date, with a time of the day if one follows, and tells whether there is such a
day. -/
def date : Reader Bool := do
  let century ← twoDigits 0 99
  let year := 100 * century + (← twoDigits 0 99)
  take ['-']
  let month ← twoDigits 1 12
  take ['-']
  let day ← twoDigits 1 31
  let time : Reader Unit := do
    let c ← next
    guard (c = 'T' || c = 't' || c = ' ')
    clock
    timeOffset <|> return
  time <|> return
  return 1 ≤ year && day ≤ monthDays year month

/-! ### Numbers -/

/-- Reads digits that `accepts` accepts, at least one, with single underscores between
them. -/
def digits (accepts : Char → Bool) : (fuel : Nat) → Reader (List Char)
  | 0 => failure
  | fuel + 1 => do
    let c ← next
    guard (accepts c)
    let more : Reader (List Char) := do
      let _ ← tryTake ['_']
      digits accepts fuel
    let rest ← more <|> return []
    return c :: rest

/-- Reads an integer in another base, after its zero and letter. -/
def radixNumber (letter : Char) (base : Nat) : Reader PlainData := do
  take ['0', letter]
  let cs ← digits (Text.isDigitOf base) (← get).length
  return .whole (Text.ofDigitsOf base cs)

/-- Reads a sign, if one comes next, and tells whether it is a minus. -/
def sign : Reader Bool := do
  if ← tryTake ['-'] then return true
  let _ ← tryTake ['+']
  return false

/-- The number `± m * 10 ^ e`. -/
def scientific (negative : Bool) (m : Nat) (e : Int) : Number :=
  let size := (Text.decimalDigits m).length
  let magnitude :=
    if m = 0 ∨ e + size < -400 then Number.zero
    else if 400 < e then Number.infinite false
    else Number.ofFloat Number.sharedOrigin (Float.ofScientific m (e < 0) e.natAbs)
  if negative then magnitude.negate Number.sharedOrigin else magnitude

/-- Reads the whole part of a decimal number: a zero alone, or digits that begin with
another. -/
def wholePart : Reader (List Char) := do
  if ← tryTake ['0'] then return ['0']
  digits Char.isDigit (← get).length

/-- The greatest number of digits of a decimal integer. -/
def digitLimit : Nat := 4300

/-- Reads a decimal number. Without a fraction and an exponent it is an integer, which may
not have too many digits. -/
def decimalNumber : Reader PlainData := do
  let fuel := (← get).length
  let negative ← sign
  let whole ← wholePart
  let fractionPart : Reader (List Char) := do
    take ['.']
    digits Char.isDigit fuel
  let fraction ← (some <$> fractionPart) <|> return none
  let exponentPart : Reader Int := do
    let c ← next
    guard (c = 'e' || c = 'E')
    let minus ← sign
    let cs ← digits Char.isDigit fuel
    return if minus then -(Text.ofDigitsOf 10 cs : Int) else Text.ofDigitsOf 10 cs
  let exponent ← (some <$> exponentPart) <|> return none
  match fraction, exponent with
  | none, none =>
    if digitLimit < whole.length then surrender .numberTooLong
    return .whole (Number.signedInt negative (Text.ofDigitsOf 10 whole))
  | _, _ =>
    let places := fraction.getD []
    return .number
      (scientific negative (Text.ofDigitsOf 10 (whole ++ places)) (exponent.getD 0 - places.length))

/-- Reads an infinite or undefined number by its name. -/
def namedNumber : Reader PlainData := do
  let negative ← sign
  if ← tryTake ['i', 'n', 'f'] then return .number (.infinite negative)
  take ['n', 'a', 'n']
  return .number (.undefined Number.sharedOrigin)

/-- Reads a value that holds no others. A date that does not exist is no number either. -/
def scalar : Reader PlainData := do
  match ← peek? with
  | some '"' | some '\'' => return .text (String.ofList (← string))
  | _ =>
    if ← tryTake ['t', 'r', 'u', 'e'] then return .truth true
    if ← tryTake ['f', 'a', 'l', 's', 'e'] then return .truth false
    let day : Reader (Option Bool) := (some <$> date) <|> return none
    match ← day with
    | some isDay =>
      guard isDay
      return .moment
    | none =>
      let time : Reader PlainData := do
        clock
        return .moment
      time <|> radixNumber 'x' 16 <|> radixNumber 'b' 2 <|> radixNumber 'o' 8
        <|> decimalNumber <|> namedNumber

end ExprScript.Toml
