import ExprScript.Number.Shortest
import ExprScript.Number.Whole

/-!
# Numbers as text

`Number.literal` writes a number with a point or an exponent: positionally when its
leading digit stands for `10 ^ (-4)` up to `10 ^ 15`, and otherwise with an exponent of at
least two digits. `Number.text` writes a whole number as an integer with all its digits,
and any other number as its literal.
-/

namespace ExprScript.Number

/-- The exponent as written: a sign and at least two digits. -/
def exponentText (e : Int) : String :=
  let digits := Text.decimal e.natAbs
  let padded := if digits.length < 2 then "0" ++ digits else digits
  (if e < 0 then "e-" else "e+") ++ padded

/-- A positive decimal as written. -/
def Decimal.text (d : Decimal) : String :=
  let digits := Text.decimalDigits d.digits
  let count := digits.length
  let top : Int := d.scale + count - 1
  if -4 ≤ top ∧ top < 16 then
    match d.scale with
    | .ofNat zeros => String.ofList (digits ++ List.replicate zeros '0') ++ ".0"
    | .negSucc k =>
      if k + 1 < count then
        String.ofList (digits.take (count - (k + 1))) ++ "."
          ++ String.ofList (digits.drop (count - (k + 1)))
      else "0." ++ String.ofList (List.replicate (k + 1 - count) '0' ++ digits)
  else
    match digits with
    | [] => ""
    | [lead] => String.ofList [lead] ++ exponentText top
    | lead :: rest => String.ofList (lead :: '.' :: rest) ++ exponentText top

/-- The magnitude of the given rank as written. -/
def magnitudeText (rank : Nat) : String :=
  if rank = 0 then "0.0" else (shortest rank).text

/-- A number as a literal, such as `1.0`, `-0.0`, `1e+16`, `inf` and `nan`. -/
def literal : Number → String
  | .finite negative rank => (if negative then "-" else "") ++ magnitudeText rank.val
  | .infinite negative => if negative then "-inf" else "inf"
  | .undefined _ => "nan"

/-- A number as results show it: a whole number as an integer, any other as its literal. -/
def text (x : Number) : String :=
  match x.whole? with
  | some i => Text.signedDecimal i
  | none => x.literal

end ExprScript.Number
