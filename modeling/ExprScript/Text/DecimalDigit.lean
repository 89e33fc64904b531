/-!
# Decimal digits

The decimal digits of every script: the code points of the general category Nd, as of
Unicode 14. A script has its ten digits in a row, from zero to nine, so the table keeps
only the zeros, and a digit is read off its distance from the zero of its script.
-/

namespace ExprScript.Text

/-- The code points of the digit zero in each script, in increasing order. -/
def digitZeros : List Nat :=
  [ 0x30, 0x660, 0x6f0, 0x7c0, 0x966, 0x9e6, 0xa66, 0xae6, 0xb66, 0xbe6, 0xc66, 0xce6, 0xd66,
    0xde6, 0xe50, 0xed0, 0xf20, 0x1040, 0x1090, 0x17e0, 0x1810, 0x1946, 0x19d0, 0x1a80, 0x1a90,
    0x1b50, 0x1bb0, 0x1c40, 0x1c50, 0xa620, 0xa8d0, 0xa900, 0xa9d0, 0xa9f0, 0xaa50, 0xabf0,
    0xff10, 0x104a0, 0x10d30, 0x11066, 0x110f0, 0x11136, 0x111d0, 0x112f0, 0x11450, 0x114d0,
    0x11650, 0x116c0, 0x11730, 0x118e0, 0x11950, 0x11c50, 0x11d50, 0x11da0, 0x16a60, 0x16ac0,
    0x16b50, 0x1d7ce, 0x1d7d8, 0x1d7e2, 0x1d7ec, 0x1d7f6, 0x1e140, 0x1e2f0, 0x1e950, 0x1fbf0 ]

/-- The value of the digit at code point `n`, given the zeros in increasing order. -/
def digitFrom (n : Nat) : List Nat → Option Nat
  | [] => none
  | z :: rest =>
    if n < z then none
    else if n < z + 10 then some (n - z)
    else digitFrom n rest

/-- The value of `c` when it is a decimal digit of some script. -/
def digitValue? (c : Char) : Option Nat :=
  digitFrom c.toNat digitZeros

/-- Whether `c` is a decimal digit of some script. -/
def isDigit (c : Char) : Bool :=
  (digitValue? c).isSome

/-- The number a run of digits denotes in base ten; a character that is no digit counts
as zero. -/
def ofDigits (cs : List Char) : Nat :=
  cs.foldl (fun n c => 10 * n + (digitValue? c).getD 0) 0

/-- The digits of `n` in base ten, most significant first. -/
def decimalDigits (n : Nat) : List Char :=
  Nat.toDigits 10 n

/-- The text of `n` in base ten. -/
def decimal (n : Nat) : String :=
  String.ofList (decimalDigits n)

/-- The text of an integer in base ten, with a sign only when it is negative. -/
def signedDecimal : Int → String
  | .ofNat n => decimal n
  | .negSucc n => "-" ++ decimal (n + 1)

end ExprScript.Text
