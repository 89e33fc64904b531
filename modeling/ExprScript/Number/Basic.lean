/-!
# Numbers

Numbers are the floating point numbers of 64 bits. A finite number is a sign and the rank
of its magnitude: the finite magnitudes are numbered from zero upwards, in steps of
`2 ^ (-1074)` below the first `2 ^ 52` of them, and then with every further `2 ^ 52` in
steps twice as large. So the rank is the exponent field followed by the fraction field of
the usual encoding.

An undefined number (one with no value, such as zero divided by zero) remembers where it
was made. Two undefined numbers are the same exactly when they have one origin, and the
origin `Number.sharedOrigin` is the one all invalid divisions and powers have in common.
-/

namespace ExprScript

/-- How many fraction values there are to an exponent. -/
def Number.fractions : Nat := 0x10000000000000

/-- How many finite magnitudes there are. -/
def Number.magnitudes : Nat := 0x7ff0000000000000

/-- A floating point number of 64 bits; an undefined one carries its origin. -/
inductive Number where
  | finite (negative : Bool) (rank : Fin Number.magnitudes)
  | infinite (negative : Bool)
  | undefined (origin : Nat)
  deriving DecidableEq

namespace Number

/-- The origin of every undefined result of a division by zero or of a power outside its
domain. -/
def sharedOrigin : Nat := 0

/-- The number zero. -/
def zero : Number := .finite false ⟨0, by decide⟩

/-- The number one. -/
def one : Number := .finite false ⟨0x3ff0000000000000, by decide⟩

/-- Whether the number is zero, of either sign. -/
def isZero : Number → Bool
  | .finite _ rank => rank.val == 0
  | _ => false

/-- Whether the number is finite. -/
def isFinite : Number → Bool
  | .finite _ _ => true
  | _ => false

/-- Whether the number is undefined. -/
def isUndefined : Number → Bool
  | .undefined _ => true
  | _ => false

/-- Whether the number carries a minus sign; zero may. -/
def isNegative : Number → Bool
  | .finite negative _ => negative
  | .infinite negative => negative
  | .undefined _ => false

/-- The magnitude of the given rank is `significand * 2 ^ exponent`. -/
def significand (rank : Nat) : Nat :=
  if rank < fractions then rank else fractions + rank % fractions

/-- The power of two that the significand of the magnitude of the given rank counts. -/
def exponent (rank : Nat) : Int :=
  if rank < fractions then -1074 else (rank / fractions : Nat) - 1075

/-- Whether two numbers are equal: undefined ones when they have one origin, and the others
when they have one value, so that the two zeros are equal. -/
def same : Number → Number → Bool
  | .finite s m, .finite t n => (m.val == n.val) && (s == t || m.val == 0)
  | .infinite s, .infinite t => s == t
  | .undefined i, .undefined j => i == j
  | _, _ => false

/-! ### Encoding -/

/-- The sign bit. -/
def signBit (negative : Bool) : Nat :=
  if negative then 0x8000000000000000 else 0

/-- The 64 bits of a number. -/
def toBits : Number → UInt64
  | .finite negative rank => UInt64.ofNat (signBit negative + rank.val)
  | .infinite negative => UInt64.ofNat (signBit negative + magnitudes)
  | .undefined _ => 0x7ff8000000000000

/-- The number that 64 bits encode; an undefined one has the given origin. -/
def ofBits (origin : Nat) (bits : UInt64) : Number :=
  let negative := bits.toNat ≥ 0x8000000000000000
  let magnitude := bits.toNat % 0x8000000000000000
  if h : magnitude < magnitudes then .finite negative ⟨magnitude, h⟩
  else if magnitude = magnitudes then .infinite negative
  else .undefined origin

/-- The number as a machine word for arithmetic. -/
def toFloat (x : Number) : Float :=
  Float.ofBits x.toBits

/-- The result of machine arithmetic; an undefined one has the given origin. -/
def ofFloat (origin : Nat) (x : Float) : Number :=
  if x.isNaN then .undefined origin else ofBits origin x.toBits

end Number

end ExprScript
