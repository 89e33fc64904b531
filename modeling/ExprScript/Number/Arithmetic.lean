import ExprScript.Number.Whole

/-!
# Arithmetic

The operations of the language on numbers. Each takes the origin that an undefined result
has. A division by zero and a power outside its domain have the shared origin instead.
-/

namespace ExprScript.Number

/-- The sum of `x` and `y`. -/
def add (origin : Nat) (x y : Number) : Number :=
  ofFloat origin (x.toFloat + y.toFloat)

/-- The difference of `x` and `y`. -/
def sub (origin : Nat) (x y : Number) : Number :=
  ofFloat origin (x.toFloat - y.toFloat)

/-- The product of `x` and `y`. -/
def mul (origin : Nat) (x y : Number) : Number :=
  ofFloat origin (x.toFloat * y.toFloat)

/-- The quotient of `x` and `y`. A non-zero number divided by zero is infinite, with the
sign of the quotient; zero and an undefined number divided by zero are undefined. -/
def divide (origin : Nat) (x y : Number) : Number :=
  if y.isZero then
    if x.isZero || x.isUndefined then .undefined sharedOrigin
    else .infinite (x.isNegative != y.isNegative)
  else ofFloat origin (x.toFloat / y.toFloat)

/-- The number with the opposite sign. -/
def negate (origin : Nat) : Number → Number
  | .finite negative rank => .finite (!negative) rank
  | .infinite negative => .infinite (!negative)
  | .undefined _ => .undefined origin

/-- Whether the number is an odd integer. -/
def isOdd (x : Number) : Bool :=
  match x.whole? with
  | some i => i % 2 == 1
  | none => false

/-- The infinite result of a power: negative when a negative base has an odd exponent. -/
def infinitePower (base exponent : Number) : Number :=
  .infinite (exponent.isOdd && base.isNegative)

/-- The power of `base` to `exponent`. Zero to a negative exponent and a power too large
for a finite number are infinite; a negative base to a fractional exponent is undefined. -/
def power (origin : Nat) (base exponent : Number) : Number :=
  if base.isZero && exponent.isNegative && !exponent.isZero then infinitePower base exponent
  else
    match base.isFinite && exponent.isFinite,
      ofFloat sharedOrigin (Float.pow base.toFloat exponent.toFloat) with
    | true, .infinite _ => infinitePower base exponent
    | true, result => result
    | false, .undefined _ => .undefined origin
    | false, result => result

/-- Whether `x` is less than `y`; an undefined number is neither less nor greater. -/
def less (x y : Number) : Bool :=
  x.toFloat < y.toFloat

end ExprScript.Number
