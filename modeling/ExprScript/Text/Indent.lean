/-!
# Blanks in front of a text

A text is moved to the right by blanks in front of it. Their number has to be one that an
index can have, and there has to be room for them. A negative number of blanks is none.
-/

namespace ExprScript.Text

/-- Why blanks are not made: an index cannot have their number, or there is no room for
them. -/
inductive Oversized where
  | index
  | room

/-- The name of the class of errors to which the error belongs. -/
def Oversized.title : Oversized → String
  | .index => "OverflowError"
  | .room => "MemoryError"

/-- Whether an index can have the value. It has 64 bits, one of them for the sign. -/
def IsIndex (i : Int) : Prop :=
  -0x8000000000000000 ≤ i ∧ i < 0x8000000000000000

instance (i : Int) : Decidable (IsIndex i) :=
  inferInstanceAs (Decidable (_ ∧ _))

/-- The given number of blanks, where there is room for `room` of them. -/
def indent (room : Nat) (count : Int) : Except Oversized (List Char) :=
  if ¬ IsIndex count then .error .index
  else if room < count then .error .room
  else .ok (List.replicate count.toNat ' ')

end ExprScript.Text
