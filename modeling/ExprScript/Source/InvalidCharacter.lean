import ExprScript.Source.Position
import ExprScript.Text.Quoted

/-!
# Invalid characters

A character outside the alphabet of the language is reported with its offset, and with its
position in the source when the source is known.
-/

namespace ExprScript.Source

/-- A character that no token can hold, where it stands, and the source it stands in. -/
structure InvalidCharacter where
  char : String
  offset : Int
  source : Option String

namespace InvalidCharacter

/-- The complaint without the position. -/
def message (e : InvalidCharacter) : String :=
  "Invalid character " ++ Text.quoted e.char ++ " at position " ++ Text.signedDecimal e.offset

/-- The complaint below the position in the source, as it is where the position can be
shown. -/
def text (e : InvalidCharacter) : String :=
  match e.source with
  | none => e.message
  | some source => Position.drawn ⟨source, e.offset⟩ ++ "\n" ++ e.message

/-- The complaint below the position in the source, where there is room for `room` blanks
in front of the marker. -/
def report (room : Nat) (e : InvalidCharacter) : Except Text.Oversized String :=
  match e.source with
  | none => .ok e.message
  | some source => Position.annotate room ⟨source, e.offset⟩ e.message

end InvalidCharacter

end ExprScript.Source
