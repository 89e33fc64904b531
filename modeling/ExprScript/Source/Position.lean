import ExprScript.Text.DecimalDigit
import ExprScript.Text.Indent
import ExprScript.Text.Lines

/-!
# Positions in a source

A position is a source with an offset into it, counted in characters from zero. It is
shown as its line and column, the text of the line with the line number in front, and a
marker under the column.

An offset need not lie in the source: an offset past the end belongs to the last line, and
a negative offset finds its line by counting from the end of the source. The blanks in
front of the marker may then be more than there can be, and the position cannot be shown.
-/

namespace ExprScript.Source

/-- A source with an offset into it. -/
structure Position where
  source : String
  offset : Int

namespace Position

/-- How many characters of the source precede the position. -/
def reach (p : Position) : Nat :=
  let size := p.source.toList.length
  if p.offset < 0 then (p.offset + size).toNat else min p.offset.toNat size

/-- The characters before the position. -/
def before (p : Position) : List Char :=
  p.source.toList.take p.reach

/-- The number of the line, from one. -/
def line (p : Position) : Nat :=
  p.before.count '\n' + 1

/-- The offset at which the line begins. -/
def lineStart (p : Position) : Nat :=
  p.reach - (p.before.reverse.takeWhile (· != '\n')).length

/-- The number of the column, from one. -/
def column (p : Position) : Int :=
  p.offset - p.lineStart + 1

/-- The text of the line. -/
def lineText (p : Position) : List Char :=
  (Text.lines p.source.toList).getD (p.line - 1) []

/-- What stands before the text of the line: its number, four characters wide, and a bar. -/
def gutter (p : Position) : List Char :=
  Text.padLeft 4 (Text.decimalDigits p.line) ++ [' ', '|', ' ']

/-- How many blanks stand in front of the marker. None do if the number is negative. -/
def indentation (p : Position) : Int :=
  p.gutter.length + p.column - 1

/-- The marker under the column. -/
def marker (p : Position) : List Char :=
  List.replicate p.indentation.toNat ' ' ++ ['^']

/-- The line and column, the line, and a last line under it. -/
def textAbove (p : Position) (last : List Char) : String :=
  Text.decimal p.line ++ ":" ++ Text.signedDecimal p.column ++ "\n"
    ++ String.ofList (p.gutter ++ p.lineText) ++ "\n" ++ String.ofList last

/-- The position as it is shown where it can be: line and column, the line, and the marker
under it. -/
def drawn (p : Position) : String :=
  p.textAbove p.marker

/-- The position as shown, where there is room for `room` blanks in front of the marker. -/
def text (room : Nat) (p : Position) : Except Text.Oversized String := do
  return p.textAbove ((← Text.indent room p.indentation) ++ ['^'])

/-- A message about the position, below the position as shown. -/
def annotate (room : Nat) (p : Position) (message : String) : Except Text.Oversized String := do
  return (← p.text room) ++ "\n" ++ message

end Position

end ExprScript.Source
