import ExprScript.Text.Blank
import ExprScript.Text.Grapheme
import ExprScript.Text.Lines

/-!
# Wrapped text

Text goes to a terminal of a given width. Control characters that move the cursor are
dropped and tabs are filled up to the next stop. A line too long for the width is broken
between words. A word is a run of characters that are not blank, with the blanks after it
(and those before it, at the start of a line). It goes on the current line if it fits
there without the blanks after it, and otherwise on a line of its own; a word wider than
the whole line is chopped. What blanks still stand beyond the width are cut off.
-/

namespace ExprScript.Layout

open Text

/-- The width of the terminal. -/
def width : Nat := 80

/-- The distance between tab stops. -/
def tabStop : Nat := 8

/-- Whether `c` would move the cursor of a terminal: bell, backspace, vertical tab, form
feed and carriage return. -/
def movesCursor (c : Char) : Bool :=
  [7, 8, 11, 12, 13].contains c.toNat

/-- The line with its tabs filled up to the next stop. The characters `done` stand before
it, in reverse, since the last tab, which ended in the given column. A tab is a space at
least. -/
def expandTabs (column : Nat) (done : List Char) : List Char → List Char
  | [] => done.reverse
  | '\t' :: cs =>
    let part := (' ' :: done).reverse
    let stop := column + columns part
    let space := (tabStop - stop % tabStop) % tabStop
    part ++ List.replicate space ' ' ++ expandTabs (stop + space) [] cs
  | c :: cs => expandTabs column (c :: done) cs

/-- The words of a line, each with its blanks; there are fewer of them than `fuel`. -/
def words : (fuel : Nat) → List Char → List (List Char)
  | 0, _ => []
  | fuel + 1, cs =>
    let rest := cs.dropWhile isBlank
    let after := rest.dropWhile (!isBlank ·)
    if rest.isEmpty then []
    else
      (cs.takeWhile isBlank ++ rest.takeWhile (!isBlank ·) ++ after.takeWhile isBlank)
        :: words fuel (after.dropWhile isBlank)

/-- The lines of `current`, which takes `used` columns, followed by the given words. -/
def fill (width used : Nat) (current : List Char) : List (List Char) → List (List Char)
  | [] => [current]
  | word :: rest =>
    let size := columns (trimEnd word)
    let before := if current.isEmpty then [] else [current]
    if used + size ≤ width then fill width (used + columns word) (current ++ word) rest
    else if size ≤ width then before ++ fill width (columns word) word rest
    else
      let pieces := chopTo width word
      let last := pieces.getLast?.getD []
      before ++ pieces.dropLast ++ fill width (columns last) last rest

/-- The line without the blanks at its end that exceed the width, counted in characters. -/
def cropBlanks (width : Nat) (line : List Char) : List Char :=
  let blanks := line.length - (trimEnd line).length
  line.take (line.length - min blanks (line.length - width))

/-- The lines that one line of text takes. A line of blanks only is not broken. -/
def wrapLine (width : Nat) (line : List Char) : List (List Char) :=
  let cs := expandTabs 0 [] line
  let broken := match words (cs.length + 1) cs with
    | [] => [cs]
    | ws => fill width 0 [] ws
  broken.map fun line => cropTo width (cropBlanks width line)

/-- The text as it goes to the terminal. -/
def wrap (text : String) : String :=
  let cs := text.toList.filter (!movesCursor ·)
  String.ofList ((((lines cs).flatMap (wrapLine width)).intersperse ['\n']).flatten)

end ExprScript.Layout
