import ExprScript.Text.Grapheme

/-!
# Tables

A table has a title above it, a line of headers, and rows of cells between box-drawing
lines. A cell has a space on each side, and a column is as wide as its widest cell. When
the table is too wide for the terminal, the widest columns are narrowed until it is not,
and what no longer fits its column is cut and ends in an ellipsis.
-/

namespace ExprScript.Layout

open Text

/-- The header of a column, its cells, and whether they stand at its right side. -/
structure TableColumn where
  header : List Char
  cells : List (List Char)
  alignRight : Bool

/-- The width that the widest cell of the column needs, with its spaces. -/
def TableColumn.naturalWidth (c : TableColumn) : Nat :=
  ((c.header :: c.cells).map columns).foldl max 0 + 2

/-- The widths taken together. -/
def total (widths : List Nat) : Nat :=
  widths.foldl (· + ·) 0

/-- `n / d` rounded to the nearest integer, on a tie to the even one. -/
def roundDiv (n d : Nat) : Nat :=
  let q := n / d
  let r := n % d
  if 2 * r < d then q
  else if d < 2 * r then q + 1
  else q + q % 2

/-- Takes `excess` off the widths equal to `widest`, evenly and at most `most` off each;
there are `count` of them. -/
def narrow (widest most : Nat) : (excess count : Nat) → List Nat → List Nat
  | _, _, [] => []
  | excess, count, w :: ws =>
    if w = widest then
      let less := min most (roundDiv excess count)
      (w - less) :: narrow widest most (excess - less) (count - 1) ws
    else w :: narrow widest most excess count ws

/-- Narrows the widest columns to the width of the next widest ones, again and again, until
the widths are at most `limit` together. Every step makes a column narrower. -/
def collapse (limit : Nat) : (fuel : Nat) → List Nat → List Nat
  | 0, widths => widths
  | fuel + 1, widths =>
    let excess := total widths - limit
    let widest := widths.foldl max 0
    let second := (widths.filter (· ≠ widest)).foldl max 0
    if excess = 0 then widths
    else
      collapse limit fuel
        (narrow widest (min excess (widest - second)) excess (widths.count widest) widths)

/-- A cell at one side of its column, cut if it is too wide, with its spaces. -/
def cell (alignRight : Bool) (width : Nat) (cs : List Char) : List Char :=
  let room := width - 2
  let shown := if columns cs ≤ room then cs
    else Grapheme.fit (room - 1) (Grapheme.split cs) ++ ['…']
  let space := List.replicate (room - columns shown) ' '
  [' '] ++ (if alignRight then space ++ shown else shown ++ space) ++ [' ']

/-- The cells of one row between bars. -/
def row (bar : Char) (cells : List (List Char)) : List Char :=
  [bar] ++ (cells.intersperse [bar]).flatten ++ [bar]

/-- A line between rows: its left end, its stroke, its crossing and its right end. -/
def rule (left stroke cross right : Char) (widths : List Nat) : List Char :=
  [left] ++ ((widths.map (List.replicate · stroke)).intersperse [cross]).flatten ++ [right]

/-- The title in the middle of the width; an odd space goes to its right. -/
def centre (width : Nat) (title : List Char) : List Char :=
  let space := width - columns title
  List.replicate (space / 2) ' ' ++ title ++ List.replicate (space - space / 2) ' '

/-- The lines of a table with the given number of rows. -/
def tableLines (width : Nat) (title : List Char) (cols : List TableColumn) (rows : Nat) :
    List (List Char) :=
  let edges := cols.length + 1
  let natural := cols.map TableColumn.naturalWidth
  let widths := collapse (width - edges) (total natural) natural
  let header := (cols.zip widths).map fun (c, w) => cell c.alignRight w c.header
  let cellsOf (i : Nat) := (cols.zip widths).map fun (c, w) => cell c.alignRight w (c.cells.getD i [])
  [ centre (total widths + edges) title,
    rule '┏' '━' '┳' '┓' widths,
    row '┃' header,
    rule '┡' '━' '╇' '┩' widths ]
    ++ (List.range rows).map (fun i => row '│' (cellsOf i))
    ++ [rule '└' '─' '┴' '┘' widths]

/-- A table as it goes to a terminal of the given width. -/
def table (width : Nat) (title : String) (cols : List TableColumn) (rows : Nat) : String :=
  String.ofList ((tableLines width title.toList cols rows).flatMap (· ++ ['\n']))

end ExprScript.Layout
