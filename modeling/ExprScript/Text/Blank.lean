import ExprScript.Text.RangeTable

/-!
# Blank characters

The characters that separate tokens and that trimming removes: the ASCII blanks with the
four information separators, and the spaces and line separators of other scripts.
-/

namespace ExprScript.Text

/-- The ranges of code points that are blank. -/
def blankTable : RangeTable where
  ranges :=
    [ (0x9, 0xd), (0x1c, 0x20), (0x85, 0x85), (0xa0, 0xa0), (0x1680, 0x1680), (0x2000, 0x200a),
      (0x2028, 0x2029), (0x202f, 0x202f), (0x205f, 0x205f), (0x3000, 0x3000) ]
  increasing := by decide +kernel

/-- Whether `c` is blank. -/
def isBlank (c : Char) : Bool :=
  blankTable.covers c.toNat

/-- The characters without the blanks at their end. -/
def trimEnd (cs : List Char) : List Char :=
  (cs.reverse.dropWhile isBlank).reverse

/-- The characters without the blanks at either end. -/
def trim (cs : List Char) : List Char :=
  trimEnd (cs.dropWhile isBlank)

end ExprScript.Text
