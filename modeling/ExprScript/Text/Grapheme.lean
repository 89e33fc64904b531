import ExprScript.Text.Width

/-!
# Columns of a terminal

A grapheme is a character with the characters that are shown in its place: marks that take
no column, a variation selector that asks for a picture, and what a joiner joins to it.
A run of characters is measured in columns, cut to a width between its graphemes, and
chopped into pieces of a width.
-/

namespace ExprScript.Text

/-- The character that joins two pictures into one. -/
def joiner : Char := '\u200d'

/-- The character that asks for a picture in place of the character before it. -/
def pictureSelector : Char := '\ufe0f'

/-- The number of columns a run of characters takes, after characters that take `done`
columns, of which `last` is the last that takes a column and was not yet widened. A joiner
hides the character after it. -/
def measure (done : Nat) (last : Option Char) : List Char → Nat
  | [] => done
  | [c] =>
    if c = joiner then done
    else if c = pictureSelector then done + (if last.any widensAsPicture then 1 else 0)
    else done + charColumns c
  | c :: d :: cs =>
    if c = joiner then measure done last cs
    else if c = pictureSelector then
      measure (done + (if last.any widensAsPicture then 1 else 0)) none (d :: cs)
    else if charColumns c = 0 then measure done last (d :: cs)
    else measure (done + charColumns c) (some c) (d :: cs)

/-- The number of columns a run of characters takes. -/
def columns (cs : List Char) : Nat :=
  measure 0 none cs

/-- Characters shown in one place and the number of columns they take. -/
structure Grapheme where
  chars : List Char
  width : Nat

namespace Grapheme

/-- The grapheme with more characters that take no further column. -/
def extend (g : Grapheme) (cs : List Char) : Grapheme :=
  { g with chars := g.chars ++ cs }

/-- The graphemes of a run of characters, after the grapheme `open?`, which may go on; `last`
is the last character that takes a column and was not yet widened. -/
def collect (open? : Option Grapheme) (last : Option Char) : List Char → List Grapheme
  | [] => open?.toList
  | c :: cs =>
    match open? with
    | none =>
      if c = joiner || c = pictureSelector then collect (some ⟨[c], 0⟩) last cs
      else collect (some ⟨[c], charColumns c⟩) (if charColumns c = 0 then last else some c) cs
    | some g =>
      if c = joiner then
        match cs with
        | [] => [g.extend [c]]
        | d :: rest => collect (some (g.extend [c, d])) last rest
      else if c = pictureSelector then
        if last.any widensAsPicture then
          collect (some ⟨g.chars ++ [c], g.width + 1⟩) none cs
        else collect (some (g.extend [c])) last cs
      else if charColumns c = 0 then collect (some (g.extend [c])) last cs
      else g :: collect (some ⟨[c], charColumns c⟩) (some c) cs

/-- The graphemes of a run of characters. -/
def split (cs : List Char) : List Grapheme :=
  collect none none cs

/-- The graphemes that fit the width. A space stands for one that would go across its
end. -/
def fit (width : Nat) : List Grapheme → List Char
  | [] => []
  | g :: gs =>
    if g.width ≤ width then g.chars ++ fit (width - g.width) gs
    else if width = 0 then [] else [' ']

/-- The graphemes in pieces of the given width, after the piece `done`, which takes `used`
columns. -/
def chop (width used : Nat) (done : List Char) : List Grapheme → List (List Char)
  | [] => [done]
  | g :: gs =>
    if used + g.width ≤ width then chop width (used + g.width) (done ++ g.chars) gs
    else done :: chop width g.width g.chars gs

end Grapheme

/-- The characters cut to the width, if they are wider. -/
def cropTo (width : Nat) (cs : List Char) : List Char :=
  if columns cs ≤ width then cs else Grapheme.fit width (Grapheme.split cs)

/-- The characters in pieces of the given width. -/
def chopTo (width : Nat) (cs : List Char) : List (List Char) :=
  Grapheme.chop width 0 [] (Grapheme.split cs)

end ExprScript.Text
