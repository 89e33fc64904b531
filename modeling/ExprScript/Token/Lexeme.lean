import ExprScript.Source.InvalidCharacter
import ExprScript.Text.Blank
import ExprScript.Text.DecimalDigit
import ExprScript.Text.Letter

/-!
# Lexemes

A source is cut into lexemes: runs of letters, runs of decimal digits, and single glyphs,
where `=` and `!` join a following `=`. Blanks separate lexemes and belong to none. Each
run is as long as it can be, so a source has one cutting. Any other character is invalid.
-/

namespace ExprScript.Lexeme

/-- The glyphs of the language. -/
def glyphs : List Char :=
  ['<', '>', '[', ']', '\x7b', '\x7d', '(', ')', ',', ':', '+', '-', '*', '/', '&', '|', '!', '%',
    '$', '@', '=', '^']

/-- What a character can be part of. -/
inductive CharClass where
  | glyph
  | digit
  | letter
  | blank
  | foreign
  deriving DecidableEq

/-- The class of a character. -/
def classOf (c : Char) : CharClass :=
  if glyphs.contains c then .glyph
  else if Text.isDigit c then .digit
  else if Text.isLetter c then .letter
  else if Text.isBlank c then .blank
  else .foreign

/-- Whether the glyph `c` joins the first of the characters after it: `==` and `!=` are one
lexeme each. -/
def joins (c : Char) (rest : List Char) : Bool :=
  (c == '=' || c == '!') && rest.head? == some '='

/-- A character outside the alphabet and its offset. -/
structure Stray where
  char : Char
  offset : Nat

/-- The lexemes of the characters `cs`, of which the first stands at `offset`. -/
def scan (offset : Nat) (cs : List Char) : Except Stray (List String) :=
  match cs with
  | [] => .ok []
  | c :: rest =>
    match classOf c with
    | .glyph =>
      if joins c rest then
        (scan (offset + 2) (rest.drop 1)).map (String.ofList [c, '='] :: ·)
      else (scan (offset + 1) rest).map (String.ofList [c] :: ·)
    | .digit =>
      let run := rest.takeWhile Text.isDigit
      (scan (offset + 1 + run.length) (rest.dropWhile Text.isDigit)).map
        (String.ofList (c :: run) :: ·)
    | .letter =>
      let run := rest.takeWhile Text.isLetter
      (scan (offset + 1 + run.length) (rest.dropWhile Text.isLetter)).map
        (String.ofList (c :: run) :: ·)
    | .blank => scan (offset + 1) rest
    | .foreign => .error ⟨c, offset⟩
  termination_by cs.length
  decreasing_by
    · simp only [List.length_drop, List.length_cons]; omega
    · simp
    · exact Nat.lt_succ_of_le ((List.dropWhile_sublist Text.isDigit).length_le)
    · exact Nat.lt_succ_of_le ((List.dropWhile_sublist Text.isLetter).length_le)
    · simp

/-- The lexemes of a source, or its first invalid character. -/
def split (source : String) : Except Source.InvalidCharacter (List String) :=
  (scan 0 source.toList).mapError fun stray =>
    ⟨String.ofList [stray.char], stray.offset, some source⟩

end ExprScript.Lexeme
