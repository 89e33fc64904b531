/-!
# Lines

A text is cut into lines at its newlines: the lines are one more than the newlines, and a
text that ends in a newline has an empty last line.
-/

namespace ExprScript.Text

/-- The pieces of a text between the characters that separate them. -/
def cutWhere (separates : Char → Bool) : List Char → List (List Char)
  | [] => [[]]
  | c :: cs =>
    if separates c then [] :: cutWhere separates cs
    else
      match cutWhere separates cs with
      | [] => [[c]]
      | piece :: rest => (c :: piece) :: rest

/-- The lines of a text, without the newlines between them. -/
def lines (cs : List Char) : List (List Char) :=
  cutWhere (· = '\n') cs

/-- The text with every carriage return, and every carriage return with a newline after
it, read as one newline. -/
def normalizeNewlines : List Char → List Char
  | [] => []
  | '\r' :: '\n' :: cs => '\n' :: normalizeNewlines cs
  | '\r' :: cs => '\n' :: normalizeNewlines cs
  | c :: cs => c :: normalizeNewlines cs

/-- The characters with blanks put in front up to the given number of characters. -/
def padLeft (width : Nat) (cs : List Char) : List Char :=
  List.replicate (width - cs.length) ' ' ++ cs

end ExprScript.Text
