import ExprScript.Layout.Color
import ExprScript.Text.Blank

/-!
# Styles

A style is given by words: attributes, which `not` takes away, a color, a color after `on`
for the background, and the target of a link after `link`. What is said later counts. Every
style has one normal text, in which its parts stand in a fixed order. A text that gives no
style is its own normal text, but for capitals and outer blanks.
-/

namespace ExprScript.Layout

open Text

/-- What a style may set beside its colors and its link. -/
inductive Attribute where
  | bold
  | dim
  | italic
  | underline
  | blink
  | blink2
  | reverse
  | conceal
  | strike
  | underline2
  | frame
  | encircle
  | overline
  deriving DecidableEq

namespace Attribute

/-- The attributes in their order. -/
def all : List Attribute :=
  [ .bold, .dim, .italic, .underline, .blink, .blink2, .reverse, .conceal, .strike,
    .underline2, .frame, .encircle, .overline ]

/-- The name of an attribute. -/
def name : Attribute → String
  | .bold => "bold"
  | .dim => "dim"
  | .italic => "italic"
  | .underline => "underline"
  | .blink => "blink"
  | .blink2 => "blink2"
  | .reverse => "reverse"
  | .conceal => "conceal"
  | .strike => "strike"
  | .underline2 => "underline2"
  | .frame => "frame"
  | .encircle => "encircle"
  | .overline => "overline"

/-- The short name of an attribute, if it has one. -/
def shortName? : Attribute → Option String
  | .bold => some "b"
  | .dim => some "d"
  | .italic => some "i"
  | .underline => some "u"
  | .reverse => some "r"
  | .conceal => some "c"
  | .strike => some "s"
  | .underline2 => some "uu"
  | .overline => some "o"
  | _ => none

/-- The attribute with the given name or short name. -/
def ofName? (word : List Char) : Option Attribute :=
  let text := String.ofList word
  all.find? fun a => a.name == text || a.shortName? == some text

end Attribute

/-- What a style sets. Of an attribute given twice the first in the list counts. -/
structure Style where
  attributes : List (Attribute × Bool)
  color : Option (List Char)
  background : Option (List Char)
  link : Option (List Char)

namespace Style

/-- The style that sets nothing. -/
def plain : Style :=
  ⟨[], none, none, none⟩

/-- A word that says what the word after it is for. -/
inductive Keyword where
  | on
  | not
  | link

/-- The keyword that a word is. -/
def Keyword.ofWord? (word : List Char) : Option Keyword :=
  match String.ofList (lowercase word) with
  | "on" => some .on
  | "not" => some .not
  | "link" => some .link
  | _ => none

/-- The style after a word that stands alone. -/
def add (s : Style) (word : List Char) : Except ColorFault Style :=
  match Attribute.ofName? (lowercase word) with
  | some a => return { s with attributes := (a, true) :: s.attributes }
  | none => return { s with color := some (← Color.read word) }

/-- The style after a keyword with its word. -/
def addAfter (s : Style) (keyword : Keyword) (word : List Char) : Except ColorFault Style :=
  match keyword with
  | .on => return { s with background := some (← Color.read word) }
  | .link => return { s with link := some word }
  | .not =>
    match Attribute.ofName? word with
    | some a => return { s with attributes := (a, false) :: s.attributes }
    | none => throw .unknown

/-- The style after `s` that further words give, the first of them after the keyword, if one
is open. -/
def readWords (s : Style) : Option Keyword → List (List Char) → Except ColorFault Style
  | none, [] => return s
  | some _, [] => throw .unknown
  | some keyword, word :: rest => do readWords (← s.addAfter keyword word) none rest
  | none, word :: rest =>
    match Keyword.ofWord? word with
    | some keyword => readWords s (some keyword) rest
    | none => do readWords (← s.add word) none rest

/-- The style that a text gives. -/
def read (text : List Char) : Except ColorFault Style :=
  if trim text = "none".toList then return plain
  else plain.readWords none ((cutWhere isBlank text).filter (!·.isEmpty))

/-- The words of the normal text of a style. -/
def normalWords (s : Style) : List (List Char) :=
  let attributeWords (a : Attribute) : List (List Char) :=
    match s.attributes.lookup a with
    | some true => [a.name.toList]
    | some false => ["not".toList, a.name.toList]
    | none => []
  Attribute.all.flatMap attributeWords
    ++ s.color.toList
    ++ (s.background.map (["on".toList, ·])).getD []
    ++ (s.link.map (["link".toList, ·])).getD []

/-- The normal text of a style. -/
def normalText (s : Style) : List Char :=
  match s.normalWords with
  | [] => "none".toList
  | ws => (ws.intersperse [' ']).flatten

/-- The normal text of the style that a text gives, or of the text itself; none if a color in
it has a component that is no number. -/
def normalize? (text : List Char) : Option (List Char) :=
  match read text with
  | .ok s => some s.normalText
  | .error .unknown => some (lowercase (trim text))
  | .error .badComponent => none

end Style

end ExprScript.Layout
