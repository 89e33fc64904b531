import ExprScript.Layout.EmojiNames
import ExprScript.Text.Blank
import ExprScript.Text.Lowercase

/-!
# Emoji in a text

A name between colons stands for a picture, as `:cat:` does. With `-emoji` or `-text` after
the name, a selector after the picture asks for it in color or in the style of text. A name
without a picture stays as it is, with both of its colons.
-/

namespace ExprScript.Layout.Emoji

open Text

/-- The endings of a name that ask for a selector after the picture. -/
def variants : List (String × Char) :=
  [("-emoji", '\ufe0f'), ("-text", '\ufe0e')]

/-- A name without its ending, if it has one, and the selector it asks for. -/
def splitVariant (name : List Char) : List Char × List Char :=
  match variants.find? (fun v => v.1.toList.isSuffixOf name) with
  | some (ending, selector) => (name.take (name.length - ending.length), [selector])
  | none => (name, [])

/-- What stands for a name between colons. -/
def resolve (name : List Char) : List Char :=
  let (base, selector) := splitVariant name
  match picture? (lowercase base) with
  | some picture => picture.toList ++ selector
  | none => [':'] ++ name ++ [':']

/-- The characters with pictures for the names in them. The last colon before them has
`name` after it, in reverse, which may still turn out to be a name. -/
def replaceFrom (name : Option (List Char)) : List Char → List Char
  | [] => (name.map fun cs => ':' :: cs.reverse).getD []
  | c :: cs =>
    match name with
    | none => if c = ':' then replaceFrom (some []) cs else c :: replaceFrom none cs
    | some begun =>
      if c = ':' then resolve begun.reverse ++ replaceFrom none cs
      else if isBlank c then ':' :: begun.reverse ++ c :: replaceFrom none cs
      else replaceFrom (some (c :: begun)) cs

/-- The characters with pictures for the names between colons in them. -/
def replace (cs : List Char) : List Char :=
  replaceFrom none cs

end ExprScript.Layout.Emoji
