import ExprScript.Layout.Emoji
import ExprScript.Layout.Literal
import ExprScript.Layout.Style

/-!
# Markup

A text may hold tags between brackets that set the style of what follows, such as
`[bold]`, and tags that end a style, such as `[/bold]` or `[/]` for the latest one. A style
may also be an action, whose name begins with `@`, with arguments after an equals sign. A
terminal without styles shows the text without its tags. A backslash before a tag makes it
plain text, and two backslashes there stand for one. A text can also be shown with its tags.
In both cases names of emoji are replaced by their pictures.

A tag begins with a small letter or one of `#`, `/` and `@`. A bracket with anything else
after it is text. To end a style that was not begun is an error, and so is to end an action
whose arguments are no literal.
-/

namespace ExprScript.Layout

open Text

/-! ### Segments -/

/-- A part of a text: characters without a tag in them, or what stands between the brackets of
a tag, with the number of backslashes before it. -/
inductive Segment where
  | run (cs : List Char)
  | tag (slashes : Nat) (body : List Char)

/-- Whether a tag may begin with `c`. -/
def beginsTag (c : Char) : Bool :=
  ('a' ≤ c && c ≤ 'z') || c = '#' || c = '/' || c = '@'

/-- The tag that the characters after an opening bracket begin with, without its brackets,
and the characters after it. -/
def tag? (cs : List Char) : Option (List Char × List Char) :=
  match cs with
  | [] => none
  | c :: rest =>
    let body := rest.takeWhile (fun d => d ≠ ']' && d ≠ '[')
    match rest.drop body.length with
    | ']' :: after => if beginsTag c then some (c :: body, after) else none
    | _ => none

/-- The segments of a text after the characters `done`, which are in reverse and hold no tag;
there are fewer characters than `fuel`. -/
def segmentsFrom (done : List Char) : (fuel : Nat) → List Char → List Segment
  | 0, _ => []
  | fuel + 1, cs =>
    let slashes := cs.takeWhile (· = '\\')
    match cs.drop slashes.length with
    | [] => [.run (done.reverse ++ slashes)]
    | '[' :: rest =>
      match tag? rest with
      | some (body, after) =>
        .run done.reverse :: .tag slashes.length body :: segmentsFrom [] fuel after
      | none => segmentsFrom ('[' :: slashes ++ done) fuel rest
    | c :: rest => segmentsFrom (c :: slashes ++ done) fuel rest

/-- The segments of a text. -/
def segments (cs : List Char) : List Segment :=
  segmentsFrom [] (cs.length + 1) cs

/-- Plain characters as shown. A backslash just before a bracket is dropped. -/
def unescape : List Char → List Char
  | [] => []
  | '\\' :: '[' :: cs => '[' :: unescape cs
  | c :: cs => c :: unescape cs

/-- A segment without a tag as shown. -/
def showRun (cs : List Char) : List Char :=
  Emoji.replace (unescape cs)

/-- A tag that is plain text as shown. -/
def showTag (body : List Char) : List Char :=
  Emoji.replace (['['] ++ body ++ [']'])

/-- A text all of whose tags are plain text, as shown. -/
def verbatim (cs : List Char) : List Char :=
  (segments cs).flatMap fun
    | .run run => showRun run
    | .tag slashes body => List.replicate slashes '\\' ++ showTag body

/-! ### Styles that tags set -/

/-- Why a text cannot be shown: it ends a style that was not begun, the arguments of an action
are no literal, or a component of a color is no number. -/
inductive MarkupFault where
  | unmatchedTag
  | badArguments
  | badColor
  deriving DecidableEq

/-- A style set by a tag: its normal text, and what stands after an equals sign. -/
structure Mark where
  name : List Char
  parameters : Option (List Char)

namespace Mark

/-- The name and the parameters in the body of a tag. -/
def split (body : List Char) : List Char × Option (List Char) :=
  match body.dropWhile (· ≠ '=') with
  | [] => (body, none)
  | _ :: parameters => (body.takeWhile (· ≠ '='), some parameters)

/-- Whether the style is an action. -/
def isAction (m : Mark) : Bool :=
  m.name.head? = some '@'

/-- The arguments in the parameters of an action: what stands between parentheses after the
name of a function, none after the name alone, and otherwise the parameters themselves. -/
def argumentsIn (parameters : List Char) : List Char :=
  let cs := trim parameters
  let arguments := cs.dropWhile (fun c => isWordChar c || c = '.')
  match arguments with
  | [] => ['(', ')']
  | '(' :: rest =>
    if rest.getLast? = some ')' && !arguments.contains '\n' then arguments else cs
  | _ => cs

/-- Whether the style can end: the arguments of an action are a literal. -/
def canEnd (m : Mark) : Bool :=
  match m.parameters with
  | none | some [] => true
  | some parameters => !m.isAction || Literal.accepts (argumentsIn parameters)

/-- Whether the style can be shown: its colors have numbers for components. -/
def canShow (m : Mark) : Bool :=
  match m.parameters with
  | none => true
  | some parameters => (Style.normalize? (m.name ++ [' '] ++ parameters)).isSome

end Mark

/-- The normal text of a style. -/
def normalStyle (style : List Char) : Except MarkupFault (List Char) :=
  match Style.normalize? style with
  | some name => return name
  | none => throw .badColor

/-- The styles left of those begun, the latest first, when the latest or else the given one
ends. -/
def endStyle (begun : List Mark) (style : List Char) : Except MarkupFault (List Mark) := do
  let name ← if (trim style).isEmpty then pure none else some <$> normalStyle (trim style)
  let isMeant (m : Mark) : Bool := name.all (· = m.name)
  match begun.find? isMeant with
  | none => throw .unmatchedTag
  | some m => if m.canEnd then return begun.eraseP isMeant else throw .badArguments

/-- The segments as shown, where the given styles are begun, the latest first. -/
def showFrom (begun : List Mark) : List Segment → Except MarkupFault (List Char)
  | [] => return []
  | .run cs :: rest => return showRun cs ++ (← showFrom begun rest)
  | .tag slashes body :: rest => do
    let kept := List.replicate (slashes / 2) '\\'
    if slashes % 2 = 1 then return kept ++ showTag body ++ (← showFrom begun rest)
    match Mark.split body with
    | ('/' :: style, _) => return kept ++ (← showFrom (← endStyle begun style) rest)
    | (style, parameters) =>
      let m : Mark := ⟨← normalStyle style, parameters⟩
      let shown ← showFrom (m :: begun) rest
      if m.canShow then return kept ++ shown else throw .badColor

/-- The text as shown, without its tags. -/
def plain (text : String) : Except MarkupFault String :=
  String.ofList <$> showFrom [] (segments text.toList)

end ExprScript.Layout
