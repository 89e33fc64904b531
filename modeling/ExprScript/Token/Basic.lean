import ExprScript.Number.Text
import ExprScript.Text.Quoted
import ExprScript.Token.Kind
import ExprScript.Tree.Build

/-!
# Tokens

A token is a kind with a payload: the name of a symbol, the value of a number, the text of
an unknown token, and nothing for any other kind. The type allows any payload with any
kind, and `Token.toAtom` checks the payload it needs.
-/

namespace ExprScript

/-- What a token carries. -/
inductive Payload where
  | text (value : String)
  | number (value : Number)
  | truth (value : Bool)
  | whole (value : Int)
  deriving DecidableEq

namespace Payload

/-- The payload as written in messages. -/
def literal : Payload → String
  | .text s => Text.quoted s
  | .number x => x.literal
  | .truth b => if b then "True" else "False"
  | .whole i => Text.signedDecimal i

/-- The payload as what an atom carries: truth values and integers become numbers. -/
def datum : Payload → Datum
  | .text s => .text s
  | .number x => .number x
  | .truth b => .number (if b then Number.one else Number.zero)
  | .whole i => .number (Number.ofInt i)

end Payload

/-- A kind with what it carries, if anything. -/
structure Token where
  kind : TokenKind
  payload : Option Payload
  deriving DecidableEq

/-- Why a token is no atom. -/
inductive TokenError where
  | badPayload
  | noAtom (token : Token)
  deriving DecidableEq

namespace Token

/-- A token that carries nothing. -/
def ofKind (kind : TokenKind) : Token :=
  ⟨kind, none⟩

/-- The token that stands for the end of the input. -/
def finish : Token :=
  ofKind .finish

/-- How tightly the token binds two operands; zero when it joins none. -/
def precedence (t : Token) : Int :=
  t.kind.precedence

/-- The token as written in messages: its kind, with its payload between parentheses. -/
def text (t : Token) : String :=
  match t.payload with
  | none => t.kind.name
  | some p => t.kind.name ++ "(" ++ p.literal ++ ")"

end Token

/-- The kind of the atom that a token of the given kind stands for, if the token needs no
payload. -/
def TokenKind.atomKind? : TokenKind → Option AtomKind
  | .truth => some .truth
  | .falsity => some .falsity
  | .plus => some .plus
  | .minus => some .minus
  | .times => some .times
  | .divide => some .divide
  | .power => some .power
  | .assign => some .assign
  | .equal => some .equal
  | .notEqual => some .notEqual
  | .invert => some .invert
  | .greater => some .greater
  | .less => some .less
  | _ => none

/-- The atom a token stands for. -/
def Token.toAtom (t : Token) : Except TokenError Atom :=
  match t.kind, t.payload with
  | .number, some (.number x) => .ok ⟨.number, some (.number x)⟩
  | .number, _ => .error .badPayload
  | .symbol, some (.text s) => .ok ⟨.symbol, some (.text s)⟩
  | .symbol, _ => .error .badPayload
  | kind, _ =>
    match kind.atomKind? with
    | some atomKind => .ok (Atom.ofKind atomKind)
    | none => .error (.noAtom t)

end ExprScript
