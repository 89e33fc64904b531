import ExprScript.Grammar.Error

/-!
# Cursors

A cursor stands at an index of a list of tokens. Reading beyond the last token gives the
end of the input again and again, and moves the cursor on each time.
-/

namespace ExprScript

/-- Tokens and the index of the next one. -/
structure Cursor where
  tokens : List Token
  index : Nat

namespace Cursor

/-- The cursor at the first of the tokens. -/
def ofTokens (tokens : List Token) : Cursor :=
  ⟨tokens, 0⟩

/-- The token at an index. From the number of tokens on it is the end of the input, and a
negative index counts from the last token back, as far as there are tokens. -/
def tokenAt? (c : Cursor) : Int → Option Token
  | .ofNat i => some (c.tokens.getD i Token.finish)
  | .negSucc i => c.tokens.reverse[i]?

/-- The token `ahead` places after the next one, if there is one to count back to. -/
def peek? (c : Cursor) (ahead : Int) : Option Token :=
  c.tokenAt? (c.index + ahead)

/-- The next token. -/
def head (c : Cursor) : Token :=
  c.tokens.getD c.index Token.finish

/-- The cursor one token on. -/
def advance (c : Cursor) : Cursor :=
  { c with index := c.index + 1 }

/-- The next token, if it is of the given kind. -/
def expect (c : Cursor) (kind : TokenKind) : Except ParseError Token :=
  if c.head.kind = kind then .ok c.head else .error (.expected kind c.head)

/-- The tokens from the next one on. -/
def remaining (c : Cursor) : List Token :=
  c.tokens.drop c.index

/-- From the number of tokens on the next token is the end of the input. -/
theorem head_of_length_le {c : Cursor} (h : c.tokens.length ≤ c.index) :
  c.head = Token.finish
  := by
  simp [head, h]

/-- The tokens read one by one from the next one on, until the end of the input is read. -/
def upToFinish (c : Cursor) : List Token :=
  if c.head.kind = .finish then [] else c.head :: c.advance.upToFinish
  termination_by c.tokens.length - c.index
  decreasing_by
    rename_i hfinish
    have hindex : c.index < c.tokens.length := by
      apply Nat.lt_of_not_le
      intro hle
      rw [head_of_length_le hle] at hfinish
      exact hfinish rfl
    exact Nat.sub_lt_sub_left hindex (Nat.lt_succ_self c.index)

/-- The cursor at the first token again. -/
def rewind (c : Cursor) : Cursor :=
  { c with index := 0 }

/-- All tokens from the next one on, and the cursor at the first token again. -/
def all (c : Cursor) : List Token × Cursor :=
  (c.upToFinish, c.rewind)

end Cursor

end ExprScript
