import ExprScript.CommandLine.Commands
import ExprScript.Proofs.Token.Segmentation
import ExprScript.Proofs.Token.Typing
import Mathlib.Data.List.GetD

/-!
# Reading the tokens of a source

A cursor over the tokens of lexemes reads the end of the input only after the last of them, for no
lexeme is the end of the input (`Cursor.all_ofLexemes`).

The kind of a token tells numbers and symbols from all other lexemes (`classify_kind_eq_number_iff`,
`classify_kind_eq_symbol_iff`), and among the lexemes of a source it also tells the glyphs without a
meaning (`Lexeme.IsSegment.classify_kind_eq_unknown_iff`).  So reading a source gives one token for
each of its lexemes, and each token fits its lexeme (`Lexeme.tokens_of_split`).
-/

namespace ExprScript

namespace Cursor

/-! ### Reading up to the end of the input -/

theorem head_eq_getElem {c : Cursor} (h : c.index < c.tokens.length) :
  c.head = c.tokens[c.index]
  := List.getD_eq_getElem _ _ h

/-- Where no token is the end of the input, it is read only after the last token. -/
theorem head_kind_eq_finish_iff
    {c : Cursor} (h : ∀ token ∈ c.tokens, token.kind ≠ .finish) :
  c.head.kind = .finish ↔ c.tokens.length ≤ c.index
  := by
  constructor
  · intro hfinish
    apply Nat.le_of_not_lt
    intro hindex
    rw [head_eq_getElem hindex] at hfinish
    exact h _ (List.getElem_mem hindex) hfinish
  · intro hindex
    rw [head_of_length_le hindex]
    rfl

/-- Where no token is the end of the input, all tokens that remain are read. -/
theorem upToFinish_eq_remaining
    {c : Cursor} (h : ∀ token ∈ c.tokens, token.kind ≠ .finish) :
  c.upToFinish = c.remaining
  := by
  -- reading stops where the next token is the end of the input, which is after the last token
  induction c using upToFinish.induct with
  | case1 c hfinish =>
      rw [upToFinish, if_pos hfinish, remaining,
        List.drop_eq_nil_of_le ((head_kind_eq_finish_iff h).mp hfinish)]
  | case2 c hfinish ih =>
      have hindex : c.index < c.tokens.length :=
        Nat.lt_of_not_le (mt (head_kind_eq_finish_iff h).mpr hfinish)
      have hremaining : c.remaining = c.head :: c.advance.remaining := by
        rw [remaining, List.drop_eq_getElem_cons hindex, ← head_eq_getElem hindex]
        rfl
      rw [upToFinish, if_neg hfinish, ih h, hremaining]

/-- A cursor over the tokens of lexemes reads all that remain, and goes back to the first. -/
theorem all_ofLexemes (lexemes : List String) (index : Nat) :
  (Cursor.mk (Token.ofLexemes lexemes) index).all =
    ((Token.ofLexemes lexemes).drop index, ofTokens (Token.ofLexemes lexemes))
  := by
  rw [all, upToFinish_eq_remaining fun _ => Token.kind_ne_finish_of_mem_ofLexemes]
  rfl

end Cursor

namespace Token

/-! ### The kind of the token of a lexeme -/

/-- What the kind of the token of a lexeme says about the lexeme. -/
theorem classify_spec (lexeme : String) :
  match (classify lexeme).kind with
    | .number => isRun Text.isDigit lexeme.toList = true
    | .symbol => isRun Text.isLetter lexeme.toList = true ∧
        (classify lexeme).payload = some (.text lexeme)
    | .unknown => (classify lexeme).payload = some (.text lexeme)
    | .newline => lexeme = "\n"
    | _ => True
  := by
  obtain ⟨kind, hmem, h⟩ | ⟨hnewline, h⟩ | ⟨hdigits, x, h⟩ | ⟨hletters, h⟩ | h :=
    classify_cases lexeme
  · obtain ⟨-, hnumber, hsymbol, hnewline, hunknown⟩ := fixedKinds_kind hmem
    rw [h]
    cases kind <;> trivial
  · rw [h]
    exact hnewline
  · rw [h]
    exact hdigits
  · rw [h]
    exact ⟨hletters, rfl⟩
  · rw [h]

/-- A lexeme is the token of a number exactly if it is a run of digits. -/
theorem classify_kind_eq_number_iff (lexeme : String) :
  (classify lexeme).kind = .number ↔ isRun Text.isDigit lexeme.toList = true
  := by
  constructor
  · intro hkind
    have hspec := classify_spec lexeme
    rwa [hkind] at hspec
  · intro hdigits
    rw [classify_digits hdigits]

/-- A lexeme is the token of a symbol exactly if it is a run of letters and no keyword. -/
theorem classify_kind_eq_symbol_iff (lexeme : String) :
  (classify lexeme).kind = .symbol ↔
    isRun Text.isLetter lexeme.toList = true ∧ lexeme ∉ keywords
  := by
  constructor
  · intro hkind
    have hspec := classify_spec lexeme
    rw [hkind] at hspec
    have hall : ∀ word ∈ keywords, (classify word).kind ≠ .symbol := by decide +kernel
    exact ⟨hspec.1, fun hkeyword => hall lexeme hkeyword hkind⟩
  · rintro ⟨hletters, hkeyword⟩
    rw [classify_name hletters hkeyword]

/-- The glyphs of the language that have no meaning. -/
def idleGlyphs : List String :=
  ["[", "]", "\x7b", "\x7d", ",", ":", "&", "|", "%", "$", "@"]

/-- Whether a token fits the text of its lexeme: numbers are digits, symbols are letters but no
keywords, and unknown are the glyphs without a meaning.  Symbols and unknown tokens carry the text,
and no token is a newline or the end of the input. -/
structure Fits (token : Token) (text : String) : Prop where
  kind_ne_newline : token.kind ≠ .newline
  kind_ne_finish : token.kind ≠ .finish
  number_iff : token.kind = .number ↔ Lexeme.IsDigits text
  symbol_iff : token.kind = .symbol ↔ Lexeme.IsLetters text ∧ text ∉ keywords
  unknown_iff : token.kind = .unknown ↔ text ∈ idleGlyphs
  payload : token.kind = .symbol ∨ token.kind = .unknown → token.payload = some (.text text)

end Token

namespace Lexeme

open Token

/-- A segment is an unknown token exactly if it is a glyph without a meaning. -/
theorem IsSegment.classify_kind_eq_unknown_iff {text : String} (h : IsSegment text) :
  (classify text).kind = .unknown ↔ text ∈ idleGlyphs
  := by
  constructor
  · intro hkind
    cases h with
    | letters hletters =>
        by_cases hkeyword : text ∈ keywords
        · have hall : ∀ word ∈ keywords, (classify word).kind ≠ .unknown := by decide +kernel
          exact absurd hkind (hall text hkeyword)
        · rw [classify_name hletters hkeyword] at hkind
          cases hkind
    | digits hdigits =>
        rw [classify_digits hdigits] at hkind
        cases hkind
    | glyph hglyph =>
        have hall : ∀ text ∈ glyphs.map (fun c => String.ofList [c]),
            (classify text).kind = .unknown → text ∈ idleGlyphs := by decide +kernel
        exact hall _ (List.mem_map_of_mem hglyph) hkind
    | joined hjoined =>
        have hall : ∀ text ∈ ["==", "!="], (classify text).kind ≠ .unknown := by decide +kernel
        exact absurd hkind (hall text hjoined)
  · intro hmem
    have hall : ∀ text ∈ idleGlyphs, (classify text).kind = .unknown := by decide +kernel
    exact hall text hmem

/-- The token of a segment fits it. -/
theorem IsSegment.fits_classify {text : String} (h : IsSegment text) :
  (classify text).Fits text
  where
  kind_ne_newline := by
    intro hkind
    have hspec := classify_spec text
    rw [hkind] at hspec
    exact h.isWord.ne_newline hspec
  kind_ne_finish := classify_kind_ne_finish text
  number_iff := classify_kind_eq_number_iff text
  symbol_iff := classify_kind_eq_symbol_iff text
  unknown_iff := h.classify_kind_eq_unknown_iff
  payload := by
    intro hkind
    have hspec := classify_spec text
    rcases hkind with hkind | hkind
    · rw [hkind] at hspec
      exact hspec.2
    · rw [hkind] at hspec
      exact hspec

/-- The tokens of the lexemes of a source are one to a lexeme, in order. -/
theorem ofLexemes_of_split
    {source : String} {texts : List String} (h : split source = .ok texts) :
  ofLexemes texts = texts.map classify
  := ofLexemes_of_isWord fun _ htext => (isSegment_of_mem_split h htext).isWord

/-- Let a source be split into `texts`.  Then a cursor over its tokens reads, from the index `k` on,
the tokens of all `texts` from the `k`-th on, and then stands at the first token again.  The
`texts` pair off with the tokens read from the first on: each stands in a row with its own token.
And the token of each text fits the text. -/
theorem tokens_of_split
    {source : String} {texts : List String} (h : split source = .ok texts) :
  (∀ k, (Cursor.mk (ofLexemes texts) k).all =
      ((texts.map classify).drop k, Cursor.mk (ofLexemes texts) 0)) ∧
    CommandLine.tokenRows? texts = some (texts.map fun text => (text, classify text)) ∧
    ∀ text ∈ texts, (classify text).Fits text
  := by
  have hall : ∀ k, (Cursor.mk (ofLexemes texts) k).all =
      ((texts.map classify).drop k, Cursor.mk (ofLexemes texts) 0) := by
    intro k
    rw [Cursor.all_ofLexemes, ← ofLexemes_of_split h]
    rfl
  refine ⟨hall, ?_, ?_⟩
  · simp only [CommandLine.tokenRows?, Cursor.ofTokens, hall 0, List.drop_zero, List.length_map,
      if_true, List.map_prod_left_eq_zip]
  · intro text htext
    exact (isSegment_of_mem_split h htext).fits_classify

/-- From the index 3 on the two last lexemes are read, a number and a glyph without a meaning. -/
theorem tokens_of_split_mixed :
  split "if é != 12 @" = .ok ["if", "é", "!=", "12", "@"] ∧
    (Cursor.mk (ofLexemes ["if", "é", "!=", "12", "@"]) 3).all =
      ([classify "12", classify "@"], Cursor.mk (ofLexemes ["if", "é", "!=", "12", "@"]) 0) ∧
    (classify "é").Fits "é" ∧ (classify "@").Fits "@"
  := by
  have hsplit : split "if é != 12 @" = .ok ["if", "é", "!=", "12", "@"] := by cbv
  obtain ⟨hall, -, hfits⟩ := tokens_of_split hsplit
  exact ⟨hsplit, hall 3, hfits "é" (by decide), hfits "@" (by decide)⟩

end Lexeme

end ExprScript
