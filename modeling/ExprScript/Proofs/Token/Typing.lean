import ExprScript.Token.Classify
import Mathlib.Tactic.Common

/-!
# Tokens of lexemes

The token of a lexeme carries what its kind needs, so it is an atom whenever it is a literal
(`classify_isTyped`, `Token.IsTyped.toAtom`), and it is never the end of the input
(`classify_kind_ne_finish`).
-/

namespace ExprScript.Token

/-- Whether a token carries what its kind needs: a number its value and a symbol its name. -/
def IsTyped (token : Token) : Prop :=
  (token.kind = .number → ∃ x, token.payload = some (.number x)) ∧
    (token.kind = .symbol → ∃ name, token.payload = some (.text name))

theorem isTyped_ofKind {kind : TokenKind} (hnumber : kind ≠ .number) (hsymbol : kind ≠ .symbol) :
  IsTyped (ofKind kind)
  := ⟨fun h => absurd h hnumber, fun h => absurd h hsymbol⟩

/-- A typed literal is an atom. -/
theorem IsTyped.toAtom
    {token : Token} (h : token.IsTyped)
    (hkind : token.kind = .number ∨ token.kind = .symbol ∨ token.kind = .truth ∨
      token.kind = .falsity) :
  ∃ atom, token.toAtom = .ok atom
  := by
  obtain ⟨kind, payload⟩ := token
  obtain ⟨hnumber, hsymbol⟩ := h
  rcases hkind with hk | hk | hk | hk
  · obtain rfl : kind = .number := hk
    obtain ⟨x, rfl⟩ : ∃ x, payload = some (.number x) := hnumber rfl
    exact ⟨_, rfl⟩
  · obtain rfl : kind = .symbol := hk
    obtain ⟨name, rfl⟩ : ∃ name, payload = some (.text name) := hsymbol rfl
    exact ⟨_, rfl⟩
  · obtain rfl : kind = .truth := hk
    exact ⟨_, rfl⟩
  · obtain rfl : kind = .falsity := hk
    exact ⟨_, rfl⟩

/-- A lexeme is a token of a fixed kind, a newline, a number if it is a run of digits, a symbol if
it is a run of letters, or unknown. -/
theorem classify_cases (lexeme : String) :
  (∃ kind, (lexeme, kind) ∈ fixedKinds ∧ classify lexeme = ofKind kind) ∨
    (lexeme = "\n" ∧ classify lexeme = ofKind .newline) ∨
    (isRun Text.isDigit lexeme.toList = true ∧
      ∃ x, classify lexeme = ⟨.number, some (.number x)⟩) ∨
    (isRun Text.isLetter lexeme.toList = true ∧
      classify lexeme = ⟨.symbol, some (.text lexeme)⟩) ∨
    classify lexeme = ⟨.unknown, some (.text lexeme)⟩
  := by
  unfold classify
  cases hlookup : fixedKinds.lookup lexeme with
  | some kind =>
      left
      obtain ⟨before, after, happend, -⟩ := List.lookup_eq_some_iff.mp hlookup
      use kind
      rw [happend]
      simp
  | none =>
      right
      by_cases hnewline : lexeme = "\n"
      · left
        simp [hnewline]
      by_cases hdigits : isRun Text.isDigit lexeme.toList = true
      · right
        left
        simp [hnewline, hdigits]
      by_cases hletters : isRun Text.isLetter lexeme.toList = true
      · simp [hnewline, hdigits, hletters]
      · simp [hnewline, hdigits, hletters]

/-- No fixed kind is the end of the input, a newline, a number, a symbol or unknown. -/
theorem fixedKinds_kind {lexeme : String} {kind : TokenKind} (h : (lexeme, kind) ∈ fixedKinds) :
  kind ≠ .finish ∧ kind ≠ .number ∧ kind ≠ .symbol ∧ kind ≠ .newline ∧ kind ≠ .unknown
  := by
  have hall : ∀ entry ∈ fixedKinds,
      entry.2 ≠ .finish ∧ entry.2 ≠ .number ∧ entry.2 ≠ .symbol ∧ entry.2 ≠ .newline ∧
        entry.2 ≠ .unknown := by decide
  apply hall _ h

/-- The token of a lexeme carries what its kind needs. -/
theorem classify_isTyped (lexeme : String) :
  (classify lexeme).IsTyped
  := by
  obtain ⟨kind, hmem, h⟩ | ⟨-, h⟩ | ⟨-, x, h⟩ | ⟨-, h⟩ | h := classify_cases lexeme
  · obtain ⟨-, hnumber, hsymbol, -⟩ := fixedKinds_kind hmem
    rw [h]
    apply isTyped_ofKind hnumber hsymbol
  · rw [h]
    apply isTyped_ofKind <;> decide
  · rw [h]
    exact ⟨fun _ => ⟨x, rfl⟩, nofun⟩
  · rw [h]
    exact ⟨nofun, fun _ => ⟨lexeme, rfl⟩⟩
  · rw [h]
    constructor <;> rintro ⟨⟩

/-- No lexeme is the end of the input. -/
theorem classify_kind_ne_finish (lexeme : String) :
  (classify lexeme).kind ≠ .finish
  := by
  obtain ⟨kind, hmem, h⟩ | ⟨-, h⟩ | ⟨-, x, h⟩ | ⟨-, h⟩ | h := classify_cases lexeme
  · rw [h]
    apply (fixedKinds_kind hmem).1
  all_goals
    rw [h]
    rintro ⟨⟩

theorem ofLexemes_append (lexemes lexemes' : List String) :
  ofLexemes (lexemes ++ lexemes') = ofLexemes lexemes ++ ofLexemes lexemes'
  := by
  simp [ofLexemes]

/-- Lexemes without newlines have one token each. -/
theorem ofLexemes_of_newline_notMem {lexemes : List String} (h : "\n" ∉ lexemes) :
  ofLexemes lexemes = lexemes.map classify
  := by
  rw [ofLexemes, List.filter_eq_self.mpr]
  intro lexeme hmem
  rw [decide_eq_true_eq]
  rintro rfl
  exact h hmem

theorem isTyped_of_mem_ofLexemes {lexemes : List String} {token : Token}
    (h : token ∈ ofLexemes lexemes) :
  token.IsTyped
  := by
  obtain ⟨lexeme, -, rfl⟩ := List.mem_map.mp h
  apply classify_isTyped

theorem kind_ne_finish_of_mem_ofLexemes {lexemes : List String} {token : Token}
    (h : token ∈ ofLexemes lexemes) :
  token.kind ≠ .finish
  := by
  obtain ⟨lexeme, -, rfl⟩ := List.mem_map.mp h
  apply classify_kind_ne_finish

end ExprScript.Token
