import ExprScript.Proofs.Text.Blank
import ExprScript.Proofs.Token.Cutting
import ExprScript.Proofs.Token.Typing
import Mathlib.Data.List.TakeWhile

/-!
# Words

A word is a text that is cut into itself: a run of letters or digits, a glyph, or one of `==` and
`!=`.  Words with spaces between them are split into the words (`split_intercalate`).  A run of
digits is the token of a number, and a run of letters that is no keyword the token of a symbol
(`classify_digits`, `classify_name`).
-/

namespace ExprScript

namespace Lexeme

/-- Whether a text is a single lexeme. -/
def IsWord (text : String) : Prop := Cuts text.toList [text]

/-! ### Classes of characters -/

/-- A character of a class without glyphs is no glyph. -/
theorem contains_eq_false
    {accepts : Char → Bool} (hall : glyphs.all (fun g => !accepts g) = true) {c : Char}
    (h : accepts c = true) :
  glyphs.contains c = false
  := by
  rw [List.contains_eq_mem, decide_eq_false_iff_not]
  intro hmem
  have hc := List.all_eq_true.mp hall c hmem
  rw [h] at hc
  cases hc

theorem classOf_of_isLetter {c : Char} (h : Text.isLetter c = true) :
  classOf c = .letter
  := by
  have hglyph : glyphs.contains c = false := contains_eq_false (by decide +kernel) h
  have hdigit : Text.isDigit c = false := by
    by_contra hne
    rw [Text.isLetter_of_isDigit (by simpa using hne)] at h
    cases h
  simp only [classOf, hglyph, hdigit, h, Bool.false_eq_true, if_false, if_true]

theorem classOf_of_isDigit {c : Char} (h : Text.isDigit c = true) :
  classOf c = .digit
  := by
  have hglyph : glyphs.contains c = false := contains_eq_false (by decide +kernel) h
  simp only [classOf, hglyph, h, Bool.false_eq_true, if_false, if_true]

theorem classOf_of_mem_glyphs {c : Char} (h : c ∈ glyphs) :
  classOf c = .glyph
  := by
  simp [classOf, h]

theorem classOf_of_isBlank {c : Char} (h : Text.isBlank c = true) :
  classOf c = .blank
  := by
  have hglyph : glyphs.contains c = false := contains_eq_false (by decide +kernel) h
  obtain ⟨hletter, hdigit⟩ := Text.isBlank_apart h
  simp only [classOf, hglyph, hdigit, hletter, h, Bool.false_eq_true, if_false, if_true]

theorem isRun_cons {accepts : Char → Bool} {c : Char} {rest : List Char} :
  Token.isRun accepts (c :: rest) = true ↔ accepts c = true ∧ ∀ d ∈ rest, accepts d = true
  := by
  simp [Token.isRun]

/-! ### Words -/

theorem run?_of_isLetter {c : Char} (h : Text.isLetter c = true) :
  (classOf c).run? = some Text.isLetter
  := by
  rw [classOf_of_isLetter h]
  rfl

theorem run?_of_isDigit {c : Char} (h : Text.isDigit c = true) :
  (classOf c).run? = some Text.isDigit
  := by
  rw [classOf_of_isDigit h]
  rfl

/-- A run of characters of one class is a lexeme before anything that does not go on with it. -/
theorem cuts_of_isRun
    {accepts : Char → Bool} (hrun : ∀ {c}, accepts c = true → (classOf c).run? = some accepts)
    {text : String} (h : Token.isRun accepts text.toList = true) {rest : List Char}
    (hrest : ∀ d ∈ rest.head?, accepts d = false) {texts : List String} (hcuts : Cuts rest texts) :
  Cuts (text.toList ++ rest) (text :: texts)
  := by
  generalize hchars : text.toList = cs at h
  obtain rfl : String.ofList cs = text := by rw [← hchars, String.ofList_toList]
  cases cs with
  | nil => cases h
  | cons c more =>
      obtain ⟨hc, hmore⟩ := isRun_cons.mp h
      have hends : rest.takeWhile accepts = [] ∧ rest.dropWhile accepts = rest := by
        cases rest with
        | nil => exact ⟨rfl, rfl⟩
        | cons d rest => simp [hrest d rfl]
      have htake : (more ++ rest).takeWhile accepts = more := by
        rw [List.takeWhile_append_of_pos hmore, hends.1, List.append_nil]
      have hdrop : (more ++ rest).dropWhile accepts = rest := by
        rw [List.dropWhile_append_of_pos hmore, hends.2]
      rw [List.cons_append]
      nth_rewrite 2 [← htake]
      apply Cuts.run (hrun hc)
      rwa [hdrop]

theorem isWord_of_isRun
    {accepts : Char → Bool} (hrun : ∀ {c}, accepts c = true → (classOf c).run? = some accepts)
    {text : String} (h : Token.isRun accepts text.toList = true) :
  IsWord text
  := by
  have hcuts := cuts_of_isRun hrun h (by simp) Cuts.nil
  rwa [List.append_nil] at hcuts

theorem isWord_of_letters {text : String} (h : Token.isRun Text.isLetter text.toList = true) :
  IsWord text
  := isWord_of_isRun run?_of_isLetter h

theorem isWord_of_digits {text : String} (h : Token.isRun Text.isDigit text.toList = true) :
  IsWord text
  := isWord_of_isRun run?_of_isDigit h

theorem isWord_glyph {c : Char} (h : c ∈ glyphs) :
  IsWord (String.ofList [c])
  := by
  rw [IsWord, String.toList_ofList]
  apply Cuts.glyph (classOf_of_mem_glyphs h) _ .nil
  simp [joins]

theorem isWord_joined {text : String} (h : text ∈ ["==", "!="]) :
  IsWord text
  := by
  simp only [List.mem_cons, List.not_mem_nil, or_false] at h
  rcases h with rfl | rfl <;> exact .joined rfl rfl .nil

/-- The operators, brackets and keywords are words. -/
theorem isWord_of_mem_fixedKinds {text : String} (h : text ∈ Token.fixedKinds.map Prod.fst) :
  IsWord text
  := by
  have hall : ∀ text ∈ Token.fixedKinds.map Prod.fst,
      Token.isRun Text.isLetter text.toList = true ∨
        text ∈ glyphs.map (fun c => String.ofList [c]) ∨ text ∈ ["==", "!="] := by decide +kernel
  rcases hall text h with hletters | hglyph | hjoined
  · apply isWord_of_letters hletters
  · obtain ⟨c, hc, rfl⟩ := List.mem_map.mp hglyph
    apply isWord_glyph hc
  · apply isWord_joined hjoined

/-- No word is a newline. -/
theorem IsWord.ne_newline {text : String} (h : IsWord text) :
  text ≠ "\n"
  := by
  rintro rfl
  have hscan := h.scan 0
  simp [scan, show classOf '\n' = .blank by decide +kernel] at hscan

/-- Words with spaces between them are cut into the words. -/
theorem cuts_intercalate {texts : List String} (h : ∀ text ∈ texts, IsWord text) :
  Cuts (" ".intercalate texts).toList texts
  := by
  induction texts with
  | nil => apply Cuts.nil
  | cons text texts ih =>
      rw [List.forall_mem_cons] at h
      cases texts with
      | nil =>
          rw [String.intercalate_singleton]
          apply h.1
      | cons next texts =>
          have hchars : (" ".intercalate (text :: next :: texts)).toList =
              text.toList ++ ' ' :: (" ".intercalate (next :: texts)).toList := by
            rw [String.intercalate_cons_cons, String.toList_append, String.toList_append,
              List.append_assoc]
            rfl
          rw [hchars]
          apply Cuts.append h.1 (ih h.2)
          decide +kernel

/-- Words with spaces between them are split into the words. -/
theorem split_intercalate {texts : List String} (h : ∀ text ∈ texts, IsWord text) :
  split (" ".intercalate texts) = .ok texts
  := (split_eq_ok_iff _ _).mpr (cuts_intercalate h)

end Lexeme

namespace Token

/-- The words with a meaning of their own. -/
def keywords : List String :=
  ["if", "then", "else", "elseif", "end", "fn", "true", "false"]

theorem ofLexemes_of_isWord {texts : List String} (h : ∀ text ∈ texts, Lexeme.IsWord text) :
  ofLexemes texts = texts.map classify
  := by
  apply ofLexemes_of_newline_notMem
  intro hmem
  exact (h _ hmem).ne_newline rfl

theorem lookup_eq_none {text : String} (h : ∀ kind, (text, kind) ∉ fixedKinds) :
  fixedKinds.lookup text = none
  := by
  cases hlookup : fixedKinds.lookup text with
  | none => rfl
  | some kind =>
      obtain ⟨before, after, happend, -⟩ := List.lookup_eq_some_iff.mp hlookup
      apply absurd _ (h kind)
      rw [happend]
      simp

/-- A run of digits is the token of the number it denotes. -/
theorem classify_digits {text : String} (h : isRun Text.isDigit text.toList = true) :
  classify text = ⟨.number, some (.number (Number.ofNat (Text.ofDigits text.toList)))⟩
  := by
  have hall : ∀ entry ∈ fixedKinds, isRun Text.isDigit entry.1.toList = false := by decide +kernel
  have hlookup : fixedKinds.lookup text = none := by
    apply lookup_eq_none
    intro kind hmem
    rw [hall _ hmem] at h
    cases h
  have hnewline := (Lexeme.isWord_of_digits h).ne_newline
  simp only [classify, hlookup, hnewline, if_false, h, if_true]

/-- A run of letters that is no keyword is the token of the symbol with that name. -/
theorem classify_name {name : String} (h : isRun Text.isLetter name.toList = true)
    (hkeyword : name ∉ keywords) :
  classify name = ⟨.symbol, some (.text name)⟩
  := by
  have hall : ∀ entry ∈ fixedKinds, isRun Text.isLetter entry.1.toList = true →
      entry.1 ∈ keywords := by decide +kernel
  have hlookup : fixedKinds.lookup name = none := by
    apply lookup_eq_none
    intro kind hmem
    apply hkeyword (hall _ hmem h)
  have hnewline := (Lexeme.isWord_of_letters h).ne_newline
  have hdigits : isRun Text.isDigit name.toList = false := by
    cases hchars : name.toList with
    | nil => rfl
    | cons c rest =>
        rw [hchars] at h
        obtain ⟨hletter, -⟩ := Lexeme.isRun_cons.mp h
        by_contra hrun
        obtain ⟨hdigit, -⟩ := Lexeme.isRun_cons.mp (by simpa using hrun)
        rw [Text.isLetter_of_isDigit hdigit] at hletter
        cases hletter
  simp only [classify, hlookup, hnewline, if_false, hdigits, h, Bool.false_eq_true, if_true]

end Token

end ExprScript
