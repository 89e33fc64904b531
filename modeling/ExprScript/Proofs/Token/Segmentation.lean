import ExprScript.Proofs.Token.Word
import Mathlib.Data.List.Chain

/-!
# Segmentations of a source

A segmentation writes a source as `w₀ t₁ w₁ … tₙ wₙ`, where every `wᵢ` is a possibly empty string
of blanks and every `tᵢ` is a run of letters, a run of digits, a glyph, or one of `==` and `!=`.
Where `wᵢ` is empty, the texts `tᵢ` and `tᵢ₊₁` must not be both letters or both digits, and `tᵢ`
must not be a glyph that joins an `=` at the beginning of `tᵢ₊₁`.

Splitting a source gives the one and only list of texts that has a segmentation
(`split_eq_only_segmentation`), and fails when there is none.
-/

namespace ExprScript.Lexeme

/-! ### Segments -/

/-- Whether a text is a run of at least one letter. -/
def IsLetters (text : String) : Prop := Token.isRun Text.isLetter text.toList = true

/-- Whether a text is a run of at least one digit. -/
def IsDigits (text : String) : Prop := Token.isRun Text.isDigit text.toList = true

/-- The texts that a source may be made of. -/
inductive IsSegment : String → Prop
  | letters {text : String} : IsLetters text → IsSegment text
  | digits {text : String} : IsDigits text → IsSegment text
  | glyph {c : Char} : c ∈ glyphs → IsSegment (String.ofList [c])
  | joined {text : String} : text ∈ ["==", "!="] → IsSegment text

/-- Whether two texts may follow each other with no blank in between. -/
structure MayTouch (first second : String) : Prop where
  letters : ¬ (IsLetters first ∧ IsLetters second)
  digits : ¬ (IsDigits first ∧ IsDigits second)
  equals : ¬ ((first = "=" ∨ first = "!") ∧ second.toList.head? = some '=')

/-- A text of a source with the blanks after it. -/
structure Piece where
  text : String
  gap : List Char

/-- The characters of a piece. -/
def Piece.chars (p : Piece) : List Char := p.text.toList ++ p.gap

/-- Whether the pieces are texts that a source may be made of, with blanks after them wherever two
texts may not touch. -/
structure IsSegmented (pieces : List Piece) : Prop where
  gaps : ∀ p ∈ pieces, ∀ c ∈ p.gap, Text.isBlank c = true
  texts : ∀ p ∈ pieces, IsSegment p.text
  apart : pieces.IsChain fun p q => p.gap = [] → MayTouch p.text q.text

/-- Whether the characters are some blanks followed by pieces with the given texts. -/
def Segments (cs : List Char) (texts : List String) : Prop :=
  ∃ front pieces, (∀ c ∈ front, Text.isBlank c = true) ∧ IsSegmented pieces ∧
    cs = front ++ pieces.flatMap Piece.chars ∧ texts = pieces.map Piece.text

/-! ### The character after a segment -/

/-- What the class of a character says about it. -/
theorem classOf_spec (c : Char) :
  match classOf c with
    | .glyph => c ∈ glyphs
    | .digit => Text.isDigit c = true
    | .letter => Text.isLetter c = true
    | .blank => Text.isBlank c = true
    | .foreign => c ∉ glyphs ∧ Text.isDigit c = false ∧ Text.isLetter c = false ∧
        Text.isBlank c = false
  := by
  unfold classOf
  split_ifs with hglyph hdigit hletter hblank
  · simpa using hglyph
  · exact hdigit
  · exact hletter
  · exact hblank
  · simp_all

theorem isRun_ne_nil {accepts : Char → Bool} {cs : List Char}
    (h : Token.isRun accepts cs = true) :
  cs ≠ []
  := by
  rintro rfl
  cases h

theorem isRun_head
    {accepts : Char → Bool} {cs : List Char} (h : Token.isRun accepts cs = true) {c : Char}
    (hc : cs.head? = some c) :
  accepts c = true
  := by
  cases cs with
  | nil => cases h
  | cons d cs =>
      cases hc
      apply (isRun_cons.mp h).1

/-- The first character of a segment decides whether it is a run of a class. -/
theorem IsSegment.isRun
    {text : String} (h : IsSegment text) {c : Char} (hc : text.toList.head? = some c)
    {accepts : Char → Bool} (hrun : (classOf c).run? = some accepts) :
  Token.isRun accepts text.toList = true
  := by
  cases h with
  | letters hletters =>
      rw [run?_of_isLetter (isRun_head hletters hc)] at hrun
      cases hrun
      exact hletters
  | digits hdigits =>
      rw [run?_of_isDigit (isRun_head hdigits hc)] at hrun
      cases hrun
      exact hdigits
  | glyph hglyph =>
      rw [String.toList_ofList] at hc
      cases hc
      rw [classOf_of_mem_glyphs hglyph] at hrun
      cases hrun
  | joined hjoined =>
      have hglyph : c ∈ glyphs := by
        simp only [List.mem_cons, List.not_mem_nil, or_false] at hjoined
        rcases hjoined with rfl | rfl <;> cases hc <;> decide
      rw [classOf_of_mem_glyphs hglyph] at hrun
      cases hrun

theorem IsSegment.exists_head {text : String} (h : IsSegment text) :
  ∃ c, text.toList.head? = some c
  := by
  have hne : text.toList ≠ [] := by
    cases h with
    | letters hletters => apply isRun_ne_nil hletters
    | digits hdigits => apply isRun_ne_nil hdigits
    | glyph _ => simp
    | joined hjoined =>
        simp only [List.mem_cons, List.not_mem_nil, or_false] at hjoined
        rcases hjoined with rfl | rfl <;> decide
  obtain ⟨c, cs, hcs⟩ := List.exists_cons_of_ne_nil hne
  use c
  rw [hcs, List.head?_cons]

/-- The first character of some pieces is that of their first text. -/
theorem head?_flatMap_chars
    {p : Piece} {c : Char} (hc : p.text.toList.head? = some c) {pieces : List Piece} :
  ((p :: pieces).flatMap Piece.chars).head? = some c
  := by
  rw [List.flatMap_cons, Piece.chars, List.append_assoc, List.head?_append, hc, Option.some_or]

/-- Whether a text ends before the character `next`, which does not go on with it. -/
structure EndsBefore (text : String) (next : Char) : Prop where
  letters : IsLetters text → Text.isLetter next = false
  digits : IsDigits text → Text.isDigit next = false
  equals : text = "=" ∨ text = "!" → next ≠ '='

/-- Every text ends before a blank. -/
theorem endsBefore_blank (text : String) {blank : Char} (h : Text.isBlank blank = true) :
  EndsBefore text blank
  := by
  obtain ⟨hletter, hdigit⟩ := Text.isBlank_apart h
  refine ⟨fun _ => hletter, fun _ => hdigit, ?_⟩
  rintro - rfl
  revert h
  decide

/-- A text that ends before the first character of another may touch it. -/
theorem EndsBefore.mayTouch
    {first second : String} {next : Char} (h : EndsBefore first next)
    (hnext : second.toList.head? = some next) :
  MayTouch first second
  := by
  constructor
  · rintro ⟨hfirst, hsecond⟩
    apply Bool.eq_false_iff.mp (h.letters hfirst) (isRun_head hsecond hnext)
  · rintro ⟨hfirst, hsecond⟩
    apply Bool.eq_false_iff.mp (h.digits hfirst) (isRun_head hsecond hnext)
  · rintro ⟨hfirst, hequals⟩
    rw [hnext] at hequals
    cases hequals
    apply h.equals hfirst rfl

/-- A text that may touch a segment ends before the first character of it. -/
theorem MayTouch.endsBefore
    {first second : String} (h : MayTouch first second) (hsecond : IsSegment second) {next : Char}
    (hnext : second.toList.head? = some next) :
  EndsBefore first next
  := by
  constructor
  · intro hfirst
    rw [Bool.eq_false_iff]
    intro hletter
    apply h.letters ⟨hfirst, hsecond.isRun hnext (run?_of_isLetter hletter)⟩
  · intro hfirst
    rw [Bool.eq_false_iff]
    intro hdigit
    apply h.digits ⟨hfirst, hsecond.isRun hnext (run?_of_isDigit hdigit)⟩
  · rintro hfirst rfl
    apply h.equals ⟨hfirst, hnext⟩

/-! ### From segmentations to cuttings -/

/-- A glyph that ends before the next character does not join it. -/
theorem EndsBefore.joins
    {c : Char} {rest : List Char} (h : ∀ d ∈ rest.head?, EndsBefore (String.ofList [c]) d) :
  Lexeme.joins c rest = false
  := by
  rw [Bool.eq_false_iff]
  intro hjoins
  simp only [Lexeme.joins, Bool.and_eq_true, Bool.or_eq_true, beq_iff_eq] at hjoins
  obtain ⟨hc, hhead⟩ := hjoins
  apply (h '=' hhead).equals _ rfl
  rcases hc with rfl | rfl
  · exact .inl rfl
  · exact .inr rfl

/-- A segment is a lexeme before anything that does not go on with it. -/
theorem IsSegment.cuts
    {text : String} (h : IsSegment text) {rest : List Char}
    (hrest : ∀ d ∈ rest.head?, EndsBefore text d) {texts : List String}
    (hcuts : Cuts rest texts) :
  Cuts (text.toList ++ rest) (text :: texts)
  := by
  cases h with
  | letters hletters =>
      apply cuts_of_isRun run?_of_isLetter hletters _ hcuts
      intro d hd
      apply (hrest d hd).letters hletters
  | digits hdigits =>
      apply cuts_of_isRun run?_of_isDigit hdigits _ hcuts
      intro d hd
      apply (hrest d hd).digits hdigits
  | glyph hglyph =>
      rw [String.toList_ofList]
      apply Cuts.glyph (classOf_of_mem_glyphs hglyph) (EndsBefore.joins hrest) hcuts
  | joined hjoined =>
      simp only [List.mem_cons, List.not_mem_nil, or_false] at hjoined
      rcases hjoined with rfl | rfl <;> exact .joined rfl rfl hcuts

theorem IsSegment.isWord {text : String} (h : IsSegment text) :
  IsWord text
  := by
  have hcuts : Cuts (text.toList ++ []) [text] := h.cuts (by simp) .nil
  rwa [List.append_nil] at hcuts

/-- Blanks in front belong to no lexeme. -/
theorem Cuts.blanks
    {front : List Char} (hfront : ∀ c ∈ front, Text.isBlank c = true) {cs : List Char}
    {texts : List String} (h : Cuts cs texts) :
  Cuts (front ++ cs) texts
  := by
  induction front with
  | nil => exact h
  | cons c front ih =>
      rw [List.forall_mem_cons] at hfront
      apply Cuts.blank (classOf_of_isBlank hfront.1) (ih hfront.2)

/-- The text of the first piece ends before what follows it: a blank, or the next text. -/
theorem IsSegmented.endsBefore
    {p : Piece} {pieces : List Piece} (h : IsSegmented (p :: pieces)) {d : Char}
    (hd : (p.gap ++ pieces.flatMap Piece.chars).head? = some d) :
  EndsBefore p.text d
  := by
  cases hgap : p.gap with
  | cons blank gap =>
      rw [hgap] at hd
      cases hd
      apply endsBefore_blank
      apply h.gaps p List.mem_cons_self
      rw [hgap]
      exact List.mem_cons_self
  | nil =>
      rw [hgap] at hd
      cases pieces with
      | nil => cases hd
      | cons q pieces =>
          have hq : IsSegment q.text := h.texts q (by simp)
          obtain ⟨c, hc⟩ := hq.exists_head
          have hmay := (List.isChain_cons_cons.mp h.apart).1 hgap
          rw [List.nil_append, head?_flatMap_chars hc] at hd
          cases hd
          apply hmay.endsBefore hq hc

theorem IsSegmented.tail {p : Piece} {pieces : List Piece} (h : IsSegmented (p :: pieces)) :
  IsSegmented pieces
  := by
  constructor
  · apply (List.forall_mem_cons.mp h.gaps).2
  · apply (List.forall_mem_cons.mp h.texts).2
  · apply h.apart.tail

/-- The texts of a segmentation are the lexemes into which the source is cut. -/
theorem Segments.cuts {cs : List Char} {texts : List String} (h : Segments cs texts) :
  Cuts cs texts
  := by
  obtain ⟨front, pieces, hfront, hpieces, rfl, rfl⟩ := h
  -- the blanks after a piece are the blanks in front of the pieces that follow it
  induction pieces generalizing front with
  | nil => apply Cuts.blanks hfront Cuts.nil
  | cons p pieces ih =>
      apply Cuts.blanks hfront
      rw [List.flatMap_cons, Piece.chars, List.append_assoc]
      apply (hpieces.texts p List.mem_cons_self).cuts
      · intro d hd
        apply hpieces.endsBefore hd
      · apply ih p.gap (hpieces.gaps p List.mem_cons_self) hpieces.tail

/-! ### From cuttings to segmentations -/

theorem Segments.blank {c : Char} (hc : Text.isBlank c = true) {cs : List Char}
    {texts : List String} (h : Segments cs texts) :
  Segments (c :: cs) texts
  := by
  obtain ⟨front, pieces, hfront, hpieces, rfl, rfl⟩ := h
  exact ⟨c :: front, pieces, List.forall_mem_cons.mpr ⟨hc, hfront⟩, hpieces, rfl, rfl⟩

/-- A segment in front of a segmented source makes a segmented source, if it ends there. -/
theorem Segments.cons
    {text : String} (htext : IsSegment text) {rest : List Char}
    (hrest : ∀ d ∈ rest.head?, EndsBefore text d) {texts : List String}
    (h : Segments rest texts) :
  Segments (text.toList ++ rest) (text :: texts)
  := by
  obtain ⟨front, pieces, hfront, hpieces, rfl, rfl⟩ := h
  refine ⟨[], ⟨text, front⟩ :: pieces, nofun, ⟨?_, ?_, ?_⟩, ?_, rfl⟩
  · rw [List.forall_mem_cons]
    exact ⟨hfront, hpieces.gaps⟩
  · rw [List.forall_mem_cons]
    exact ⟨htext, hpieces.texts⟩
  · cases pieces with
    | nil => apply List.isChain_singleton
    | cons q pieces =>
        rw [List.isChain_cons_cons]
        refine ⟨?_, hpieces.apart⟩
        rintro rfl
        obtain ⟨c, hc⟩ := (hpieces.texts q List.mem_cons_self).exists_head
        have hends : EndsBefore text c := by
          apply hrest
          rw [List.nil_append, head?_flatMap_chars hc]
          exact Option.mem_some_self c
        apply hends.mayTouch hc
  · rw [List.nil_append, List.flatMap_cons, Piece.chars, List.append_assoc]

/-- A joined glyph ends before any character. -/
theorem endsBefore_of_joined {text : String} (h : text ∈ ["==", "!="]) (next : Char) :
  EndsBefore text next
  := by
  have hall : ∀ text ∈ ["==", "!="], Token.isRun Text.isLetter text.toList = false ∧
      Token.isRun Text.isDigit text.toList = false ∧ ¬ (text = "=" ∨ text = "!") := by
    decide +kernel
  obtain ⟨hletters, hdigits, hequals⟩ := hall text h
  constructor
  · intro hrun
    apply absurd hrun (Bool.eq_false_iff.mp hletters)
  · intro hrun
    apply absurd hrun (Bool.eq_false_iff.mp hdigits)
  · intro hrun
    apply absurd hrun hequals

/-- A glyph ends before what it does not join. -/
theorem endsBefore_of_glyph
    {c : Char} (hclass : classOf c = .glyph) {rest : List Char}
    (hjoins : Lexeme.joins c rest = false) {d : Char} (hd : d ∈ rest.head?) :
  EndsBefore (String.ofList [c]) d
  := by
  have hhead : (String.ofList [c]).toList.head? = some c := by rw [String.toList_ofList]; rfl
  constructor
  · intro hletters
    have hc := classOf_of_isLetter (isRun_head hletters hhead)
    rw [hclass] at hc
    cases hc
  · intro hdigits
    have hc := classOf_of_isDigit (isRun_head hdigits hhead)
    rw [hclass] at hc
    cases hc
  · rintro hequals rfl
    have hc : c = '=' ∨ c = '!' := by
      rcases hequals with h | h <;> rw [h] at hhead <;> cases hhead
      · exact .inl rfl
      · exact .inr rfl
    rw [Lexeme.joins, hd] at hjoins
    rcases hc with rfl | rfl <;> cases hjoins

/-- A run ends before what does not go on with it. -/
theorem endsBefore_of_run
    {c : Char} {accepts : Char → Bool} (hrun : (classOf c).run? = some accepts) (more : List Char)
    {d : Char} (hd : accepts d = false) :
  EndsBefore (String.ofList (c :: more)) d
  := by
  have hhead : (String.ofList (c :: more)).toList.head? = some c := by
    rw [String.toList_ofList]
    rfl
  constructor
  · intro hletters
    rw [run?_of_isLetter (isRun_head hletters hhead)] at hrun
    cases hrun
    exact hd
  · intro hdigits
    rw [run?_of_isDigit (isRun_head hdigits hhead)] at hrun
    cases hrun
    exact hd
  · intro hequals
    have hglyph : classOf c = .glyph := by
      rcases hequals with h | h <;> rw [h] at hhead <;> cases hhead <;> rfl
    rw [hglyph] at hrun
    cases hrun

/-- A run of a class is a segment. -/
theorem isSegment_of_run
    {c : Char} {accepts : Char → Bool} (hrun : (classOf c).run? = some accepts)
    {more : List Char} (hmore : ∀ d ∈ more, accepts d = true) :
  IsSegment (String.ofList (c :: more))
  := by
  have hc := classOf_spec c
  cases hclass : classOf c with
  | letter =>
      rw [hclass] at hc hrun
      cases hrun
      apply IsSegment.letters
      rw [IsLetters, String.toList_ofList, isRun_cons]
      exact ⟨hc, hmore⟩
  | digit =>
      rw [hclass] at hc hrun
      cases hrun
      apply IsSegment.digits
      rw [IsDigits, String.toList_ofList, isRun_cons]
      exact ⟨hc, hmore⟩
  | _ =>
      rw [hclass] at hrun
      cases hrun

/-- A glyph that joins what follows makes one of the joined glyphs with it. -/
theorem joined_of_joins {c : Char} {rest : List Char} (h : Lexeme.joins c rest = true) :
  String.ofList [c, '='] ∈ ["==", "!="] ∧ rest = '=' :: rest.drop 1
  := by
  simp only [Lexeme.joins, Bool.and_eq_true, Bool.or_eq_true, beq_iff_eq] at h
  obtain ⟨hc, hhead⟩ := h
  constructor
  · rcases hc with rfl | rfl <;> decide
  · obtain ⟨more, rfl⟩ := List.head?_eq_some_iff.mp hhead
    rfl

/-- The lexemes into which a source is cut are the texts of a segmentation. -/
theorem Cuts.segments {cs : List Char} {texts : List String} (h : Cuts cs texts) :
  Segments cs texts
  := by
  induction h with
  | nil => exact ⟨[], [], nofun, ⟨nofun, nofun, .nil⟩, rfl, rfl⟩
  | @joined c rest texts _ hjoins _ ih =>
      obtain ⟨hjoined, hrest⟩ := joined_of_joins hjoins
      have hsegments := ih.cons (.joined hjoined) fun d _ => endsBefore_of_joined hjoined d
      rw [String.toList_ofList, List.cons_append, List.singleton_append, ← hrest] at hsegments
      exact hsegments
  | @glyph c rest texts hclass hjoins _ ih =>
      have hc := classOf_spec c
      rw [hclass] at hc
      have hsegments := ih.cons (.glyph hc) fun d => endsBefore_of_glyph hclass hjoins
      rw [String.toList_ofList] at hsegments
      exact hsegments
  | @run c rest texts accepts hrun _ ih =>
      have hmore : ∀ d ∈ rest.takeWhile accepts, accepts d = true :=
        fun d => List.mem_takeWhile_imp
      have hends : ∀ d ∈ (rest.dropWhile accepts).head?, accepts d = false := by
        intro d hd
        have hstops := List.head?_dropWhile_not accepts rest
        rw [hd] at hstops
        exact hstops
      have hsegments := ih.cons (isSegment_of_run hrun hmore)
        fun d hd => endsBefore_of_run hrun _ (hends d hd)
      rw [String.toList_ofList, List.cons_append, List.takeWhile_append_dropWhile] at hsegments
      exact hsegments
  | @blank c rest texts hclass _ ih =>
      have hc := classOf_spec c
      rw [hclass] at hc
      apply ih.blank hc

/-- The lexemes of a source are segments. -/
theorem isSegment_of_mem_split
    {source : String} {texts : List String} (h : split source = .ok texts) {text : String}
    (htext : text ∈ texts) :
  IsSegment text
  := by
  obtain ⟨-, pieces, -, hpieces, -, rfl⟩ := ((split_eq_ok_iff source texts).mp h).segments
  obtain ⟨piece, hpiece, rfl⟩ := List.mem_map.mp htext
  exact hpieces.texts piece hpiece

/-- A source is split into `texts` exactly when `texts` is the one and only list such that the
source is `w₀ t₁ w₁ … tₙ wₙ`, where `t₁ … tₙ` are the `texts`, every `wᵢ` is a possibly empty string
of blanks, every `tᵢ` is a non-empty run of letters, a non-empty run of digits, a glyph, `==` or
`!=`, and wherever `wᵢ` is empty, `tᵢ` and `tᵢ₊₁` may touch: they are not both letters, not both
digits, and it is not so that `tᵢ` is `=` or `!` and `tᵢ₊₁` begins with `=`. -/
theorem split_eq_only_segmentation (source : String) (texts : List String) :
  split source = .ok texts ↔
    Segments source.toList texts ∧ ∀ other, Segments source.toList other → other = texts
  := by
  constructor
  · intro h
    have hcuts := (split_eq_ok_iff source texts).mp h
    refine ⟨hcuts.segments, ?_⟩
    intro other hother
    have hsplit := (split_eq_ok_iff source other).mpr hother.cuts
    rw [h] at hsplit
    cases hsplit
    rfl
  · rintro ⟨hsegments, -⟩
    apply (split_eq_ok_iff source texts).mpr hsegments.cuts

-- of three equals signs the first two are one lexeme
example : split "x===y" = .ok ["x", "==", "=", "y"] := by cbv

end ExprScript.Lexeme
