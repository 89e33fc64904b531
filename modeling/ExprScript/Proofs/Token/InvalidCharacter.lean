import ExprScript.Proofs.Source.Position
import ExprScript.Proofs.Token.Segmentation

/-!
# Invalid characters

The alphabet of the language has the blanks, the digits and the letters of every script, and the
glyphs.  Splitting a source fails exactly when some character of the source is outside the alphabet,
and it reports the first such character with its offset in the source, the blanks in front of the
source included (`split_error_iff_first_foreign`).

Runs and joined glyphs take several characters at once, but all of them are in the alphabet, so the
scanner never passes an invalid character.  The offset lies in the source, so the error can be shown
with its position (`report_of_split`).
-/

namespace ExprScript.Lexeme

/-- Whether a character may occur in a source. -/
def InAlphabet (c : Char) : Prop :=
  Text.isBlank c = true ∨ Text.isDigit c = true ∨ Text.isLetter c = true ∨ c ∈ glyphs

instance : DecidablePred InAlphabet :=
  fun _ => inferInstanceAs (Decidable (_ ∨ _ ∨ _ ∨ _))

/-- Whether the character at a place is the first one outside the alphabet. -/
def FirstForeign (cs : List Char) (c : Char) (place : Nat) : Prop :=
  ∃ before after, cs = before ++ c :: after ∧ before.length = place ∧
    (∀ d ∈ before, InAlphabet d) ∧ ¬ InAlphabet c

/-! ### The alphabet -/

theorem classOf_eq_foreign_iff {c : Char} :
  classOf c = .foreign ↔ ¬ InAlphabet c
  := by
  constructor
  · rintro hclass (hblank | hdigit | hletter | hglyph)
    · rw [classOf_of_isBlank hblank] at hclass
      cases hclass
    · rw [classOf_of_isDigit hdigit] at hclass
      cases hclass
    · rw [classOf_of_isLetter hletter] at hclass
      cases hclass
    · rw [classOf_of_mem_glyphs hglyph] at hclass
      cases hclass
  · intro houtside
    have hspec := classOf_spec c
    cases hclass : classOf c with
    | foreign => rfl
    | glyph =>
        rw [hclass] at hspec
        apply absurd (.inr (.inr (.inr hspec))) houtside
    | digit =>
        rw [hclass] at hspec
        apply absurd (.inr (.inl hspec)) houtside
    | letter =>
        rw [hclass] at hspec
        apply absurd (.inr (.inr (.inl hspec))) houtside
    | blank =>
        rw [hclass] at hspec
        apply absurd (.inl hspec) houtside

theorem inAlphabet_of_classOf {c : Char} {kind : CharClass} (h : classOf c = kind)
    (hkind : kind ≠ .foreign) :
  InAlphabet c
  := by
  by_contra houtside
  rw [← classOf_eq_foreign_iff, h] at houtside
  contradiction

/-- The characters of a run are in the alphabet. -/
theorem inAlphabet_of_run
    {c : Char} {accepts : Char → Bool} (hrun : (classOf c).run? = some accepts) :
  InAlphabet c ∧ ∀ d, accepts d = true → InAlphabet d
  := by
  cases hclass : classOf c with
  | digit =>
      rw [hclass] at hrun
      cases hrun
      exact ⟨inAlphabet_of_classOf hclass nofun, fun d hd => .inr (.inl hd)⟩
  | letter =>
      rw [hclass] at hrun
      cases hrun
      exact ⟨inAlphabet_of_classOf hclass nofun, fun d hd => .inr (.inr (.inl hd))⟩
  | _ =>
      rw [hclass] at hrun
      cases hrun

/-- What is cut into lexemes is in the alphabet. -/
theorem Cuts.inAlphabet {cs : List Char} {texts : List String} (h : Cuts cs texts) :
  ∀ c ∈ cs, InAlphabet c
  := by
  induction h with
  | nil => nofun
  | @joined c rest texts hclass hjoins _ ih =>
      obtain ⟨-, hrest⟩ := joined_of_joins hjoins
      rw [hrest, List.forall_mem_cons, List.forall_mem_cons]
      have hequals : InAlphabet '=' := .inr (.inr (.inr (by decide)))
      exact ⟨inAlphabet_of_classOf hclass nofun, hequals, ih⟩
  | glyph hclass _ _ ih =>
      rw [List.forall_mem_cons]
      exact ⟨inAlphabet_of_classOf hclass nofun, ih⟩
  | @run c rest texts accepts hrun _ ih =>
      obtain ⟨hc, haccepts⟩ := inAlphabet_of_run hrun
      rw [List.forall_mem_cons, ← rest.takeWhile_append_dropWhile (p := accepts),
        List.forall_mem_append]
      exact ⟨hc, fun d hd => haccepts d (List.mem_takeWhile_imp hd), ih⟩
  | blank hclass _ ih =>
      rw [List.forall_mem_cons]
      exact ⟨inAlphabet_of_classOf hclass nofun, ih⟩

/-! ### The first invalid character -/

/-- The characters before the first invalid one are the longest stretch of the alphabet. -/
theorem takeWhile_inAlphabet
    {before : List Char} (hbefore : ∀ d ∈ before, InAlphabet d) {c : Char} (hc : ¬ InAlphabet c)
    (after : List Char) :
  (before ++ c :: after).takeWhile (fun d => InAlphabet d) = before
  := by
  rw [takeWhile_append_cons (decide_eq_false hc), List.takeWhile_eq_self_iff]
  intro d hd
  apply decide_eq_true (hbefore d hd)

theorem FirstForeign.unique
    {cs : List Char} {c c' : Char} {place place' : Nat} (h : FirstForeign cs c place)
    (h' : FirstForeign cs c' place') :
  c = c' ∧ place = place'
  := by
  obtain ⟨before, after, rfl, rfl, hbefore, hc⟩ := h
  obtain ⟨before', after', heq, rfl, hbefore', hc'⟩ := h'
  have htake := takeWhile_inAlphabet hbefore hc after
  rw [heq, takeWhile_inAlphabet hbefore' hc'] at htake
  obtain rfl := htake
  obtain ⟨rfl, -⟩ := List.cons.inj (List.append_cancel_left heq)
  exact ⟨rfl, rfl⟩

/-- Characters of the alphabet in front move the first invalid character. -/
theorem FirstForeign.append_left
    {front : List Char} (hfront : ∀ d ∈ front, InAlphabet d) {cs : List Char} {c : Char}
    {place : Nat} (h : FirstForeign cs c place) :
  FirstForeign (front ++ cs) c (front.length + place)
  := by
  obtain ⟨before, rest, rfl, rfl, hbefore, hc⟩ := h
  use front ++ before, rest
  simp only [List.append_assoc, List.length_append, List.forall_mem_append]
  exact ⟨trivial, trivial, ⟨hfront, hbefore⟩, hc⟩

/-- What comes after the first invalid character does not matter. -/
theorem FirstForeign.append_right
    {cs : List Char} {c : Char} {place : Nat} (h : FirstForeign cs c place) (after : List Char) :
  FirstForeign (cs ++ after) c place
  := by
  obtain ⟨before, rest, rfl, rfl, hbefore, hc⟩ := h
  use before, rest ++ after
  rw [List.append_assoc, List.cons_append]
  exact ⟨rfl, rfl, hbefore, hc⟩

/-- If some character is outside the alphabet, then one of them is the first. -/
theorem exists_firstForeign {cs : List Char} (h : ∃ c ∈ cs, ¬ InAlphabet c) :
  ∃ c place, FirstForeign cs c place
  := by
  induction cs with
  | nil => simp at h
  | cons first rest ih =>
      by_cases hfirst : InAlphabet first
      · rw [List.exists_mem_cons_iff] at h
        obtain ⟨c, place, hplace⟩ := ih (h.resolve_left (not_not_intro hfirst))
        use c, 1 + place
        apply hplace.append_left (List.forall_mem_singleton.mpr hfirst)
      · exact ⟨first, 0, [], rest, rfl, rfl, nofun, hfirst⟩

/-! ### Where scanning stops -/

theorem map_eq_error_iff {ε α β : Type} {f : α → β} {x : Except ε α} {e : ε} :
  x.map f = .error e ↔ x = .error e
  := by
  cases x <;> simp [Except.map]

/-- Whether the invalid character is the first one of the characters, of which the first stands at
`offset`. -/
def Stray.IsFirstOf (stray : Stray) (offset : Nat) (cs : List Char) : Prop :=
  ∃ place, FirstForeign cs stray.char place ∧ stray.offset = offset + place

theorem Stray.IsFirstOf.append_left
    {stray : Stray} {front : List Char} (hfront : ∀ d ∈ front, InAlphabet d) {offset : Nat}
    {cs : List Char} (h : stray.IsFirstOf (offset + front.length) cs) :
  stray.IsFirstOf offset (front ++ cs)
  := by
  obtain ⟨place, hplace, hoffset⟩ := h
  use front.length + place, hplace.append_left hfront
  rw [hoffset, Nat.add_assoc]

/-- A run in front of the characters is in the alphabet. -/
theorem Stray.IsFirstOf.run
    {c : Char} {accepts : Char → Bool} (hrun : (classOf c).run? = some accepts) {stray : Stray}
    {offset : Nat} {rest : List Char}
    (h : stray.IsFirstOf (offset + 1 + (rest.takeWhile accepts).length)
      (rest.dropWhile accepts)) :
  stray.IsFirstOf offset (c :: rest)
  := by
  obtain ⟨hc, haccepts⟩ := inAlphabet_of_run hrun
  have hfront : ∀ d ∈ c :: rest.takeWhile accepts, InAlphabet d := by
    rw [List.forall_mem_cons]
    exact ⟨hc, fun d hd => haccepts d (List.mem_takeWhile_imp hd)⟩
  have hlength : offset + 1 + (rest.takeWhile accepts).length =
      offset + (c :: rest.takeWhile accepts).length := by
    rw [List.length_cons]
    omega
  rw [hlength] at h
  have happend := h.append_left hfront
  rwa [List.cons_append, List.takeWhile_append_dropWhile] at happend

/-- Scanning stops at the first invalid character. -/
theorem isFirstOf_of_scan
    {offset : Nat} {cs : List Char} {stray : Stray} (h : scan offset cs = .error stray) :
  stray.IsFirstOf offset cs
  := by
  fun_induction scan offset cs with
  | case1 => cases h
  | case2 offset c rest hclass hjoins ih =>
      obtain ⟨-, hrest⟩ := joined_of_joins hjoins
      have hc := inAlphabet_of_classOf hclass (by simp)
      have hequals : InAlphabet '=' := by decide
      have hfront : ∀ d ∈ [c, '='], InAlphabet d :=
        List.forall_mem_cons.mpr ⟨hc, List.forall_mem_singleton.mpr hequals⟩
      have happend := (ih (map_eq_error_iff.mp h)).append_left hfront
      rwa [List.cons_append, List.singleton_append, ← hrest] at happend
  | case3 offset c rest hclass _ ih =>
      have hc := inAlphabet_of_classOf hclass (by simp)
      apply (ih (map_eq_error_iff.mp h)).append_left (List.forall_mem_singleton.mpr hc)
  | case4 offset c rest hclass run =>
      rename_i ih
      apply Stray.IsFirstOf.run (by rw [hclass]; rfl) (ih (map_eq_error_iff.mp h))
  | case5 offset c rest hclass run =>
      rename_i ih
      apply Stray.IsFirstOf.run (by rw [hclass]; rfl) (ih (map_eq_error_iff.mp h))
  | case6 offset c rest hclass ih =>
      have hc := inAlphabet_of_classOf hclass (by simp)
      apply (ih h).append_left (List.forall_mem_singleton.mpr hc)
  | case7 offset c rest hclass =>
      cases h
      use 0
      constructor
      · exact ⟨[], rest, rfl, rfl, by simp, classOf_eq_foreign_iff.mp hclass⟩
      · rfl

/-- Scanning stops with an invalid character exactly when it is the first one. -/
theorem scan_eq_error_iff (offset : Nat) (cs : List Char) (stray : Stray) :
  scan offset cs = .error stray ↔ stray.IsFirstOf offset cs
  := by
  constructor
  · apply isFirstOf_of_scan
  · rintro ⟨place, hplace, hoffset⟩
    cases hscan : scan offset cs with
    | ok texts =>
        obtain ⟨before, after, rfl, -, -, houtside⟩ := hplace
        apply absurd ((cuts_of_scan hscan).inAlphabet stray.char (by simp)) houtside
    | error other =>
        obtain ⟨place', hplace', hoffset'⟩ := isFirstOf_of_scan hscan
        obtain ⟨hchar, rfl⟩ := hplace.unique hplace'
        obtain ⟨c, n⟩ := stray
        obtain ⟨c', n'⟩ := other
        obtain rfl : c = c' := hchar
        obtain rfl : n = n' := hoffset.trans hoffset'.symm
        rfl

/-! ### Blanks at the ends -/

theorem trimEnd_append (cs : List Char) :
  ∃ back, (∀ c ∈ back, Text.isBlank c = true) ∧ cs = Text.trimEnd cs ++ back
  := by
  use (cs.reverse.takeWhile Text.isBlank).reverse
  constructor
  · intro c hc
    rw [List.mem_reverse] at hc
    apply List.mem_takeWhile_imp hc
  · rw [Text.trimEnd, ← List.reverse_append, List.takeWhile_append_dropWhile, List.reverse_reverse]

/-- Blanks after a source belong to no lexeme. -/
theorem Cuts.append_blanks
    {cs : List Char} {texts : List String} (h : Cuts cs texts) {back : List Char}
    (hback : ∀ c ∈ back, Text.isBlank c = true) :
  Cuts (cs ++ back) texts
  := by
  cases back with
  | nil => rwa [List.append_nil]
  | cons blank back =>
      rw [List.forall_mem_cons] at hback
      have hcuts := Cuts.blanks hback.2 Cuts.nil
      rw [List.append_nil] at hcuts
      have happend := h.append hcuts (classOf_of_isBlank hback.1)
      rwa [List.append_nil] at happend

/-- Scanning a source without the blanks at its ends, from the offset at which it then begins, is
scanning the whole of it. -/
theorem scan_trim (cs : List Char) :
  scan (cs.takeWhile Text.isBlank).length (Text.trim cs) = scan 0 cs
  := by
  obtain ⟨back, hback, hends⟩ := trimEnd_append (cs.dropWhile Text.isBlank)
  have hfront : ∀ c ∈ cs.takeWhile Text.isBlank, Text.isBlank c = true :=
    fun c => List.mem_takeWhile_imp
  have hwhole : cs = cs.takeWhile Text.isBlank ++ (Text.trim cs ++ back) := by
    rw [Text.trim, ← hends, List.takeWhile_append_dropWhile]
  cases hscan : scan (cs.takeWhile Text.isBlank).length (Text.trim cs) with
  | ok texts =>
      have hcuts := Cuts.blanks hfront ((cuts_of_scan hscan).append_blanks hback)
      rw [← hwhole] at hcuts
      rw [hcuts.scan 0]
  | error stray =>
      have hfirst := isFirstOf_of_scan hscan
      obtain ⟨place, hplace, hoffset⟩ := hfirst
      symm
      apply (scan_eq_error_iff 0 cs stray).mpr
      use (cs.takeWhile Text.isBlank).length + place
      rw [Nat.zero_add]
      constructor
      · have happend := (hplace.append_right back).append_left fun c hc => .inl (hfront c hc)
        rwa [← hwhole] at happend
      · exact hoffset

/-! ### Splitting -/

/-- Splitting a source fails exactly with its first invalid character. -/
theorem split_eq_error_iff (source : String) (e : Source.InvalidCharacter) :
  split source = .error e ↔
    ∃ c place, FirstForeign source.toList c place ∧ e = ⟨String.ofList [c], place, some source⟩
  := by
  unfold split
  constructor
  · intro h
    cases hscan : scan 0 source.toList with
    | ok texts =>
        rw [hscan] at h
        cases h
    | error stray =>
        rw [hscan] at h
        cases h
        obtain ⟨place, hplace, hoffset⟩ := isFirstOf_of_scan hscan
        rw [Nat.zero_add] at hoffset
        exact ⟨stray.char, place, hplace, hoffset ▸ rfl⟩
  · rintro ⟨c, place, hplace, rfl⟩
    have hscan := (scan_eq_error_iff 0 source.toList ⟨c, place⟩).mpr
      ⟨place, hplace, (Nat.zero_add place).symm⟩
    rw [hscan]
    rfl

/-- The error of splitting a source can be shown wherever there is room for the source and the
number of a line. -/
theorem report_of_split
    {source : String} {e : Source.InvalidCharacter} (h : split source = .error e) {room : Nat}
    (hroom : (Source.Position.mk source e.offset).gutter.length + source.toList.length ≤ room)
    (hindex : Text.IsIndex room) :
  e.report room = .ok e.text
  := by
  obtain ⟨c, place, ⟨before, after, hsource, rfl, -, -⟩, rfl⟩ := (split_eq_error_iff source e).mp h
  have hplace : before.length ≤ source.toList.length := by
    rw [hsource, List.length_append]
    omega
  have htext := Source.Position.text_of_inside ⟨source, before.length⟩ (Int.natCast_nonneg _)
    (Int.ofNat_le.mpr hplace) hroom hindex
  change Source.Position.annotate room ⟨source, before.length⟩ _ = _
  rw [Source.Position.annotate, htext]
  rfl

/-- For every source:

* splitting the source fails exactly when some character of it is neither a blank nor a digit nor a
  letter nor a glyph;
* it fails with an error exactly when the error has the first such character, its offset in the
  source, and the source;
* the source may be split without the blanks at its ends, if offsets are then counted from the
  number of blanks in front of it. -/
theorem split_error_iff_first_foreign (source : String) :
  ((∃ e, split source = .error e) ↔ ∃ c ∈ source.toList, ¬ InAlphabet c) ∧
    (∀ e, split source = .error e ↔
      ∃ c place, FirstForeign source.toList c place ∧
        e = ⟨String.ofList [c], place, some source⟩) ∧
    split source =
      (scan (source.toList.takeWhile Text.isBlank).length (Text.trim source.toList)).mapError
        fun stray => ⟨String.ofList [stray.char], stray.offset, some source⟩
  := by
  refine ⟨?_, split_eq_error_iff source, ?_⟩
  · constructor
    · rintro ⟨e, h⟩
      obtain ⟨c, place, ⟨before, after, hsource, -, -, hc⟩, -⟩ := (split_eq_error_iff source e).mp h
      use c
      rw [hsource]
      exact ⟨by simp, hc⟩
    · intro h
      obtain ⟨c, place, hplace⟩ := exists_firstForeign h
      exact ⟨_, (split_eq_error_iff source _).mpr ⟨c, place, hplace, rfl⟩⟩
  · rw [scan_trim]
    rfl

-- the blanks in front count, and the joined glyph counts twice
example : split "  x==~ 1~ " = .error ⟨"~", 5, some "  x==~ 1~ "⟩ := by cbv

end ExprScript.Lexeme
