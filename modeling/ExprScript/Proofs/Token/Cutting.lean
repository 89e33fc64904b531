import ExprScript.Token.Lexeme
import Mathlib.Tactic.Common

/-!
# Cutting a source into lexemes

`Cuts cs texts` relates characters to the lexemes they are cut into.  A source is split exactly
into the lexemes it is cut into (`split_eq_ok_iff`), wherever its first character stands.  A blank
between two sources keeps their lexemes apart (`Cuts.append`).
-/

namespace ExprScript.Lexeme

/-- The characters that go on with a run of the class; only digits and letters make runs. -/
def CharClass.run? : CharClass → Option (Char → Bool)
  | .digit => some Text.isDigit
  | .letter => some Text.isLetter
  | _ => none

/-- The characters are cut into the lexemes. -/
inductive Cuts : List Char → List String → Prop
  | nil :
      Cuts [] []
  | joined {c : Char} {rest : List Char} {texts : List String} :
      classOf c = .glyph → joins c rest = true → Cuts (rest.drop 1) texts →
      Cuts (c :: rest) (String.ofList [c, '='] :: texts)
  | glyph {c : Char} {rest : List Char} {texts : List String} :
      classOf c = .glyph → joins c rest = false → Cuts rest texts →
      Cuts (c :: rest) (String.ofList [c] :: texts)
  | run {c : Char} {rest : List Char} {texts : List String} {accepts : Char → Bool} :
      (classOf c).run? = some accepts → Cuts (rest.dropWhile accepts) texts →
      Cuts (c :: rest) (String.ofList (c :: rest.takeWhile accepts) :: texts)
  | blank {c : Char} {rest : List Char} {texts : List String} :
      classOf c = .blank → Cuts rest texts → Cuts (c :: rest) texts

theorem map_eq_ok_iff {ε α β : Type} {f : α → β} {x : Except ε α} {b : β} :
  x.map f = .ok b ↔ ∃ a, x = .ok a ∧ f a = b
  := by
  cases x <;> simp [Except.map]

theorem cuts_of_scan {offset : Nat} {cs : List Char} {texts : List String}
    (h : scan offset cs = .ok texts) :
  Cuts cs texts
  := by
  fun_induction scan offset cs generalizing texts with
  | case1 =>
      cases h
      apply Cuts.nil
  | case2 offset c rest hclass hjoins ih =>
      obtain ⟨texts', hscan, rfl⟩ := map_eq_ok_iff.mp h
      apply Cuts.joined hclass hjoins (ih hscan)
  | case3 offset c rest hclass hjoins ih =>
      obtain ⟨texts', hscan, rfl⟩ := map_eq_ok_iff.mp h
      apply Cuts.glyph hclass (by simpa using hjoins) (ih hscan)
  | case4 offset c rest hclass run =>
      rename_i ih
      obtain ⟨texts', hscan, rfl⟩ := map_eq_ok_iff.mp h
      apply Cuts.run (by rw [hclass]; rfl) (ih hscan)
  | case5 offset c rest hclass run =>
      rename_i ih
      obtain ⟨texts', hscan, rfl⟩ := map_eq_ok_iff.mp h
      apply Cuts.run (by rw [hclass]; rfl) (ih hscan)
  | case6 offset c rest hclass ih => apply Cuts.blank hclass (ih h)
  | case7 => cases h

theorem Cuts.scan {cs : List Char} {texts : List String} (h : Cuts cs texts) (offset : Nat) :
  Lexeme.scan offset cs = .ok texts
  := by
  induction h generalizing offset with
  | nil => rw [Lexeme.scan]
  | joined hclass hjoins _ ih =>
      rw [Lexeme.scan, hclass]
      simp only [hjoins, if_true, ih]
      rfl
  | glyph hclass hjoins _ ih =>
      rw [Lexeme.scan, hclass]
      simp only [hjoins, Bool.false_eq_true, if_false, ih]
      rfl
  | @run c _ _ _ hrun _ ih =>
      rw [Lexeme.scan]
      cases hclass : classOf c with
      | digit | letter =>
          rw [hclass] at hrun
          cases hrun
          simp only [ih]
          rfl
      | _ =>
          rw [hclass] at hrun
          cases hrun
  | blank hclass _ ih =>
      rw [Lexeme.scan, hclass]
      apply ih

/-- A source is split exactly into the lexemes it is cut into. -/
theorem split_eq_ok_iff (source : String) (texts : List String) :
  split source = .ok texts ↔ Cuts source.toList texts
  := by
  unfold split
  constructor
  · intro h
    cases hscan : scan 0 source.toList with
    | ok texts' =>
        rw [hscan] at h
        cases h
        apply cuts_of_scan hscan
    | error stray =>
        rw [hscan] at h
        cases h
  · intro h
    rw [h.scan 0]
    rfl

/-! ### Blanks between sources -/

theorem takeWhile_append_cons
    {p : Char → Bool} {c : Char} (hc : p c = false) (cs ds : List Char) :
  (cs ++ c :: ds).takeWhile p = cs.takeWhile p
  := by
  induction cs with
  | nil => simp [hc]
  | cons d cs ih => simp only [List.cons_append, List.takeWhile_cons, ih]

theorem dropWhile_append_cons
    {p : Char → Bool} {c : Char} (hc : p c = false) (cs ds : List Char) :
  (cs ++ c :: ds).dropWhile p = cs.dropWhile p ++ c :: ds
  := by
  induction cs with
  | nil => simp [hc]
  | cons d cs ih =>
      rw [List.cons_append, List.dropWhile_cons, List.dropWhile_cons, ih]
      split <;> rfl

/-- A blank is no glyph, digit or letter. -/
theorem classOf_eq_blank {c : Char} (h : classOf c = .blank) :
  c ∉ glyphs ∧ Text.isDigit c = false ∧ Text.isLetter c = false
  := by
  unfold classOf at h
  split at h
  · cases h
  split at h
  · cases h
  split at h
  · cases h
  simp_all

/-- No run goes on with a blank. -/
theorem run?_blank
    {kind : CharClass} {accepts : Char → Bool} (hrun : kind.run? = some accepts) {blank : Char}
    (hblank : classOf blank = .blank) :
  accepts blank = false
  := by
  obtain ⟨-, hdigit, hletter⟩ := classOf_eq_blank hblank
  cases kind with
  | digit =>
      cases hrun
      exact hdigit
  | letter =>
      cases hrun
      exact hletter
  | _ => cases hrun

/-- A glyph does not join a blank. -/
theorem joins_append_cons
    {c blank : Char} (hblank : classOf blank = .blank) (cs ds : List Char) :
  joins c (cs ++ blank :: ds) = joins c cs
  := by
  cases cs with
  | nil =>
      have hne : blank ≠ '=' := by
        rintro rfl
        apply (classOf_eq_blank hblank).1
        decide
      simp [joins, hne]
  | cons d cs => rfl

/-- A blank keeps the lexemes before it and after it apart. -/
theorem Cuts.append
    {cs ds : List Char} {texts texts' : List String} (h : Cuts cs texts) (h' : Cuts ds texts')
    {blank : Char} (hblank : classOf blank = .blank) :
  Cuts (cs ++ blank :: ds) (texts ++ texts')
  := by
  induction h with
  | nil => apply Cuts.blank hblank h'
  | @joined c rest texts hclass hjoins _ ih =>
      have hrest : rest ≠ [] := by
        rintro rfl
        simp [joins] at hjoins
      rw [List.cons_append, List.cons_append]
      apply Cuts.joined hclass
      · rw [joins_append_cons hblank, hjoins]
      · rw [List.drop_append_of_le_length (List.length_pos_iff.mpr hrest)]
        apply ih
  | glyph hclass hjoins _ ih =>
      apply Cuts.glyph hclass _ ih
      rw [joins_append_cons hblank, hjoins]
  | run hrun _ ih =>
      have hstops := run?_blank hrun hblank
      rw [List.cons_append, List.cons_append, ← takeWhile_append_cons hstops]
      apply Cuts.run hrun
      rw [dropWhile_append_cons hstops]
      apply ih
  | blank hclass _ ih => apply Cuts.blank hclass ih

end ExprScript.Lexeme
