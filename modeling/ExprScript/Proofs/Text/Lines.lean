import ExprScript.Text.Lines
import Mathlib.Data.List.DropRight

/-!
# Lines of a text

The lines of a text are its pieces between newlines, one more than there are newlines
(`length_lines`).  Around every offset there is a longest stretch without a newline
(`exists_isLineAround`), and it is the line whose index is the number of newlines before the offset
(`IsLineAround.getElem?_lines`).
-/

namespace ExprScript.Text

/-! ### Cutting at newlines -/

theorem lines_eq_splitOnP (cs : List Char) :
  lines cs = cs.splitOnP (· = '\n')
  := by
  unfold lines
  induction cs with
  | nil => rfl
  | cons c cs ih =>
      rw [cutWhere, ih, List.splitOnP_cons_eq_if_modifyHead]
      obtain ⟨first, rest, hpieces⟩ :=
        List.exists_cons_of_ne_nil (List.splitOnP_ne_nil (· = '\n') cs)
      rw [hpieces]
      rfl

/-- The lines are one more than the newlines. -/
theorem length_lines (cs : List Char) :
  (lines cs).length = cs.count '\n' + 1
  := by
  rw [lines_eq_splitOnP]
  induction cs with
  | nil => rfl
  | cons c cs ih =>
      rw [List.splitOnP_cons_eq_if_modifyHead, List.count_cons]
      by_cases hc : c = '\n'
      · simp [hc, ih]
      · simp [hc, ih]

theorem lines_append_newline (cs ds : List Char) :
  lines (cs ++ '\n' :: ds) = lines cs ++ lines ds
  := by
  simp only [lines_eq_splitOnP]
  apply List.splitOnP_append_cons
  rfl

/-- A text without a newline is a single line. -/
theorem lines_of_newline_notMem {cs : List Char} (h : '\n' ∉ cs) :
  lines cs = [cs]
  := by
  rw [lines_eq_splitOnP]
  apply List.splitOnP_eq_singleton
  intro c hc
  rw [decide_eq_false_iff_not]
  rintro rfl
  exact h hc

/-! ### The line around an offset -/

/-- Whether `middle`, which stands between `left` and `right`, is the longest stretch around the
offset that has no newline. -/
structure IsLineAround (cs : List Char) (offset : Nat) (left middle right : List Char) : Prop where
  split : cs = left ++ middle ++ right
  start_le : left.length ≤ offset
  le_stop : offset ≤ left.length + middle.length
  newline_notMem : '\n' ∉ middle
  before : ∀ c ∈ left.getLast?, c = '\n'
  after : ∀ c ∈ right.head?, c = '\n'

/-- Up to an offset of the text the line around it goes back and forth to the nearest newlines. -/
theorem exists_isLineAround {cs : List Char} {offset : Nat} (h : offset ≤ cs.length) :
  ∃ middle right, IsLineAround cs offset ((cs.take offset).rdropWhile (· != '\n')) middle right
  := by
  let left := (cs.take offset).rdropWhile (· != '\n')
  let back := (cs.take offset).rtakeWhile (· != '\n')
  let forth := (cs.drop offset).takeWhile (· != '\n')
  let right := (cs.drop offset).dropWhile (· != '\n')
  have hback : left ++ back = cs.take offset := List.rdropWhile_append_rtakeWhile
  have hforth : forth ++ right = cs.drop offset := List.takeWhile_append_dropWhile
  have hlength : left.length + back.length = offset := by
    rw [← List.length_append, hback, List.length_take_of_le h]
  refine ⟨back ++ forth, right, ?_, ?_, ?_, ?_, ?_, ?_⟩
  · calc
      cs = cs.take offset ++ cs.drop offset := (List.take_append_drop offset cs).symm
      _ = (left ++ back) ++ (forth ++ right) := by rw [hback, hforth]
      _ = left ++ (back ++ forth) ++ right := by simp only [List.append_assoc]
  · exact Nat.le.intro hlength
  · change offset ≤ left.length + (back ++ forth).length
    rw [List.length_append]
    omega
  · rw [List.mem_append]
    rintro (hmem | hmem)
    · cases List.mem_rtakeWhile_imp hmem
    · cases List.mem_takeWhile_imp hmem
  · intro c hc
    obtain ⟨hne, rfl⟩ := List.mem_getLast?_eq_getLast hc
    simpa using List.rdropWhile_last_not (· != '\n') (cs.take offset) hne
  · intro c hc
    have hstops := List.head?_dropWhile_not (· != '\n') (cs.drop offset)
    rw [hc] at hstops
    simpa using hstops

/-- As many newlines stand before the line as before the offset. -/
theorem IsLineAround.count_left
    {cs : List Char} {offset : Nat} {left middle right : List Char}
    (h : IsLineAround cs offset left middle right) :
  left.count '\n' = (cs.take offset).count '\n'
  := by
  have hstop : offset - left.length ≤ middle.length := by
    have := h.le_stop
    omega
  have htake : cs.take offset = left ++ middle.take (offset - left.length) := by
    rw [h.split, List.append_assoc, List.take_append, List.take_of_length_le h.start_le,
      List.take_append_of_le_length hstop]
  have hnone : (middle.take (offset - left.length)).count '\n' = 0 := by
    rw [List.count_eq_zero]
    intro hmem
    exact h.newline_notMem (List.mem_of_mem_take hmem)
  rw [htake, List.count_append, hnone, Nat.add_zero]

/-- The line around an offset is the one whose index is the number of newlines before it. -/
theorem IsLineAround.getElem?_lines
    {cs : List Char} {offset : Nat} {left middle right : List Char}
    (h : IsLineAround cs offset left middle right) :
  (lines cs)[left.count '\n']? = some middle
  := by
  have hline : (lines (middle ++ right)).head? = some middle := by
    cases right with
    | nil => rw [List.append_nil, lines_of_newline_notMem h.newline_notMem, List.head?_singleton]
    | cons c right =>
        obtain rfl := h.after c rfl
        rw [lines_append_newline, lines_of_newline_notMem h.newline_notMem, List.singleton_append,
          List.head?_cons]
  rw [h.split, List.append_assoc]
  obtain rfl | ⟨init, c, rfl⟩ := left.eq_nil_or_concat'
  · rwa [List.count_nil, ← List.head?_eq_getElem?]
  · obtain rfl := h.before c (by simp)
    rw [List.append_assoc, List.singleton_append, lines_append_newline, List.count_append,
      List.count_singleton_self, ← length_lines, List.getElem?_append_right (Nat.le_refl _),
      Nat.sub_self, ← List.head?_eq_getElem?]
    exact hline

/-- A character at the offset, if it is no newline, is a character of the line. -/
theorem IsLineAround.getElem?_line
    {cs : List Char} {offset : Nat} {left middle right : List Char}
    (h : IsLineAround cs offset left middle right) {c : Char} (hc : cs[offset]? = some c)
    (hnewline : c ≠ '\n') :
  middle[offset - left.length]? = some c
  := by
  rw [h.split, List.append_assoc, List.getElem?_append_right h.start_le] at hc
  by_cases hlt : offset - left.length < middle.length
  · rwa [List.getElem?_append_left hlt] at hc
  · have hstop : offset - left.length = middle.length := by
      have := h.le_stop
      omega
    rw [hstop, List.getElem?_append_right (Nat.le_refl _), Nat.sub_self,
      ← List.head?_eq_getElem?] at hc
    exact absurd (h.after c hc) hnewline

end ExprScript.Text
