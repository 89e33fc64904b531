import ExprScript.Text.RangeTable
import Mathlib.Data.List.Basic

/-!
# Looking a code point up in a table

A table covers a code point exactly when one of its ranges holds it (`RangeTable.covers_iff`).  The
search may stop at the first range that begins beyond the code point, because the ranges of a table
are increasing.
-/

namespace ExprScript.Text.RangeTable

/-- Increasing ranges lie from the start on. -/
theorem start_le_of_mem
    {start : Nat} {ranges : List (Nat × Nat)} (h : increasingFrom start ranges = true)
    {range : Nat × Nat} (hmem : range ∈ ranges) :
  start ≤ range.1
  := by
  induction ranges generalizing start with
  | nil => cases hmem
  | cons first rest ih =>
      obtain ⟨low, high⟩ := first
      simp only [increasingFrom, Bool.and_eq_true, decide_eq_true_eq] at h
      rcases List.mem_cons.mp hmem with rfl | hmem
      · exact h.1.1
      · have hrest := ih h.2 hmem
        omega

theorem holds_iff
    {start : Nat} {ranges : List (Nat × Nat)} (h : increasingFrom start ranges = true) (n : Nat) :
  holds ranges n = true ↔ ∃ range ∈ ranges, range.1 ≤ n ∧ n ≤ range.2
  := by
  induction ranges generalizing start with
  | nil => simp [holds]
  | cons first rest ih =>
      obtain ⟨low, high⟩ := first
      simp only [increasingFrom, Bool.and_eq_true, decide_eq_true_eq] at h
      rw [holds, List.exists_mem_cons_iff]
      split
      · next hlow =>
          -- the ranges that remain begin even further beyond
          have hbeyond : ¬ ∃ range ∈ rest, range.1 ≤ n ∧ n ≤ range.2 := by
            rintro ⟨range, hmem, hrange, -⟩
            have hstart := start_le_of_mem h.2 hmem
            omega
          simp only [hbeyond, or_false, Bool.false_eq_true, false_iff]
          omega
      split
      · next hlow hhigh =>
          simp only [true_iff]
          left
          omega
      · next hlow hhigh =>
          rw [ih h.2, or_iff_right]
          omega

/-- A table covers the code points that its ranges hold. -/
theorem covers_iff (table : RangeTable) (n : Nat) :
  table.covers n = true ↔ ∃ range ∈ table.ranges, range.1 ≤ n ∧ n ≤ range.2
  := holds_iff table.increasing n

end ExprScript.Text.RangeTable
