import ExprScript.Proofs.Text.Digits
import ExprScript.Proofs.Text.RangeTable
import ExprScript.Text.Blank

/-!
# Blanks

A blank is neither a letter nor a digit of any script (`isBlank_apart`), so the classes of
characters that make up a source are apart from one another.
-/

namespace ExprScript.Text

/-- A blank is neither a letter nor a digit. -/
theorem isBlank_apart {c : Char} (h : isBlank c = true) :
  isLetter c = false ∧ isDigit c = false
  := by
  have hall : ∀ range ∈ blankTable.ranges, ∀ n ∈ List.range' range.1 (range.2 + 1 - range.1),
      letterTable.covers n = false ∧ (digitFrom n digitZeros).isSome = false := by decide +kernel
  obtain ⟨range, hmem, hlow, hhigh⟩ := (blankTable.covers_iff c.toNat).mp h
  apply hall range hmem
  rw [List.mem_range'_1]
  omega

end ExprScript.Text
