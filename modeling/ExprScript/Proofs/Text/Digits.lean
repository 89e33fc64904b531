import ExprScript.Text.DecimalDigit
import ExprScript.Text.Letter
import Mathlib.Tactic.Common

/-!
# Decimal digits

Writing a natural number in base ten gives a run of digits that denotes it
(`ofDigits_decimalDigits`), with none of them to spare (`isNumeral_decimal`).  No digit of any
script is a letter (`isLetter_of_isDigit`).
-/

namespace ExprScript.Text

/-! ### Writing a number -/

theorem digitValue?_digitChar {d : Nat} (h : d < 10) :
  digitValue? d.digitChar = some d
  := by
  have hall : ∀ d < 10, digitValue? (Nat.digitChar d) = some d := by decide +kernel
  apply hall d h

theorem ofDigits_append_singleton (cs : List Char) (c : Char) :
  ofDigits (cs ++ [c]) = 10 * ofDigits cs + (digitValue? c).getD 0
  := by
  simp [ofDigits]

/-- The digits of a number denote it. -/
theorem ofDigits_decimalDigits (n : Nat) :
  ofDigits (decimalDigits n) = n
  := by
  induction n using Nat.strongRecOn with
  | ind n ih =>
      rw [decimalDigits, Nat.toDigits_eq_if (by decide)]
      split
      · next hlt => simp [ofDigits, digitValue?_digitChar hlt]
      · next hge =>
          have hquotient := ih (n / 10) (by omega)
          rw [decimalDigits] at hquotient
          rw [ofDigits_append_singleton, hquotient,
            digitValue?_digitChar (Nat.mod_lt n (by decide)), Option.getD_some]
          omega

/-- The digits of a number are digits. -/
theorem isDigit_of_mem_decimalDigits {n : Nat} {c : Char} (h : c ∈ decimalDigits n) :
  isDigit c = true
  := by
  induction n using Nat.strongRecOn with
  | ind n ih =>
      rw [decimalDigits, Nat.toDigits_eq_if (by decide)] at h
      split at h
      · next hlt =>
          rw [List.mem_singleton] at h
          rw [h, isDigit, digitValue?_digitChar hlt]
          rfl
      · next hge =>
          rw [List.mem_append, List.mem_singleton] at h
          rcases h with h | h
          · apply ih (n / 10) (by omega) h
          · rw [h, isDigit, digitValue?_digitChar (Nat.mod_lt n (by decide))]
            rfl

/-- Whether a text writes a natural number in base ten: with at least one digit, from `0` to `9`,
and with no zero before other digits. -/
structure IsNumeral (n : Nat) (text : String) : Prop where
  denotes : ofDigits text.toList = n
  digits : ∀ c ∈ text.toList, c.isDigit = true
  nonempty : text ≠ ""
  unpadded : text.toList.head? = some '0' → text = "0"

/-- The first digit of a positive number is not zero. -/
theorem head?_decimalDigits {n : Nat} (hn : n ≠ 0) :
  (decimalDigits n).head? ≠ some '0'
  := by
  induction n using Nat.strongRecOn with
  | ind n ih =>
      rw [decimalDigits, Nat.toDigits_eq_if (by decide)]
      split
      · next hlt =>
          have hall : ∀ d < 10, d ≠ 0 → [Nat.digitChar d].head? ≠ some '0' := by decide
          apply hall n hlt hn
      · next hge =>
          have hquotient := ih (n / 10) (by omega) (by omega)
          rw [decimalDigits] at hquotient
          cases hdigits : Nat.toDigits 10 (n / 10) with
          | nil => exact absurd hdigits Nat.toDigits_ne_nil
          | cons first rest =>
              rw [hdigits] at hquotient
              apply hquotient

/-- The text of a natural number writes it in base ten. -/
theorem isNumeral_decimal (n : Nat) :
  IsNumeral n (decimal n)
  where
  denotes := by rw [decimal, String.toList_ofList, ofDigits_decimalDigits]
  digits c hc := by
    rw [decimal, String.toList_ofList] at hc
    apply Nat.isDigit_of_mem_toDigits (by decide) (by decide) hc
  nonempty := by
    rw [decimal, Ne, String.ofList_eq_empty_iff]
    apply Nat.toDigits_ne_nil
  unpadded h := by
    by_cases hn : n = 0
    · rw [hn]
      rfl
    · rw [decimal, String.toList_ofList] at h
      exact absurd h (head?_decimalDigits hn)

/-! ### Digits and letters -/

/-- A digit stands at most nine places after the zero of its script. -/
theorem digitFrom_eq_some {n d : Nat} {zeros : List Nat} (h : digitFrom n zeros = some d) :
  ∃ z ∈ zeros, d < 10 ∧ n = z + d
  := by
  fun_induction digitFrom n zeros with
  | case1 => cases h
  | case2 => cases h
  | case3 z rest hge hlt =>
      cases h
      exact ⟨z, List.mem_cons_self, by omega, by omega⟩
  | case4 z rest hge hlt ih =>
      obtain ⟨z', hmem, hvalue⟩ := ih h
      exact ⟨z', List.mem_cons_of_mem z hmem, hvalue⟩

/-- Whether no digit after one of the zeros, which are in increasing order, is in one of the ranges.
The zeros whose digits lie below a range are dropped before the next range. -/
def clears (zeros : List Nat) : List (Nat × Nat) → Bool
  | [] => true
  | (low, high) :: rest =>
    let above := zeros.dropWhile (fun z => z + 10 ≤ low)
    (above.head?.all fun z => high < z) && clears above rest

theorem mem_dropWhile {p : Nat → Bool} {ns : List Nat} {n : Nat} (hmem : n ∈ ns)
    (hn : p n = false) :
  n ∈ ns.dropWhile p
  := by
  induction ns with
  | nil => cases hmem
  | cons m ns ih =>
      rw [List.dropWhile_cons]
      split
      · next hm =>
          rcases List.mem_cons.mp hmem with rfl | hmem
          · rw [hn] at hm
            cases hm
          · apply ih hmem
      · exact hmem

/-- If ranges are clear of the digits after some zeros, then they hold none of them. -/
theorem holds_of_clears
    {zeros : List Nat} {ranges : List (Nat × Nat)} (hsorted : zeros.Pairwise (· < ·))
    (h : clears zeros ranges = true) {z d : Nat} (hz : z ∈ zeros) (hd : d < 10) :
  RangeTable.holds ranges (z + d) = false
  := by
  induction ranges generalizing zeros with
  | nil => rfl
  | cons range rest ih =>
      obtain ⟨low, high⟩ := range
      rw [clears, Bool.and_eq_true] at h
      rw [RangeTable.holds]
      split
      · rfl
      next hlow =>
      have hmem : z ∈ zeros.dropWhile (fun z => z + 10 ≤ low) := by
        apply mem_dropWhile hz
        rw [decide_eq_false_iff_not]
        omega
      have hsorted' := hsorted.sublist (List.dropWhile_sublist (fun z => z + 10 ≤ low))
      have hhigh : high < z := by
        generalize zeros.dropWhile (fun z => z + 10 ≤ low) = above at h hmem hsorted'
        cases above with
        | nil => cases hmem
        | cons first above =>
            have hfirst : high < first := by simpa using h.1
            rcases List.mem_cons.mp hmem with rfl | hmem
            · exact hfirst
            · have := (List.pairwise_cons.mp hsorted').1 z hmem
              omega
      rw [if_neg (by omega)]
      apply ih hsorted' h.2 hmem

/-- No digit is a letter. -/
theorem isLetter_of_isDigit {c : Char} (h : isDigit c = true) :
  isLetter c = false
  := by
  have hsorted : digitZeros.Pairwise (· < ·) := by decide +kernel
  have hclears : clears digitZeros letterTable.ranges = true := by decide +kernel
  obtain ⟨d, hd⟩ := Option.isSome_iff_exists.mp h
  obtain ⟨z, hz, hlt, hsum⟩ := digitFrom_eq_some hd
  rw [isLetter, hsum]
  apply holds_of_clears hsorted hclears hz hlt

end ExprScript.Text
