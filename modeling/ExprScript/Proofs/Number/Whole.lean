import ExprScript.Number.Whole
import Mathlib.Algebra.Group.Nat.Defs
import Mathlib.Tactic.Common

/-!
# Whole numbers are exact

The number nearest to a whole number is that number: reading back the natural number that a
magnitude is equal to gives its rank (`rankOfNat_of_wholeMagnitude?`), so a number without a minus
sign that is equal to `n` is `Number.ofNat n` (`ofNat_of_whole?`).  Conversely, the number nearest
to a natural number is whole if it is finite, also where the natural number has been rounded
(`whole?_ofNat`).
-/

namespace ExprScript.Number

/-- A magnitude that is `m * 2 ^ k`, where `m` has 53 binary digits, is not rounded. -/
theorem leading_mul_pow {m : Nat} (hlow : 2 ^ 52 ≤ m) (hhigh : m < 2 ^ 53) (k : Nat) :
  (m * 2 ^ k).log2 = 52 + k ∧ leading (m * 2 ^ k) = m
  := by
  have hpos : 0 < 2 ^ k := Nat.two_pow_pos k
  have hlog : (m * 2 ^ k).log2 = 52 + k := by
    rw [Nat.log2_eq_iff (Nat.mul_ne_zero (by omega) (by omega))]
    constructor
    · rw [Nat.pow_add]
      apply Nat.mul_le_mul_right _ hlow
    · rw [show 52 + k + 1 = 53 + k by omega, Nat.pow_add]
      apply Nat.mul_lt_mul_of_pos_right hhigh hpos
  refine ⟨hlog, ?_⟩
  unfold leading
  rw [hlog]
  by_cases hk : k = 0
  · subst hk
    simp
  · have hhalve : halveEven (m * 2 ^ k) k = m := by
      simp only [halveEven, Nat.pow_eq, Nat.mul_mod_left, Nat.mul_zero, hpos, if_true]
      apply Nat.mul_div_cancel _ hpos
    rw [if_neg (by omega), Nat.add_sub_cancel_left, hhalve]

/-- A magnitude that is `m / 2 ^ k`, where `m` has 53 binary digits, is not rounded. -/
theorem leading_of_mul_pow {n k m : Nat} (hm : n * 2 ^ k = m) (hlow : 2 ^ 52 ≤ m)
    (hhigh : m < 2 ^ 53) :
  n.log2 + k = 52 ∧ leading n = m
  := by
  have hn : n ≠ 0 := by
    rintro rfl
    omega
  have hlog : n.log2 + k = 52 := by
    obtain ⟨hle, hlt⟩ := (Nat.log2_eq_iff hn).mp rfl
    have hle' : 2 ^ (n.log2 + k) ≤ m := by
      rw [← hm, Nat.pow_add]
      apply Nat.mul_le_mul_right _ hle
    have hlt' : m < 2 ^ (n.log2 + 1 + k) := by
      rw [← hm, Nat.pow_add]
      apply Nat.mul_lt_mul_of_pos_right hlt (Nat.two_pow_pos k)
    have h₁ := (Nat.pow_lt_pow_iff_right (by omega : 1 < 2)).mp (Nat.lt_of_le_of_lt hle' hhigh)
    have h₂ := (Nat.pow_lt_pow_iff_right (by omega : 1 < 2)).mp (Nat.lt_of_le_of_lt hlow hlt')
    omega
  refine ⟨hlog, ?_⟩
  rw [leading, if_pos (by omega), ← hlog, Nat.add_sub_cancel_left]
  apply hm

/-- A whole magnitude below the first `2 ^ 52` ranks is zero. -/
theorem eq_zero_of_wholeMagnitude?
    {rank n : Nat} (hrank : rank < fractions) (h : wholeMagnitude? rank = some n) :
  rank = 0 ∧ n = 0
  := by
  obtain ⟨k, hk, hexponent⟩ : ∃ k, 52 ≤ k + 1 ∧ exponent rank = Int.negSucc k :=
    ⟨1073, by decide, if_pos hrank⟩
  have hlt : rank < 2 ^ (k + 1) := by
    have hpow : 2 ^ 52 ≤ 2 ^ (k + 1) := Nat.pow_le_pow_right (by decide : 0 < 2) hk
    have hfractions : fractions = 2 ^ 52 := rfl
    omega
  simp only [wholeMagnitude?, hexponent, significand, if_pos hrank, Nat.pow_eq,
    Nat.mod_eq_of_lt hlt] at h
  split at h
  · next hzero =>
      cases h
      rw [hzero]
      simp
  · cases h

/-- The rank of a natural number with the 53 leading binary digits `m` is given by the exponent
field and the fraction field of its magnitude. -/
theorem rankOfNat_eq
    {rank n : Nat} (hlog : n.log2 + 1023 = rank / fractions)
    (hleading : leading n = fractions + rank % fractions) :
  rankOfNat n = rank
  := by
  have hn : n ≠ 0 := by
    rintro rfl
    have : leading 0 = 0 := by decide
    rw [this] at hleading
    simp only [fractions] at hleading
    omega
  rw [rankOfNat, if_neg hn, hleading]
  simp only [fractions] at hlog ⊢
  omega

/-- The rank of the natural number that a magnitude is equal to is the rank of the magnitude. -/
theorem rankOfNat_of_wholeMagnitude? {rank n : Nat} (h : wholeMagnitude? rank = some n) :
  rankOfNat n = rank
  := by
  by_cases hrank : rank < fractions
  · obtain ⟨rfl, rfl⟩ := eq_zero_of_wholeMagnitude? hrank h
    rfl
  have hfractions : fractions = 2 ^ 52 := rfl
  have hmod : rank % fractions < fractions := Nat.mod_lt _ (by decide)
  have hfield : 1 ≤ rank / fractions := Nat.div_pos (by omega) (by decide)
  have hsignificand : significand rank = fractions + rank % fractions := if_neg hrank
  have hlow : 2 ^ 52 ≤ fractions + rank % fractions := by omega
  have hhigh : fractions + rank % fractions < 2 ^ 53 := by omega
  have hexponent : exponent rank = (rank / fractions : Nat) - 1075 := if_neg hrank
  by_cases hwhole : 1075 ≤ rank / fractions
  · have hofNat : exponent rank = Int.ofNat (rank / fractions - 1075) := by
      rw [hexponent, Int.ofNat_eq_natCast]
      omega
    simp only [wholeMagnitude?, hofNat, hsignificand, Nat.pow_eq, Option.some.injEq] at h
    subst h
    obtain ⟨hlog, hleading⟩ := leading_mul_pow hlow hhigh (rank / fractions - 1075)
    apply rankOfNat_eq (by omega) hleading
  · have hnegSucc : exponent rank = Int.negSucc (1074 - rank / fractions) := by
      rw [hexponent, Int.negSucc_eq]
      omega
    simp only [wholeMagnitude?, hnegSucc, hsignificand, Nat.pow_eq] at h
    split at h
    · next hdvd =>
        cases h
        have hmul := Nat.div_mul_cancel (Nat.dvd_of_mod_eq_zero hdvd)
        obtain ⟨hlog, hleading⟩ := leading_of_mul_pow hmul hlow hhigh
        apply rankOfNat_eq (by omega) hleading
    · cases h

/-- A number without a minus sign that is equal to the integer `i` is the number nearest to the
natural number `i`. -/
theorem ofNat_of_whole?
    {x : Number} {i : Int} (hsign : x.isNegative = false) (h : x.whole? = some i) :
  ∃ n : Nat, i = n ∧ ofNat n = x
  := by
  cases x with
  | finite negative rank =>
      obtain rfl : negative = false := hsign
      obtain ⟨n, hwhole, rfl⟩ := Option.map_eq_some_iff.mp h
      refine ⟨n, rfl, ?_⟩
      rw [ofNat, rankOfNat_of_wholeMagnitude? hwhole, ofRank, dif_pos rank.isLt]
  | infinite negative => cases h
  | undefined origin => cases h

/-! ### Rounded numbers are whole -/

/-- From the magnitude with 53 binary digits before the point on, every magnitude is whole. -/
theorem wholeMagnitude?_of_le {rank : Nat} (h : 1075 * fractions ≤ rank) :
  (wholeMagnitude? rank).isSome = true
  := by
  have hfield : 1075 ≤ rank / fractions := (Nat.le_div_iff_mul_le (by decide)).mpr h
  have hnormal : ¬ rank < fractions := by
    simp only [fractions] at h ⊢
    omega
  have hexponent : exponent rank = Int.ofNat (rank / fractions - 1075) := by
    rw [exponent, if_neg hnormal, Int.ofNat_eq_natCast]
    omega
  simp only [wholeMagnitude?, hexponent, Option.isSome_some]

/-- The leading digits of a positive number have their first digit. -/
theorem fractions_le_leading {n : Nat} (hn : n ≠ 0) :
  fractions ≤ leading n
  := by
  have hlow : 2 ^ n.log2 ≤ n := Nat.log2_self_le hn
  rw [leading]
  split
  · next hlog =>
      calc fractions
        _ = 2 ^ n.log2 * 2 ^ (52 - n.log2) := by
            rw [← Nat.pow_add, Nat.add_sub_cancel' hlog]
            rfl
        _ ≤ n * 2 ^ (52 - n.log2) := Nat.mul_le_mul_right _ hlow
  · next hlog =>
      have hquotient : fractions ≤ n / 2 ^ (n.log2 - 52) := by
        rw [Nat.le_div_iff_mul_le (Nat.two_pow_pos _)]
        calc fractions * 2 ^ (n.log2 - 52)
          _ = 2 ^ n.log2 := by
              rw [show fractions = 2 ^ 52 from rfl, ← Nat.pow_add, Nat.add_sub_cancel' (by omega)]
          _ ≤ n := hlow
      simp only [halveEven, Nat.pow_eq]
      split
      · exact hquotient
      · split <;> omega

/-- The magnitude nearest to a natural number below `2 ^ 52` is whole. -/
theorem wholeMagnitude?_rankOfNat_of_lt {n : Nat} (hn : n ≠ 0) (hlog : n.log2 < 52) :
  (wholeMagnitude? (rankOfNat n)).isSome = true
  := by
  have hleading : leading n = n * 2 ^ (52 - n.log2) := if_pos (by omega)
  have hlow : fractions ≤ leading n := fractions_le_leading hn
  have hhigh : leading n < 2 * fractions := by
    rw [hleading]
    calc n * 2 ^ (52 - n.log2)
      _ < 2 ^ (n.log2 + 1) * 2 ^ (52 - n.log2) :=
          Nat.mul_lt_mul_of_pos_right Nat.lt_log2_self (Nat.two_pow_pos _)
      _ = 2 * fractions := by
          rw [← Nat.pow_add, show n.log2 + 1 + (52 - n.log2) = 53 by omega]
          rfl
  have hrank : rankOfNat n = (n.log2 + 1022) * fractions + leading n := if_neg hn
  have hnormal : ¬ rankOfNat n < fractions := by omega
  have hsignificand : significand (rankOfNat n) = leading n := by
    rw [significand, if_neg hnormal, hrank]
    simp only [fractions] at hlow hhigh ⊢
    omega
  have hexponent : exponent (rankOfNat n) = Int.negSucc (51 - n.log2) := by
    rw [exponent, if_neg hnormal, hrank, Int.negSucc_eq]
    simp only [fractions] at hlow hhigh ⊢
    omega
  have hdvd : leading n % Nat.pow 2 (51 - n.log2 + 1) = 0 := by
    rw [hleading, show 51 - n.log2 + 1 = 52 - n.log2 by omega]
    apply Nat.mul_mod_left
  simp only [wholeMagnitude?, hexponent, hsignificand, hdvd, if_true, Option.isSome_some]

/-- The magnitude nearest to a natural number is whole, even if no finite number has it. -/
theorem wholeMagnitude?_rankOfNat (n : Nat) :
  (wholeMagnitude? (rankOfNat n)).isSome = true
  := by
  by_cases hn : n = 0
  · subst hn
    decide +kernel
  by_cases hlog : n.log2 < 52
  · apply wholeMagnitude?_rankOfNat_of_lt hn hlog
  · apply wholeMagnitude?_of_le
    have hlow : fractions ≤ leading n := fractions_le_leading hn
    rw [rankOfNat, if_neg hn]
    simp only [fractions] at hlow ⊢
    omega

/-- The number nearest to a natural number is whole if it is finite. -/
theorem whole?_ofNat {n : Nat} (h : (ofNat n).isFinite = true) :
  (ofNat n).whole?.isSome = true
  := by
  unfold ofNat ofRank at h ⊢
  split at h
  · next hrank =>
      rw [dif_pos hrank, whole?, Option.isSome_map]
      apply wholeMagnitude?_rankOfNat
  · cases h

theorem isNegative_ofNat (n : Nat) :
  (ofNat n).isNegative = false
  := by
  unfold ofNat ofRank
  split <;> rfl

end ExprScript.Number
