import ExprScript.Proofs.Number.Equality
import ExprScript.Proofs.Number.Whole

/-!
# Rounding

The number of a natural number is rounded to the nearest magnitude, and of two that are equally near
to the one with the even significand (`isRounded_ofNat`).  Magnitudes beyond those of the finite
numbers count too, and what is rounded to them is infinite.

Conversely, the integer of a number is its value, exactly (`whole?_eq_some_iff`).  Hence a natural
number that is the value of some number is the value of the number it is rounded to
(`HasValue.ofNat`).
-/

namespace ExprScript.Number

/-! ### Nearest magnitudes -/

/-- Whether no magnitude is nearer to the value than that of the rank, and the significand is even
if another is as near. -/
structure IsNearest (rank : Nat) (v : ℚ) : Prop where
  nearest : ∀ other, |magnitude rank - v| ≤ |magnitude other - v|
  even_of_tie : ∀ other, other ≠ rank → |magnitude other - v| = |magnitude rank - v| →
    significand rank % 2 = 0

/-- Of two neighbours with the value between them the nearer is nearest, and on a tie the one with
the even significand. -/
theorem isNearest_of_between
    {rank chosen : Nat} {v : ℚ} (hlow : magnitude rank ≤ v) (hhigh : v ≤ magnitude (rank + 1))
    (hchosen : chosen = rank ∧ v - magnitude rank ≤ magnitude (rank + 1) - v ∨
      chosen = rank + 1 ∧ magnitude (rank + 1) - v ≤ v - magnitude rank)
    (heven : v - magnitude rank = magnitude (rank + 1) - v → significand chosen % 2 = 0) :
  IsNearest chosen v
  := by
  have hbelow : ∀ other ≤ rank, |magnitude other - v| = v - magnitude other := by
    intro other hother
    have := magnitude_strictMono.monotone hother
    rw [abs_sub_comm, abs_of_nonneg (by linarith)]
  have habove : ∀ other, rank + 1 ≤ other → |magnitude other - v| = magnitude other - v := by
    intro other hother
    have := magnitude_strictMono.monotone hother
    rw [abs_of_nonneg (by linarith)]
  have hdistance : |magnitude chosen - v| ≤ v - magnitude rank ∧
      |magnitude chosen - v| ≤ magnitude (rank + 1) - v := by
    rcases hchosen with ⟨rfl, hnearer⟩ | ⟨rfl, hnearer⟩
    · rw [hbelow _ (Nat.le_refl _)]
      exact ⟨le_refl _, hnearer⟩
    · rw [habove _ (Nat.le_refl _)]
      exact ⟨hnearer, le_refl _⟩
  constructor
  · intro other
    rcases Nat.lt_or_ge rank other with hother | hother
    · have := magnitude_strictMono.monotone (Nat.succ_le_of_lt hother)
      rw [habove _ hother]
      linarith [hdistance.2]
    · have := magnitude_strictMono.monotone hother
      rw [hbelow _ hother]
      linarith [hdistance.1]
  · intro other hother htie
    apply heven
    rcases hchosen with ⟨rfl, hnearer⟩ | ⟨rfl, hnearer⟩
    · rw [hbelow _ (Nat.le_refl _)] at htie
      rcases Nat.lt_or_ge chosen other with hlt | hge
      · have := magnitude_strictMono.monotone (Nat.succ_le_of_lt hlt)
        rw [habove _ hlt] at htie
        linarith
      · have := magnitude_strictMono (Nat.lt_of_le_of_ne hge hother)
        rw [hbelow _ hge] at htie
        linarith
    · rw [habove _ (Nat.le_refl _)] at htie
      rcases Nat.lt_or_ge rank other with hlt | hge
      · have := magnitude_strictMono (Nat.lt_of_le_of_ne hlt (Ne.symm hother))
        rw [habove _ hlt] at htie
        linarith
      · have := magnitude_strictMono.monotone hge
        rw [hbelow _ hge] at htie
        linarith

/-- A magnitude is nearest to itself. -/
theorem isNearest_magnitude (rank : Nat) :
  IsNearest rank (magnitude rank)
  := by
  have hsucc := magnitude_lt_succ rank
  apply isNearest_of_between (le_refl _) hsucc.le (.inl ⟨rfl, by linarith⟩)
  intro htie
  linarith

/-! ### Magnitudes with 53 binary digits -/

section Normal

variable {m : Nat} (hlow : fractions ≤ m)
include hlow

/-- The rank of `m` counts of a power of two, where `m` has 53 binary digits or carries to the
next. -/
theorem magnitude_normal (hhigh : m ≤ 2 * fractions) (field : Nat) :
  magnitude (field * fractions + m) = m * 2 ^ ((field : ℤ) - 1074)
  := by
  have hnormal : ¬ field * fractions + m < fractions := by omega
  rw [magnitude, significand, exponent, if_neg hnormal, if_neg hnormal]
  by_cases hcarry : m = 2 * fractions
  · have hmod : (field * fractions + m) % fractions = 0 := by
      rw [hcarry, ← Nat.add_mul, Nat.mul_mod_left]
    have hdiv : (field * fractions + m) / fractions = field + 2 := by
      rw [hcarry, ← Nat.add_mul]
      apply Nat.mul_div_cancel _ (by decide)
    rw [hmod, hdiv, hcarry, Nat.add_zero, Nat.cast_mul, Nat.cast_two, mul_assoc, mul_left_comm,
      ← zpow_one_add₀ two_ne_zero]
    congr 2
    omega
  · have hmod : (field * fractions + m) % fractions = m - fractions := by
      simp only [fractions] at hlow hhigh hcarry ⊢
      omega
    have hdiv : (field * fractions + m) / fractions = field + 1 := by
      simp only [fractions] at hlow hhigh hcarry ⊢
      omega
    rw [hmod, hdiv, Nat.add_sub_cancel' hlow]
    congr 2
    omega

theorem significand_normal_mod_two (field : Nat) :
  significand (field * fractions + m) % 2 = m % 2
  := by
  have hnormal : ¬ field * fractions + m < fractions := by omega
  rw [significand, if_neg hnormal]
  simp only [fractions] at hlow ⊢
  omega

end Normal

/-! ### Rounding natural numbers -/

/-- Halving `k` times rounds the quotient down or up to the nearer, and on a tie to the even one. -/
theorem halveEven_cases (n k : Nat) :
  (halveEven n k = n / 2 ^ k ∧ 2 * (n % 2 ^ k) ≤ 2 ^ k ∨
      halveEven n k = n / 2 ^ k + 1 ∧ 2 ^ k ≤ 2 * (n % 2 ^ k)) ∧
    (2 * (n % 2 ^ k) = 2 ^ k → halveEven n k % 2 = 0)
  := by
  simp only [halveEven, Nat.pow_eq]
  split
  · omega
  · split <;> omega

/-- The magnitude nearest to a natural number of at most 53 binary digits is that number. -/
theorem magnitude_rankOfNat_of_le {n : Nat} (hn : n ≠ 0) (hlog : n.log2 ≤ 52) :
  magnitude (rankOfNat n) = n
  := by
  have hleading : leading n = n * 2 ^ (52 - n.log2) := if_pos hlog
  have hhigh : leading n ≤ 2 * fractions := by
    rw [hleading]
    calc n * 2 ^ (52 - n.log2)
      _ ≤ 2 ^ (n.log2 + 1) * 2 ^ (52 - n.log2) := Nat.mul_le_mul_right _ Nat.lt_log2_self.le
      _ = 2 * fractions := by
          rw [← Nat.pow_add, show n.log2 + 1 + (52 - n.log2) = 53 by omega]
          rfl
  rw [rankOfNat, if_neg hn, magnitude_normal (fractions_le_leading hn) hhigh, hleading,
    Nat.cast_mul, Nat.cast_pow, Nat.cast_two, mul_assoc, ← zpow_natCast, ← zpow_add₀ two_ne_zero]
  rw [show ((52 - n.log2 : Nat) : ℤ) + (((n.log2 + 1022 : Nat) : ℤ) - 1074) = 0 by omega, zpow_zero,
    mul_one]

/-- Halving a natural number until 53 binary digits are left gives the magnitude nearest to it. -/
theorem isNearest_halveEven
    {n k : Nat} (hlow : fractions ≤ n / 2 ^ k) (hhigh : n / 2 ^ k < 2 * fractions) :
  IsNearest ((k + 1074) * fractions + halveEven n k) n
  := by
  -- the neighbours of `n` are `q` and `q + 1` counts of `2 ^ k`, and `n` is `r` above the first
  generalize hq : n / 2 ^ k = q at hlow hhigh
  generalize hr : n % 2 ^ k = r
  have hunit : ((k + 1074 : Nat) : ℤ) - 1074 = k := by omega
  have hbelow : magnitude ((k + 1074) * fractions + q) = q * 2 ^ k := by
    rw [magnitude_normal hlow hhigh.le, hunit, zpow_natCast]
  have habove : magnitude ((k + 1074) * fractions + q + 1) = q * 2 ^ k + 2 ^ k := by
    rw [Nat.add_assoc, magnitude_normal (Nat.le_succ_of_le hlow) hhigh, hunit, zpow_natCast,
      Nat.cast_add_one, add_one_mul]
  have hn : (n : ℚ) = q * 2 ^ k + r := by
    rw [← hq, ← hr]
    exact_mod_cast (Nat.div_add_mod' n (2 ^ k)).symm
  have hnonneg : (0 : ℚ) ≤ r := Nat.cast_nonneg r
  have hmod : (r : ℚ) < 2 ^ k := by
    rw [← hr]
    exact_mod_cast Nat.mod_lt n (Nat.two_pow_pos k)
  have hfrom : magnitude ((k + 1074) * fractions + q) ≤ n := by linarith
  have hto : n ≤ magnitude ((k + 1074) * fractions + q + 1) := by linarith
  obtain ⟨hcases, heven⟩ := halveEven_cases n k
  rw [hq, hr] at hcases
  rw [hr] at heven
  apply isNearest_of_between hfrom hto
  · rw [hbelow, habove]
    rcases hcases with ⟨hdown, hle⟩ | ⟨hup, hge⟩
    · have hle : 2 * (r : ℚ) ≤ 2 ^ k := by exact_mod_cast hle
      exact .inl ⟨by rw [hdown], by linarith⟩
    · have hge : 2 ^ k ≤ 2 * (r : ℚ) := by exact_mod_cast hge
      exact .inr ⟨by rw [hup, Nat.add_assoc], by linarith⟩
  · intro htie
    have htie : 2 * r = 2 ^ k := by
      have htie : 2 * (r : ℚ) = 2 ^ k := by linarith
      exact_mod_cast htie
    rw [significand_normal_mod_two (by omega), heven htie]

/-- The rank of a natural number is the rank of the magnitude nearest to it. -/
theorem isNearest_rankOfNat (n : Nat) :
  IsNearest (rankOfNat n) n
  := by
  by_cases hn : n = 0
  · have hzero : (n : ℚ) = magnitude 0 := by rw [hn, Nat.cast_zero, magnitude_zero]
    rw [rankOfNat, if_pos hn, hzero]
    apply isNearest_magnitude
  by_cases hlog : n.log2 ≤ 52
  · rw [← magnitude_rankOfNat_of_le hn hlog]
    apply isNearest_magnitude
  obtain ⟨k, hk⟩ : ∃ k, n.log2 = 52 + k := ⟨n.log2 - 52, by omega⟩
  have hlow : fractions ≤ n / 2 ^ k := by
    rw [Nat.le_div_iff_mul_le (Nat.two_pow_pos k), show fractions = 2 ^ 52 from rfl, ← Nat.pow_add,
      ← hk]
    apply Nat.log2_self_le hn
  have hhigh : n / 2 ^ k < 2 * fractions := by
    rw [Nat.div_lt_iff_lt_mul (Nat.two_pow_pos k), show 2 * fractions = 2 ^ 53 from rfl,
      ← Nat.pow_add, show 53 + k = n.log2 + 1 by omega]
    apply Nat.lt_log2_self
  have hrank : rankOfNat n = (k + 1074) * fractions + halveEven n k := by
    rw [rankOfNat, if_neg hn, leading, if_neg hlog, hk, Nat.add_sub_cancel_left,
      show 52 + k + 1022 = k + 1074 by omega]
  rw [hrank]
  apply isNearest_halveEven hlow hhigh

/-- Whether a number is what a natural number is rounded to: the one of the nearest magnitude, or an
infinite one if no finite number has that magnitude. -/
def IsRounded (n : Nat) (x : Number) : Prop :=
  ∃ rank, IsNearest rank n ∧ x = ofRank false rank

theorem isRounded_ofNat (n : Nat) :
  IsRounded n (ofNat n)
  := ⟨rankOfNat n, isNearest_rankOfNat n, rfl⟩

/-! ### Exact integers -/

/-- A magnitude is equal to a natural number exactly if that is its value. -/
theorem wholeMagnitude?_eq_some_iff {rank n : Nat} :
  wholeMagnitude? rank = some n ↔ magnitude rank = n
  := by
  unfold wholeMagnitude? magnitude
  generalize significand rank = m
  cases exponent rank with
  | ofNat k =>
      simp only [Nat.pow_eq, Option.some.injEq, Int.ofNat_eq_natCast, zpow_natCast]
      norm_cast
  | negSucc k =>
      simp only [Nat.pow_eq, zpow_negSucc]
      rw [← div_eq_mul_inv, div_eq_iff (by positivity)]
      have hcast : (m : ℚ) = n * 2 ^ (k + 1) ↔ m = n * 2 ^ (k + 1) := by norm_cast
      rw [hcast]
      constructor
      · intro h
        split at h
        · next hdvd =>
            cases h
            exact (Nat.div_mul_cancel (Nat.dvd_of_mod_eq_zero hdvd)).symm
        · cases h
      · rintro rfl
        rw [Nat.mul_mod_left, if_pos rfl, Nat.mul_div_cancel _ (Nat.two_pow_pos _)]

/-- Whether a number is finite and has the given value. -/
def HasValue : Number → ℚ → Prop
  | .finite negative rank, v => finiteValue negative rank = v
  | _, _ => False

/-- A finite number has an integer as its value exactly if its magnitude is the natural number with
which the integer is signed. -/
theorem finiteValue_eq_intCast_iff {negative : Bool} {rank : Nat} {i : Int} :
  finiteValue negative rank = i ↔ ∃ n : Nat, magnitude rank = n ∧ signedInt negative n = i
  := by
  constructor
  · intro h
    have hnonneg := magnitude_nonneg rank
    cases negative with
    | false =>
        have h : magnitude rank = i := h
        rw [h] at hnonneg
        obtain ⟨n, rfl⟩ := Int.eq_ofNat_of_zero_le (Int.cast_nonneg_iff.mp hnonneg)
        exact ⟨n, h, rfl⟩
    | true =>
        have h : magnitude rank = (-i : Int) := by
          rw [Int.cast_neg, ← h, finiteValue, if_pos rfl, neg_neg]
        rw [h] at hnonneg
        obtain ⟨n, hn⟩ := Int.eq_ofNat_of_zero_le (Int.cast_nonneg_iff.mp hnonneg)
        refine ⟨n, by rw [h, hn, Int.cast_natCast], ?_⟩
        rw [signedInt, if_pos rfl, ← hn, neg_neg]
  · rintro ⟨n, hn, rfl⟩
    cases negative <;> simp [finiteValue, signedInt, hn]

/-- The integer of a number is its value. -/
theorem whole?_eq_some_iff {x : Number} {i : Int} :
  x.whole? = some i ↔ x.HasValue i
  := by
  cases x with
  | finite negative rank =>
      rw [whole?, Option.map_eq_some_iff, HasValue, finiteValue_eq_intCast_iff]
      simp only [wholeMagnitude?_eq_some_iff]
  | infinite | undefined => constructor <;> rintro ⟨⟩

/-- A number without a minus sign that has a natural number as its value is the number nearest to
it. -/
theorem HasValue.eq_ofNat {x : Number} {n : Nat} (h : x.HasValue n) (hsign : x.isNegative = false) :
  x = ofNat n
  := by
  obtain ⟨n', hn', hx⟩ := ofNat_of_whole? hsign (whole?_eq_some_iff.mpr h)
  rw [Int.natCast_inj.mp hn', hx]

/-- A natural number that is the value of some number is the value of the number nearest to it, also
if the sign of a zero is lost. -/
theorem HasValue.ofNat {x : Number} {n : Nat} (h : x.HasValue n) :
  (Number.ofNat n).HasValue n
  := by
  cases x with
  | finite negative rank =>
      obtain ⟨n', hmagnitude, hn'⟩ := finiteValue_eq_intCast_iff.mp h
      have hvalue : (Number.finite false rank).HasValue n := by
        rw [HasValue, finiteValue, hmagnitude]
        cases negative <;> simp [signedInt] at hn' ⊢ <;> omega
      rwa [← hvalue.eq_ofNat rfl]
  | infinite | undefined => cases h

end ExprScript.Number
