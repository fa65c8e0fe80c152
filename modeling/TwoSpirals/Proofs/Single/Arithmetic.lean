import TwoSpirals.Proofs.Single.Rounding
import TwoSpirals.Single.Reader

/-!
# Exact values of natural numbers, quotients and decimals

Each operation of the format works out a mantissa, an exponent and an accuracy and hands them to
`roundWithAccuracy`.  Here they are shown to approximate the exact result, so that the operation
rounds it: for a natural number, for a sum of positive numbers, for a quotient and for a decimal
(`ofScientific_eq_settle`).
-/

namespace TwoSpirals

/-- The exact value of a decimal. -/
def Decimal.toRat (d : Decimal) : ℚ := d.digits * 10 ^ d.exponent

namespace Single

open Float.Model (Format UnpackedFloat totalExponent)
open Float.Model.UnpackedFloat

/-! ## Approximations -/

theorem log2_shiftLeft {n : ℕ} (hn : n ≠ 0) (k : ℕ) : (n <<< k).log2 = n.log2 + k := by
  have hpow : (0 : ℕ) < 2 ^ k := Nat.two_pow_pos k
  have hlow := Nat.log2_self_le hn
  have hhigh : n < 2 ^ (n.log2 + 1) := Nat.lt_log2_self
  rw [Nat.shiftLeft_eq, Nat.log2_eq_iff (Nat.mul_ne_zero hn hpow.ne')]
  constructor
  · rw [pow_add]
    exact Nat.mul_le_mul_right _ hlow
  · rw [add_right_comm, pow_add]
    exact Nat.mul_lt_mul_of_pos_right hhigh hpow

theorem approximates_exact {m : ℕ} {e : ℤ}
    (h : e ≤ Format.binary32.targetExponent (totalExponent m e)) :
    Approximates m e .exact (m * 2 ^ e) := by
  refine ⟨?_, h⟩
  rw [mul_div_cancel_right₀ _ (by positivity)]
  exact describes_exact m

theorem approximates_shiftLeft {n : ℕ} (hn : n ≠ 0) {e : ℤ} {k : ℕ}
    (h : e - k ≤ Format.binary32.targetExponent (totalExponent n e)) :
    Approximates (n <<< k) (e - k) .exact (n * 2 ^ e) := by
  have htotal : totalExponent (n <<< k) (e - k) = totalExponent n e := by
    rw [totalExponent, totalExponent, log2_shiftLeft hn]
    push_cast
    ring
  have hval : ((n <<< k : ℕ) * 2 ^ (e - k) : ℚ) = n * 2 ^ e := by
    rw [Nat.shiftLeft_eq, zpow_sub₀ two_ne_zero, zpow_natCast]
    push_cast
    field_simp
  have happrox := approximates_exact (m := n <<< k) (e := e - k) (htotal.symm ▸ h)
  rwa [hval] at happrox

/-- The quotient has as many digits as can be kept: the numerator is shifted far enough. -/
theorem two_pow_le_shiftLeft_div {m₁ m₂ k : ℕ} (h₁ : 0 < m₁) (h₂ : 0 < m₂)
    (hk : m₂.log2 + 24 ≤ m₁.log2 + k) : 2 ^ 23 ≤ (m₁ <<< k) / m₂ := by
  rw [Nat.le_div_iff_mul_le h₂, Nat.shiftLeft_eq]
  calc 2 ^ 23 * m₂ ≤ 2 ^ 23 * 2 ^ (m₂.log2 + 1) := Nat.mul_le_mul_left _ Nat.lt_log2_self.le
    _ = 2 ^ (m₂.log2 + 24) := by rw [← pow_add]; congr 1; omega
    _ ≤ 2 ^ (m₁.log2 + k) := Nat.pow_le_pow_right two_pos hk
    _ ≤ m₁ * 2 ^ k := by
      rw [pow_add]
      exact Nat.mul_le_mul_right _ (Nat.log2_self_le h₁.ne')

theorem approximates_divCore {m₁ m₂ : ℕ} {e₁ e₂ : ℤ} (h₁ : 0 < m₁) (h₂ : 0 < m₂) :
    Approximates (divCore .binary32 m₁ e₁ m₂ e₂).1 (divCore .binary32 m₁ e₁ m₂ e₂).2.1
      (divCore .binary32 m₁ e₁ m₂ e₂).2.2 (m₁ * 2 ^ e₁ / (m₂ * 2 ^ e₂)) := by
  have hm₂ : (m₂ : ℚ) ≠ 0 := by exact_mod_cast h₂.ne'
  rw [divCore]
  dsimp only
  set t := min (e₁ - e₂)
    (Format.binary32.targetExponent (totalExponent m₁ e₁ - totalExponent m₂ e₂)) with ht
  obtain ⟨k, hk⟩ : ∃ k : ℕ, (k : ℤ) = e₁ - e₂ - t := by
    refine ⟨(e₁ - e₂ - t).toNat, Int.toNat_of_nonneg ?_⟩
    omega
  rw [← hk, Int.toNat_natCast]
  constructor
  · have hval : (m₁ * 2 ^ e₁ / (m₂ * 2 ^ e₂) / 2 ^ t : ℚ) = (m₁ <<< k : ℕ) / m₂ := by
      have hpow : (2 ^ e₁ : ℚ) = 2 ^ k * 2 ^ e₂ * 2 ^ t := by
        rw [← zpow_natCast, hk, ← zpow_add₀ two_ne_zero, ← zpow_add₀ two_ne_zero]
        congr 1
        ring
      rw [hpow, Nat.shiftLeft_eq]
      push_cast
      field_simp
    rw [hval]
    exact describes_div h₂
  · rw [targetExponent_eq_max] at ht ⊢
    by_cases hmin : t ≤ -149
    · exact hmin.trans (le_max_right _ _)
    · -- Above the smallest exponent the quotient has 24 digits.
      have hlog : m₂.log2 + 24 ≤ m₁.log2 + k := by
        simp only [totalExponent] at ht
        omega
      have hq := two_pow_le_shiftLeft_div h₁ h₂ hlog
      have hbits : 23 ≤ ((m₁ <<< k) / m₂).log2 := (Nat.le_log2 (by omega)).2 hq
      rw [totalExponent]
      omega

/-! ## Natural numbers -/

theorem exists_approximates_round {n : ℕ} (hn : 0 < n) (e : ℤ) :
    ∃ m e', UnpackedFloat.round .binary32 .positive n e =
        roundWithAccuracy .binary32 .positive m e' .exact ∧
      Approximates m e' .exact (n * 2 ^ e) := by
  rw [UnpackedFloat.round, decreaseExponent]
  exact ⟨_, _, rfl, approximates_shiftLeft hn.ne' (by omega)⟩

theorem normalize_natCast {n : ℕ} (hn : 0 < n) (e : ℤ) (s : Sign) :
    UnpackedFloat.normalize .binary32 n e s = UnpackedFloat.round .binary32 .positive n e := by
  have hcmp : compare (n : ℤ) 0 = .gt := Int.compare_eq_gt.2 (by exact_mod_cast hn)
  rw [UnpackedFloat.normalize, hcmp]
  dsimp only
  rw [Int.toNat_natCast]

theorem exists_approximates_ofNat {n : ℕ} (hn : 0 < n) :
    ∃ m e, UnpackedFloat.ofNat .binary32 n = roundWithAccuracy .binary32 .positive m e .exact ∧
      Approximates m e .exact n := by
  have h := exists_approximates_round hn 0
  rwa [zpow_zero, mul_one, ← normalize_natCast hn 0 .positive] at h

/-! ## Sums -/

theorem shiftLeft_mul_zpow (m : ℕ) {e t : ℤ} (h : t ≤ e) :
    ((m <<< (e - t).toNat : ℕ) * 2 ^ t : ℚ) = m * 2 ^ e := by
  rw [Nat.shiftLeft_eq, Nat.cast_mul, Nat.cast_pow, Nat.cast_ofNat, ← zpow_natCast,
    Int.toNat_of_nonneg (by omega), mul_assoc, ← zpow_add₀ two_ne_zero, sub_add_cancel]

/-- Both mantissas are brought to the smaller exponent and added there. -/
theorem exists_approximates_add {m₁ m₂ : ℕ} (h₁ : 0 < m₁) (h₂ : 0 < m₂) (e₁ e₂ : ℤ) :
    ∃ m e, UnpackedFloat.add .binary32 (.finite .positive m₁ e₁ h₁) (.finite .positive m₂ e₂ h₂) =
        roundWithAccuracy .binary32 .positive m e .exact ∧
      Approximates m e .exact (m₁ * 2 ^ e₁ + m₂ * 2 ^ e₂) := by
  have hpos : 0 < m₁ <<< (e₁ - min e₁ e₂).toNat + m₂ <<< (e₂ - min e₁ e₂).toNat := by
    rw [Nat.shiftLeft_eq, Nat.shiftLeft_eq]
    positivity
  have hadd : UnpackedFloat.add .binary32 (.finite .positive m₁ e₁ h₁)
      (.finite .positive m₂ e₂ h₂) = UnpackedFloat.normalize .binary32
        (m₁ <<< (e₁ - min e₁ e₂).toNat + m₂ <<< (e₂ - min e₁ e₂).toNat : ℕ) (min e₁ e₂)
        .positive := rfl
  have h := exists_approximates_round hpos (min e₁ e₂)
  rwa [Nat.cast_add, add_mul, shiftLeft_mul_zpow m₁ (min_le_left e₁ e₂),
    shiftLeft_mul_zpow m₂ (min_le_right e₁ e₂), ← normalize_natCast hpos _ .positive, ← hadd] at h

/-! ## Quotients -/

theorem div_eq_settle (s₁ s₂ : Sign) {m₁ m₂ : ℕ} {e₁ e₂ : ℤ} (h₁ : 0 < m₁) (h₂ : 0 < m₂) {t : ℤ}
    {r : ℕ} (ht : IsQuantum (m₁ * 2 ^ e₁ / (m₂ * 2 ^ e₂)) t)
    (hr : RoundsTo (m₁ * 2 ^ e₁ / (m₂ * 2 ^ e₂) / 2 ^ t) r) :
    UnpackedFloat.div .binary32 (.finite s₁ m₁ e₁ h₁) (.finite s₂ m₂ e₂ h₂) =
      settle (s₁ / s₂) r t :=
  (approximates_divCore h₁ h₂).roundWithAccuracy_eq _ ht hr

/-! ## Decimals -/

/-- A decimal that is neither huge nor tiny is not cut off by its exponent. -/
theorem exponent_bounds {d : Decimal} (hlow : 2 ^ (-151 : ℤ) ≤ d.toRat)
    (hhigh : d.toRat ≤ 2 ^ (129 : ℤ)) :
    d.digits ≠ 0 ∧ d.exponent ≤ 256 ∧ -(256 + d.digits.log2) ≤ d.exponent := by
  obtain ⟨m, e⟩ := d
  simp only [Decimal.toRat] at *
  have hm : m ≠ 0 := by
    rintro rfl
    norm_num at hlow
  refine ⟨hm, ?_, ?_⟩
  · by_contra! he
    have hone : (1 : ℚ) ≤ m := by exact_mod_cast Nat.pos_of_ne_zero hm
    have hpow : (10 ^ (256 : ℤ) : ℚ) ≤ m * 10 ^ e := by
      calc (10 ^ (256 : ℤ) : ℚ) ≤ 10 ^ e := zpow_le_zpow_right₀ (by norm_num) he.le
        _ ≤ m * 10 ^ e := le_mul_of_one_le_left (by positivity) hone
    have hlt : (2 ^ (129 : ℤ) : ℚ) < 10 ^ (256 : ℤ) := by norm_num
    exact absurd (hpow.trans hhigh) (not_le.2 hlt)
  · by_contra! he
    obtain ⟨k, rfl⟩ : ∃ k : ℕ, e = -k := ⟨(-e).toNat, by omega⟩
    have hdigits : (m : ℚ) ≤ 2 ^ (m.log2 + 1) := by exact_mod_cast Nat.lt_log2_self.le
    have hk : m.log2 + 1 + 256 ≤ k := by omega
    have hten : (2 ^ (m.log2 + 1) * 2 ^ 256 : ℚ) ≤ 10 ^ k := by
      calc (2 ^ (m.log2 + 1) * 2 ^ 256 : ℚ) = 2 ^ (m.log2 + 1 + 256) := (pow_add _ _ _).symm
        _ ≤ 2 ^ k := pow_le_pow_right₀ one_le_two hk
        _ ≤ 10 ^ k := by gcongr; norm_num
    have hval : (m * 10 ^ (-(k : ℤ)) : ℚ) ≤ 2 ^ (-256 : ℤ) := by
      rw [zpow_neg, zpow_natCast, zpow_neg, ← div_eq_mul_inv, div_le_iff₀ (by positivity)]
      calc (m : ℚ) ≤ 2 ^ (m.log2 + 1) := hdigits
        _ = (2 ^ (256 : ℤ))⁻¹ * (2 ^ (m.log2 + 1) * 2 ^ 256) := by field_simp
        _ ≤ (2 ^ (256 : ℤ))⁻¹ * 10 ^ k := by gcongr
    have hlt : (2 ^ (-256 : ℤ) : ℚ) < 2 ^ (-151 : ℤ) := zpow_lt_zpow_right₀ one_lt_two (by norm_num)
    exact absurd (hlow.trans hval) (not_le.2 hlt)

theorem ofScientific_eq_settle {d : Decimal} (hlow : 2 ^ (-151 : ℤ) ≤ d.toRat)
    (hhigh : d.toRat ≤ 2 ^ (129 : ℤ)) {t : ℤ} {r : ℕ} (ht : IsQuantum d.toRat t)
    (hr : RoundsTo (d.toRat / 2 ^ t) r) :
    UnpackedFloat.ofScientific .binary32 d.digits d.exponent = settle .positive r t := by
  obtain ⟨hm, hle, hge⟩ := exponent_bounds hlow hhigh
  obtain ⟨m, e⟩ := d
  simp only [Decimal.toRat] at *
  have hbits : ((2 : ℤ) ^ Format.binary32.exponentBits) = 256 := rfl
  rw [UnpackedFloat.ofScientific, dif_neg hm, hbits, if_neg (by omega), if_neg (by omega)]
  split_ifs with he
  · obtain ⟨k, rfl⟩ := Int.eq_ofNat_of_zero_le he
    refine Approximates.roundWithAccuracy_eq ?_ _ ht hr
    have hne : m * 10 ^ k ≠ 0 := Nat.mul_ne_zero hm (by positivity)
    have h := approximates_shiftLeft hne (e := 0) (k := 24) ?_
    · have hval : ((m * 10 ^ k : ℕ) * 2 ^ (0 : ℤ) : ℚ) = m * 10 ^ (k : ℤ) := by
        rw [zpow_zero, mul_one, zpow_natCast]
        norm_cast
      have hshift : (m * 10 ^ k) <<< 24 = m <<< 24 * 10 ^ k := by
        rw [Nat.shiftLeft_eq, Nat.shiftLeft_eq, Nat.mul_right_comm]
      rwa [hval, hshift] at h
    · rw [targetExponent_eq_max, totalExponent]
      omega
  · obtain ⟨k, rfl⟩ : ∃ k : ℕ, e = -k := ⟨(-e).toNat, by omega⟩
    have hval : (m * 10 ^ (-(k : ℤ)) : ℚ) = m * 2 ^ (0 : ℤ) / ((10 ^ k : ℕ) * 2 ^ (0 : ℤ)) := by
      rw [zpow_neg, zpow_natCast, zpow_zero, mul_one, mul_one, Nat.cast_pow, Nat.cast_ofNat]
      rfl
    rw [hval] at ht hr
    simp only [neg_neg, Int.toNat_natCast]
    exact div_eq_settle .positive .positive _ _ ht hr

end Single

end TwoSpirals
