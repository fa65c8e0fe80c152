import TwoSpirals.Proofs.Single.Arithmetic
import TwoSpirals.Single.Shortest

/-!
# Shortest decimals read back

Every decimal with its exact value in the rounding interval of a number reads as that number
(`ofScientific_of_contains`), and the shortest decimal of a number lies in its interval
(`contains_shortest`).
-/

namespace TwoSpirals.Single

open Float.Model (Format UnpackedFloat)
open Float.Model.UnpackedFloat

namespace RoundingInterval

/-- A rational number lies in the interval. -/
def Contains (i : RoundingInterval) (v : ℚ) : Prop :=
  if i.closed then i.lower * 2 ^ i.exponent ≤ v ∧ v ≤ i.upper * 2 ^ i.exponent
  else i.lower * 2 ^ i.exponent < v ∧ v < i.upper * 2 ^ i.exponent

/-! ## Membership of decimals -/

theorem zpow_mul_pow_toNat {x : ℚ} (hx : x ≠ 0) (k : ℤ) : x ^ k * x ^ (-k).toNat = x ^ k.toNat := by
  rw [← zpow_natCast, ← zpow_natCast, ← zpow_add₀ hx]
  congr 1
  omega

/-- `unitOver` is the quotient that it stands for, with the negative powers multiplied out. -/
theorem exists_unitOver_eq (i : RoundingInterval) (k : ℤ) :
    ∃ c : ℚ, 0 < c ∧ ((i.unitOver k).1 : ℚ) = 2 ^ i.exponent * c ∧
      ((i.unitOver k).2 : ℚ) = 10 ^ k * c := by
  refine ⟨2 ^ (-i.exponent).toNat * 10 ^ (-k).toNat, by positivity, ?_, ?_⟩
  · rw [← mul_assoc, zpow_mul_pow_toNat two_ne_zero]
    exact_mod_cast rfl
  · rw [mul_left_comm, zpow_mul_pow_toNat (by norm_num)]
    exact_mod_cast rfl

variable (i : RoundingInterval)

theorem mem_iff_contains (k : ℤ) (n : ℕ) : i.mem k n = true ↔ i.Contains (n * 10 ^ k) := by
  obtain ⟨c, hc, ha, hb⟩ := i.exists_unitOver_eq k
  have hle : ∀ p q : ℕ, p * (i.unitOver k).1 ≤ q * (i.unitOver k).2 ↔
      (p * 2 ^ i.exponent : ℚ) ≤ q * 10 ^ k := by
    intro p q
    rw [← mul_le_mul_iff_of_pos_right hc, mul_assoc, mul_assoc, ← ha, ← hb]
    exact_mod_cast Iff.rfl
  have hge : ∀ p q : ℕ, p * (i.unitOver k).2 ≤ q * (i.unitOver k).1 ↔
      (p * 10 ^ k : ℚ) ≤ q * 2 ^ i.exponent := by
    intro p q
    rw [← mul_le_mul_iff_of_pos_right hc, mul_assoc, mul_assoc, ← ha, ← hb]
    exact_mod_cast Iff.rfl
  rw [mem, Contains]
  split_ifs with hclosed
  · rw [decide_eq_true_iff, hle, hge]
  · rw [decide_eq_true_iff, ← not_le, ← not_le, hle, hge, not_le, not_le]

theorem mem_of_nearest?_eq_some {k : ℤ} {n : ℕ} (h : i.nearest? k = some n) : i.mem k n = true := by
  rw [nearest?] at h
  split_ifs at h with h₁ h₂
  · obtain rfl := Option.some.inj h
    exact h₁.1
  · obtain rfl := Option.some.inj h
    exact h₂

/-! ## The search for a decimal -/

/-- A search that ends on a grid with a point in the interval finds a point. -/
theorem contains_search (steps : ℕ) (k : ℤ)
    (h : i.Contains (i.floor (k - steps) * 10 ^ (k - steps))) :
    i.Contains (i.search steps k).toRat := by
  induction steps generalizing k with
  | zero => simpa [search, Decimal.toRat] using h
  | succ steps ih =>
    rw [search]
    split
    next n hn => exact (i.mem_iff_contains k n).1 (i.mem_of_nearest?_eq_some hn)
    next =>
      apply ih
      have hk : k - 1 - (steps : ℤ) = k - (steps + 1 : ℕ) := by
        push_cast
        ring
      rwa [hk]

theorem floor_mul_of_dvd {k : ℤ} (h : (i.unitOver k).2 ∣ i.value * (i.unitOver k).1) :
    (i.floor k * 10 ^ k : ℚ) = i.value * 2 ^ i.exponent := by
  obtain ⟨c, hc, ha, hb⟩ := i.exists_unitOver_eq k
  have hfloor : i.floor k * (i.unitOver k).2 = i.value * (i.unitOver k).1 := Nat.div_mul_cancel h
  have hcast : (i.floor k * (i.unitOver k).2 : ℚ) = i.value * (i.unitOver k).1 := by
    exact_mod_cast hfloor
  rw [ha, hb, ← mul_assoc, ← mul_assoc] at hcast
  exact mul_right_cancel₀ hc.ne' hcast

/-! ## The interval of a number -/

section

variable {m : ℕ} {e : ℤ} {v : ℚ}

theorem contains_ofFinite_value (hm : 0 < m) :
    (ofFinite m e).Contains ((ofFinite m e).value * 2 ^ (ofFinite m e).exponent) := by
  have hlower : ((ofFinite m e).lower : ℚ) < (ofFinite m e).value := by
    have : (ofFinite m e).lower < (ofFinite m e).value := by
      simp only [ofFinite]
      split_ifs <;> omega
    exact_mod_cast this
  have hupper : ((ofFinite m e).value : ℚ) < (ofFinite m e).upper := by
    have : (ofFinite m e).value < (ofFinite m e).upper := by
      simp only [ofFinite]
      omega
    exact_mod_cast this
  rw [Contains]
  split_ifs
  · exact ⟨by gcongr, by gcongr⟩
  · exact ⟨by gcongr, by gcongr⟩

/-- Every number of the format is a whole number of `10 ^ (-151)`. -/
theorem contains_shortest (h : Canonical m e) :
    (ofFinite m e).Contains (Single.shortest m e).toRat := by
  apply contains_search
  have hk : (39 : ℤ) - (190 : ℕ) = -151 := rfl
  rw [hk, floor_mul_of_dvd]
  · exact contains_ofFinite_value h.pos
  · have hle := h.le_exponent
    have hexp : (-(e - 2)).toNat ≤ 151 := by omega
    apply Dvd.dvd.mul_left
    show Nat.pow 2 (-(e - 2)).toNat * Nat.pow 10 0 ∣ Nat.pow 2 (e - 2).toNat * Nat.pow 10 151
    rw [Nat.pow_eq, Nat.pow_eq, Nat.pow_eq, Nat.pow_eq, pow_zero, mul_one]
    apply Dvd.dvd.mul_left
    calc 2 ^ (-(e - 2)).toNat ∣ 2 ^ 151 := pow_dvd_pow 2 hexp
      _ ∣ 10 ^ 151 := pow_dvd_pow_of_dvd (by decide) 151

theorem lower_ofFinite (hm : 0 < m) : (4 * m - 2 : ℚ) ≤ (ofFinite m e).lower := by
  have : 4 * m ≤ (ofFinite m e).lower + 2 := by
    simp only [ofFinite]
    split_ifs <;> omega
  have : (4 * m : ℚ) ≤ (ofFinite m e).lower + 2 := by exact_mod_cast this
  linarith

theorem lower_ofFinite_two_pow (he : -149 < e) :
    ((ofFinite (2 ^ 23) e).lower : ℚ) = 4 * 2 ^ 23 - 1 := by
  have : (ofFinite (2 ^ 23) e).lower = 4 * 2 ^ 23 - 1 := if_pos ⟨rfl, he⟩
  rw [this]
  norm_num

/-- In units of the last place. -/
theorem contains_ofFinite_iff : (ofFinite m e).Contains v ↔
    if m % 2 = 0 then (ofFinite m e).lower / 4 ≤ v / 2 ^ e ∧ v / 2 ^ e ≤ m + 1 / 2
    else (ofFinite m e).lower / 4 < v / 2 ^ e ∧ v / 2 ^ e < m + 1 / 2 := by
  have hpow : (0 : ℚ) < 2 ^ e := by positivity
  have hunit : (2 ^ (ofFinite m e).exponent : ℚ) = 2 ^ e / 4 := by
    show (2 ^ (e - 2) : ℚ) = 2 ^ e / 4
    rw [zpow_sub₀ two_ne_zero]
    norm_num
  have hupper : ((ofFinite m e).upper * (2 ^ e / 4) : ℚ) = (m + 1 / 2) * 2 ^ e := by
    simp only [ofFinite]
    push_cast
    ring
  have hlower : ((ofFinite m e).lower * (2 ^ e / 4) : ℚ) = (ofFinite m e).lower / 4 * 2 ^ e := by
    ring
  have hclosed : (ofFinite m e).closed = decide (m % 2 = 0) := rfl
  simp only [Contains, hclosed, decide_eq_true_iff, hunit, hupper, hlower, le_div_iff₀ hpow,
    div_le_iff₀ hpow, lt_div_iff₀ hpow, div_lt_iff₀ hpow]

theorem roundsTo_of_contains (hm : 0 < m) (h : (ofFinite m e).Contains v) :
    RoundsTo (v / 2 ^ e) m := by
  have hlower : (4 * m - 2 : ℚ) ≤ (ofFinite m e).lower := lower_ofFinite hm
  rw [contains_ofFinite_iff] at h
  split_ifs at h with hmod
  · exact .inr ⟨hmod, by linarith [h.1], h.2⟩
  · exact .inl ⟨by linarith [h.1], h.2⟩

/-- What lies in the interval of a number is rounded to it.  Below a power of two the quantum is
half as large, and the value is rounded up to `2 ^ 24` of those. -/
theorem exists_settle_eq_of_contains (s : Sign) (hc : Canonical m e)
    (h : (ofFinite m e).Contains v) :
    ∃ t n, IsQuantum v t ∧ RoundsTo (v / 2 ^ t) n ∧ settle s n t = .finite s m e hc.pos := by
  have hpow : (0 : ℚ) < 2 ^ e := by positivity
  have hround := roundsTo_of_contains hc.pos h
  by_cases hnormal : 2 ^ (e + 23) ≤ v ∨ e = -149
  · have hlt : v < 2 ^ (e + 24) := by
      have hm : (m + 1 : ℚ) ≤ 2 ^ 24 := by exact_mod_cast hc.lt_two_pow
      rw [zpow_add₀ two_ne_zero, mul_comm, ← div_lt_iff₀ hpow]
      have : (2 : ℚ) ^ (24 : ℤ) = 2 ^ 24 := rfl
      linarith [hround.le_add_half]
    exact ⟨e, m, ⟨hc.le_exponent, hlt, hnormal⟩, hround, settle_of_lt s e hc.pos hc.lt_two_pow⟩
  · obtain ⟨hlt, hne⟩ := not_or.1 hnormal
    have he : -149 < e := lt_of_le_of_ne hc.le_exponent (Ne.symm hne)
    have hx : v / 2 ^ e < 2 ^ 23 := by
      rw [div_lt_iff₀ hpow]
      rw [not_le, zpow_add₀ two_ne_zero, mul_comm] at hlt
      exact_mod_cast hlt
    have hm : m = 2 ^ 23 := by
      refine le_antisymm (hround.le_of_le ?_) (hc.normal.resolve_right hne)
      exact_mod_cast hx.le
    subst hm
    rw [contains_ofFinite_iff, if_pos (by decide), lower_ofFinite_two_pow he] at h
    have hhalf : v / 2 ^ (e - 1) = v / 2 ^ e * 2 := by
      rw [zpow_sub_one₀ two_ne_zero]
      field_simp
    refine ⟨e - 1, 2 ^ 24, ⟨by omega, ?_, .inl ?_⟩, ?_, ?_⟩
    · have : e - 1 + 24 = e + 23 := by ring
      rw [this]
      exact not_le.1 hlt
    · have : e - 1 + 23 = e + 22 := by ring
      rw [this, zpow_add₀ two_ne_zero, mul_comm, ← le_div_iff₀ hpow]
      have : (2 : ℚ) ^ (22 : ℤ) = 2 ^ 22 := rfl
      linarith [h.1]
    · rw [hhalf]
      right
      refine ⟨by decide, ?_, ?_⟩ <;> push_cast <;> linarith [h.1]
    · rw [settle_two_pow]
      simp only [sub_add_cancel]

end

end RoundingInterval

variable {m : ℕ} {e : ℤ} {d : Decimal}

/-! ## Reading a decimal of the interval -/

theorem ofScientific_of_contains (hc : Canonical m e)
    (h : (RoundingInterval.ofFinite m e).Contains d.toRat) :
    UnpackedFloat.ofScientific .binary32 d.digits d.exponent = .finite .positive m e hc.pos := by
  obtain ⟨t, n, ht, hn, hsettle⟩ :=
    RoundingInterval.exists_settle_eq_of_contains .positive hc h
  have hround := RoundingInterval.roundsTo_of_contains hc.pos h
  have hpow : (0 : ℚ) < 2 ^ e := by positivity
  rw [← hsettle]
  refine ofScientific_eq_settle ?_ ?_ ht hn
  · have hm : (1 : ℚ) ≤ m := by exact_mod_cast hc.pos
    have hv : (2 ^ (-1 : ℤ) : ℚ) ≤ d.toRat / 2 ^ e := by
      rw [zpow_neg_one]
      linarith [hround.sub_half_le]
    rw [le_div_iff₀ hpow, ← zpow_add₀ two_ne_zero] at hv
    exact (zpow_le_zpow_right₀ one_le_two (by linarith [hc.le_exponent])).trans hv
  · have hm : (m + 1 : ℚ) ≤ 2 ^ (24 : ℤ) := by exact_mod_cast hc.lt_two_pow
    have hv : d.toRat / 2 ^ e ≤ 2 ^ (24 : ℤ) := by linarith [hround.le_add_half]
    rw [div_le_iff₀ hpow, ← zpow_add₀ two_ne_zero] at hv
    exact hv.trans (zpow_le_zpow_right₀ one_le_two (by linarith [hc.exponent_le]))

/-- A decimal of the interval of a number reads as that number. -/
theorem ofDecimal_of_contains (hc : Canonical m e)
    (h : (RoundingInterval.ofFinite m e).Contains d.toRat) :
    ofDecimal d = .ofModel (.pack (.finite .positive m e hc.pos)) := by
  rw [ofDecimal, Float32.Model.ofScientific, ofScientific_of_contains hc h]

theorem digits_shortest_pos (hc : Canonical m e) : 0 < (shortest m e).digits := by
  have hround := RoundingInterval.roundsTo_of_contains hc.pos
    (RoundingInterval.contains_shortest hc)
  rw [Nat.pos_iff_ne_zero]
  intro hzero
  have hval : (shortest m e).toRat / 2 ^ e = (0 : ℕ) := by
    rw [Decimal.toRat, hzero]
    simp
  exact absurd (hround.le_of_le hval.le) (not_le.2 hc.pos)

end TwoSpirals.Single
