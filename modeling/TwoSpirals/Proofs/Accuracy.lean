import TwoSpirals.Count
import TwoSpirals.Proofs.Single.Value
import TwoSpirals.Score

/-!
# The accuracy as a fraction

The accuracy is the quotient of two counts, each of which is rounded before it is divided and the
quotient once more (`nearest_accuracy`).  Rounding keeps the order, so the accuracy grows with the
number of samples that agree.  Up to `2 ^ 24` samples the counts are exact and different quotients
so far apart that no two of them round to one number (`accuracy_lt_of_lt`).
-/

namespace TwoSpirals.Confusion

open Single (Nearest toRat toRat_ofNat nearest_zero nearest_one representable_zpow)

variable {c c' : Confusion}

theorem add_le_total (c : Confusion) : c.tp + c.tn ≤ c.total := by
  rw [total]
  omega

theorem accuracy_of_total_eq_zero (h : c.total = 0) : c.accuracy = 0 := by rw [accuracy, if_pos h]

section

variable (hpos : 0 < c.total) (hlt : c.total < 2 ^ 64)

include hpos hlt

theorem nearest_accuracy :
    Nearest (toRat (Single.ofNat (c.tp + c.tn)) / toRat (Single.ofNat c.total)) c.accuracy := by
  rw [accuracy, if_neg hpos.ne']
  exact Single.nearest_ofNat_div_ofNat c.add_le_total hpos hlt

theorem toRat_ofNat_total_pos : 0 < toRat (Single.ofNat c.total) :=
  zero_lt_one.trans_le (Single.one_le_toRat_ofNat hpos hlt)

theorem accuracy_eq_one (h : c.fp + c.fn = 0) : c.accuracy = 1 := by
  have hall : c.tp + c.tn = c.total := by
    rw [total]
    omega
  have hnear := nearest_accuracy hpos hlt
  rw [hall, div_self (toRat_ofNat_total_pos hpos hlt).ne'] at hnear
  exact hnear.unique nearest_one

/-- The quotient is at least `2 ^ (-64)`, which is far from rounding to zero. -/
theorem accuracy_pos (h : 0 < c.tp + c.tn) : 0 < c.accuracy := by
  have hnear := nearest_accuracy hpos hlt
  have hden := toRat_ofNat_total_pos hpos hlt
  have hnum : 1 ≤ toRat (Single.ofNat (c.tp + c.tn)) :=
    Single.one_le_toRat_ofNat h (c.add_le_total.trans_lt hlt)
  have hquot : (2 ^ (-64 : ℤ) : ℚ) ≤
      toRat (Single.ofNat (c.tp + c.tn)) / toRat (Single.ofNat c.total) := by
    rw [zpow_neg, ← one_div]
    exact div_le_div₀ (zero_le_one.trans hnum) hnum hden (Single.toRat_ofNat_le hlt)
  have hle := hnear.le_toRat (representable_zpow (by norm_num)) hquot
  have hzero : toRat 0 = 0 := rfl
  rw [Single.lt_iff_toRat_lt rfl hnear.isFinite, hzero]
  exact lt_of_lt_of_le (by positivity) hle

end

section

variable (h : c.total < 2 ^ 64)

include h

theorem accuracy_eq_zero (hzero : c.tp + c.tn = 0) : c.accuracy = 0 := by
  rcases Nat.eq_zero_or_pos c.total with htotal | hpos
  · exact accuracy_of_total_eq_zero htotal
  · have hnear := nearest_accuracy hpos h
    rw [hzero, toRat_ofNat (by norm_num), Nat.cast_zero, zero_div] at hnear
    exact hnear.unique nearest_zero

/-- For one number of samples the accuracy grows with those that agree. -/
theorem accuracy_le_of_le (htotal : c'.total = c.total) (hle : c.tp + c.tn ≤ c'.tp + c'.tn) :
    c.accuracy ≤ c'.accuracy := by
  rcases Nat.eq_zero_or_pos c.total with hzero | hpos
  · rw [accuracy_of_total_eq_zero hzero, accuracy_of_total_eq_zero (htotal.trans hzero)]
    decide
  · have hnear' := nearest_accuracy (htotal ▸ hpos) (htotal ▸ h)
    rw [htotal] at hnear'
    refine (nearest_accuracy hpos h).le hnear' ?_
    have hden := toRat_ofNat_total_pos hpos h
    have hnum := Single.toRat_ofNat_mono hle ((htotal ▸ c'.add_le_total).trans_lt h)
    gcongr

theorem accuracy_nonneg : 0 ≤ c.accuracy := by
  have hle := @accuracy_le_of_le ⟨0, 0, c.total, 0, 0⟩ c (by simpa [total] using h)
    (by simp [total]) (by simp)
  rwa [accuracy_eq_zero (by simpa [total] using h) rfl] at hle

theorem accuracy_le_one : c.accuracy ≤ 1 := by
  rcases Nat.eq_zero_or_pos c.total with hzero | hpos
  · rw [accuracy_of_total_eq_zero hzero]
    decide
  · refine (nearest_accuracy hpos h).le nearest_one ?_
    rw [div_le_one (toRat_ofNat_total_pos hpos h)]
    exact Single.toRat_ofNat_mono c.add_le_total h

end

/-! ## Few samples -/

section

variable (hle : c.total ≤ 2 ^ 24)

include hle

theorem nearest_accuracy_of_le (hpos : 0 < c.total) :
    Nearest ((c.tp + c.tn : ℕ) / c.total) c.accuracy := by
  have hnear := nearest_accuracy hpos (hle.trans_lt (by norm_num))
  rwa [toRat_ofNat hle, toRat_ofNat (c.add_le_total.trans hle)] at hnear

/-- Quotients of fewer than `2 ^ 24` samples differ by more than `2 ^ (-24)`, and rounding moves each
by half of that at most.  Those of `2 ^ 24` samples are not rounded at all. -/
theorem accuracy_lt_of_lt (htotal : c'.total = c.total) (hlt : c.tp + c.tn < c'.tp + c'.tn) :
    c.accuracy < c'.accuracy := by
  have hmax : c'.tp + c'.tn ≤ c.total := htotal ▸ c'.add_le_total
  have hpos : 0 < c.total := by omega
  have hnear := nearest_accuracy_of_le hle hpos
  have hnear' := nearest_accuracy_of_le (htotal ▸ hle) (htotal ▸ hpos)
  rw [htotal] at hnear'
  rw [Single.lt_iff_toRat_lt hnear.isFinite hnear'.isFinite]
  generalize c.tp + c.tn = a at *
  generalize c'.tp + c'.tn = b at *
  generalize c.total = n at *
  have hn : (0 : ℚ) < n := by exact_mod_cast hpos
  have hb : (b : ℚ) ≤ n := by exact_mod_cast hmax
  have hab : (a : ℚ) + 1 ≤ b := by exact_mod_cast hlt
  rcases hle.eq_or_lt with rfl | hfew
  · have hgrid : ∀ k : ℕ, k ≤ 2 ^ 24 → Single.Representable (k / (2 ^ 24 : ℕ)) := fun k hk =>
      ⟨k, -24, hk, by norm_num, by rw [zpow_neg, div_eq_mul_inv]; norm_cast⟩
    rw [hnear.toRat_eq (hgrid a (by omega)), hnear'.toRat_eq (hgrid b hmax)]
    gcongr
  · have hone : (b / n : ℚ) ≤ 2 ^ (0 : ℤ) := (div_le_one hn).2 hb
    have hgap : (a / n : ℚ) + 2 ^ (-24 : ℤ) < b / n := by
      have hinv : (2 ^ (-24 : ℤ) : ℚ) < 1 / n := by
        rw [zpow_neg, ← one_div]
        exact one_div_lt_one_div_of_lt hn (by exact_mod_cast hfew)
      calc (a / n + 2 ^ (-24 : ℤ) : ℚ) < a / n + 1 / n := by gcongr
        _ = (a + 1) / n := (add_div _ _ _).symm
        _ ≤ b / n := by gcongr
    have herr := abs_le.1 (hnear.abs_sub_le (s := 0) (by norm_num) (by linarith))
    have herr' := abs_le.1 (hnear'.abs_sub_le (s := 0) (by norm_num) hone)
    have hhalf : (2 ^ (-24 : ℤ) : ℚ) = 2 * 2 ^ (0 - 25 : ℤ) := by norm_num
    linarith [herr.2, herr'.1]

theorem add_eq_of_beq (htotal : c'.total = c.total) (heq : (c.accuracy == c'.accuracy) = true) :
    c.tp + c.tn = c'.tp + c'.tn := by
  have hnot := Single.not_lt_of_beq heq
  rcases lt_trichotomy (c.tp + c.tn) (c'.tp + c'.tn) with hlt | heq | hgt
  · exact absurd (accuracy_lt_of_lt hle htotal hlt) hnot.1
  · exact heq
  · exact absurd (accuracy_lt_of_lt (htotal ▸ hle) htotal.symm hgt) hnot.2

theorem add_eq_zero_of_beq_one (heq : (c.accuracy == 1) = true) : c.fp + c.fn = 0 := by
  rcases Nat.eq_zero_or_pos c.total with hzero | hpos
  · rw [total] at hzero
    omega
  · -- The same number of samples with nothing wrong has the accuracy 1 as well.
    have hall := @add_eq_of_beq c ⟨c.total, 0, 0, 0, 0⟩ hle rfl
    rw [@accuracy_eq_one ⟨c.total, 0, 0, 0, 0⟩ hpos (hle.trans_lt (by norm_num)) rfl] at hall
    have := hall heq
    simp only [total] at this
    omega

end

/-- The accuracy is a number between 0 and 1.  It is 0 where no sample agrees and only there, and 1
where there are samples and all agree.  With the number of samples fixed it grows with those that
agree, and up to `2 ^ 24` samples strictly, so that it tells how many they are.  A conclusion about
equal numbers is about the same bits, and a hypothesis only about numbers that compare as equal. -/
theorem accuracy_faithful (c : Confusion) (h : c.total < Count.limit) :
    c.accuracy.isNaN = false ∧ 0 ≤ c.accuracy ∧ c.accuracy ≤ 1 ∧
    (c.tp + c.tn = 0 → c.accuracy = 0) ∧ ((c.accuracy == 0) = true → c.tp + c.tn = 0) ∧
    (0 < c.total → c.fp + c.fn = 0 → c.accuracy = 1) ∧
    (∀ c' : Confusion, c'.total = c.total → c.tp + c.tn ≤ c'.tp + c'.tn →
      c.accuracy ≤ c'.accuracy) ∧
    (c.total ≤ 2 ^ 24 →
      (∀ c' : Confusion, c'.total = c.total → c.tp + c.tn < c'.tp + c'.tn →
        c.accuracy < c'.accuracy) ∧
      ((c.accuracy == 1) = true → c.fp + c.fn = 0) ∧
      ∀ c' : Confusion, c'.total = c.total →
        (c.tp + c.tn = c'.tp + c'.tn → c.accuracy = c'.accuracy) ∧
        ((c.accuracy == c'.accuracy) = true → c.tp + c.tn = c'.tp + c'.tn)) := by
  have hle := accuracy_le_one h
  refine ⟨(Single.isNaN_eq_false_of_le hle).1, accuracy_nonneg h, hle, accuracy_eq_zero h, ?_,
    fun hpos => accuracy_eq_one hpos h, fun _ => accuracy_le_of_le h, fun hfew =>
    ⟨fun _ => accuracy_lt_of_lt hfew, add_eq_zero_of_beq_one hfew, fun c' htotal =>
      ⟨fun heq => ?_, add_eq_of_beq hfew htotal⟩⟩⟩
  · intro heq
    by_contra hne
    have hpos : 0 < c.tp + c.tn := Nat.pos_of_ne_zero hne
    exact (Single.not_lt_of_beq heq).2
      (accuracy_pos (hpos.trans_le c.add_le_total) h hpos)
  · rw [accuracy, accuracy, heq, htotal]

theorem accuracy_faithful_two_pow :
    (⟨2 ^ 24 - 2, 1, 1, 0, 0⟩ : Confusion).accuracy < 1 ∧
    (⟨0, 2 ^ 24, 0, 0, 0⟩ : Confusion).accuracy = 1 ∧
    (⟨2 ^ 24 - 1, 0, 0, 1, 5⟩ : Confusion).accuracy =
      (⟨2 ^ 24 - 2, 1, 1, 0, 0⟩ : Confusion).accuracy ∧
    0 ≤ (⟨2 ^ 24 - 2, 1, 1, 0, 0⟩ : Confusion).accuracy ∧
    (⟨0, 0, 2 ^ 63, 2 ^ 62, 0⟩ : Confusion).accuracy = 0 := by
  obtain ⟨-, hnonneg, -, -, -, -, -, hfew⟩ :=
    accuracy_faithful ⟨2 ^ 24 - 2, 1, 1, 0, 0⟩ (by decide)
  obtain ⟨-, -, -, -, -, hone, -⟩ := accuracy_faithful ⟨0, 2 ^ 24, 0, 0, 0⟩ (by decide)
  obtain ⟨-, -, -, hzero, -⟩ := accuracy_faithful ⟨0, 0, 2 ^ 63, 2 ^ 62, 0⟩ (by decide)
  obtain ⟨hlt, -, heq⟩ := hfew (by decide)
  have hone := hone (by decide) rfl
  refine ⟨?_, hone, ((heq ⟨2 ^ 24 - 1, 0, 0, 1, 5⟩ (by decide)).1 (by decide)).symm, hnonneg,
    hzero rfl⟩
  rw [← hone]
  exact hlt ⟨0, 2 ^ 24, 0, 0, 0⟩ (by decide) (by decide)

/-- One sample more, and a wrong prediction is lost in rounding. -/
example : (⟨2 ^ 24, 0, 1, 0, 0⟩ : Confusion).accuracy = 1 := by decide +kernel

end TwoSpirals.Confusion
