import TwoSpirals.Proofs.Single.Pack

/-!
# Rounding to single precision

`roundWithAccuracy` is given a mantissa, an exponent and where the exact value lies above them.
`Approximates` relates the three to that value, a rational number, and `roundWithAccuracy_eq` says
what comes out: the exponent that leaves 24 binary digits, or the smallest one, and the mantissa
that `RoundsTo` chooses there, a half going to the even neighbour.
-/

namespace TwoSpirals.Single

open Float.Model (Format totalExponent)
open Float.Model (UnpackedFloat)
open Float.Model.UnpackedFloat

/-! ## Nearest natural numbers -/

/-- The natural number nearest to `x` is `n`.  Half way between two it is the even one. -/
def RoundsTo (x : ℚ) (n : ℕ) : Prop :=
  (n - 1 / 2 < x ∧ x < n + 1 / 2) ∨ n % 2 = 0 ∧ n - 1 / 2 ≤ x ∧ x ≤ n + 1 / 2

namespace RoundsTo

variable {x y : ℚ} {n k : ℕ}

theorem le_add_half (h : RoundsTo x n) : x ≤ n + 1 / 2 := by
  rcases h with h | h
  · exact h.2.le
  · exact h.2.2

theorem sub_half_le (h : RoundsTo x n) : n - 1 / 2 ≤ x := by
  rcases h with h | h
  · exact h.1.le
  · exact h.2.1

theorem le_of_lt_add_half (h : RoundsTo x n) (hx : x < k + 1 / 2) : n ≤ k := by
  have hlt : (n : ℚ) < k + 1 := by linarith [h.sub_half_le]
  exact Nat.lt_succ_iff.1 (by exact_mod_cast hlt)

theorem le_of_le (h : RoundsTo x n) (hx : x ≤ k) : n ≤ k := h.le_of_lt_add_half (by linarith)

theorem ge_of_ge (h : RoundsTo x n) (hx : k ≤ x) : k ≤ n := by
  have hlt : (2 * k : ℚ) < 2 * n + 2 := by linarith [h.le_add_half]
  have : 2 * k < 2 * n + 2 := by exact_mod_cast hlt
  omega

/-- Rounding keeps the order.  Only two neighbours can share a point, which is then half way between
them. -/
theorem mono (h : RoundsTo x n) (h' : RoundsTo y k) (hxy : x ≤ y) : n ≤ k := by
  by_contra hlt
  have hsucc : (k : ℚ) + 1 ≤ n := by exact_mod_cast Nat.lt_of_not_le hlt
  have hhalf : (n : ℚ) - 1 / 2 = x := by linarith [h.sub_half_le, h'.le_add_half]
  have hhalf' : (k : ℚ) + 1 / 2 = y := by linarith [h.sub_half_le, h'.le_add_half]
  have heven : n % 2 = 0 := (h.resolve_left fun h => by linarith [h.1]).1
  have heven' : k % 2 = 0 := (h'.resolve_left fun h => by linarith [h.2]).1
  have : n = k + 1 := by
    have : (n : ℚ) = k + 1 := by linarith
    exact_mod_cast this
  omega

theorem unique (h : RoundsTo x n) (h' : RoundsTo x k) : n = k :=
  Nat.le_antisymm (h.mono h' le_rfl) (h'.mono h le_rfl)

end RoundsTo

/-! ## Mantissas with two more bits -/

/-- What a mantissa and its two further bits tell of the exact value. -/
def Describes (em : ExtendedMantissa) (x : ℚ) : Prop :=
  match em.roundBit, em.stickyBit with
  | false, false => x = em.mantissa
  | false, true => em.mantissa < x ∧ x < em.mantissa + 1 / 2
  | true, false => x = em.mantissa + 1 / 2
  | true, true => em.mantissa + 1 / 2 < x ∧ x < em.mantissa + 1

theorem describes_exact (m : ℕ) : Describes (.ofMantissaAndAccuracy m .exact) m := rfl

theorem describes_div {a b : ℕ} (hb : 0 < b) :
    Describes (.ofMantissaAndAccuracy (a / b) (accuracyOfFraction (a % b) b)) (a / b : ℚ) := by
  have hb' : (0 : ℚ) < b := by exact_mod_cast hb
  have hr : (a % b : ℕ) < (b : ℚ) := by exact_mod_cast Nat.mod_lt a hb
  have hdiv : (a / b : ℚ) = (a / b : ℕ) + (a % b : ℕ) / b := by
    field_simp
    exact_mod_cast (Nat.div_add_mod a b).symm
  rw [hdiv, accuracyOfFraction]
  split_ifs with hzero
  · rw [hzero, Nat.cast_zero, zero_div, add_zero]
    exact describes_exact _
  · have hpos : (0 : ℚ) < (a % b : ℕ) / b := by
      have : (0 : ℚ) < (a % b : ℕ) := by exact_mod_cast Nat.pos_of_ne_zero hzero
      positivity
    have hone : ((a % b : ℕ) / b : ℚ) < 1 := (div_lt_one hb').2 hr
    rcases hcmp : compare (2 * (a % b)) b with _ | _ | _
    · have hlt : (2 * (a % b : ℕ) : ℚ) < b := by exact_mod_cast Nat.compare_eq_lt.1 hcmp
      have : ((a % b : ℕ) / b : ℚ) < 1 / 2 := by
        rw [div_lt_div_iff₀ hb' two_pos]
        linarith
      exact ⟨lt_add_of_pos_right _ hpos, add_lt_add_right this _⟩
    · have heq : (2 * (a % b : ℕ) : ℚ) = b := by exact_mod_cast Nat.compare_eq_eq.1 hcmp
      have : ((a % b : ℕ) / b : ℚ) = 1 / 2 := by
        rw [div_eq_div_iff hb'.ne' two_ne_zero]
        linarith
      exact congrArg ((a / b : ℕ) + · : ℚ → ℚ) this
    · have hgt : (b : ℚ) < 2 * (a % b : ℕ) := by exact_mod_cast Nat.compare_eq_gt.1 hcmp
      have : (1 / 2 : ℚ) < (a % b : ℕ) / b := by
        rw [div_lt_div_iff₀ two_pos hb']
        linarith
      exact ⟨add_lt_add_right this _, add_lt_add_right hone _⟩

namespace Describes

variable {em : ExtendedMantissa} {x : ℚ}

theorem mantissa_le (h : Describes em x) : em.mantissa ≤ x := by
  obtain ⟨m, r, s⟩ := em
  cases r <;> cases s <;> simp only [Describes] at h ⊢ <;> linarith

theorem lt_mantissa_add_one (h : Describes em x) : x < em.mantissa + 1 := by
  obtain ⟨m, r, s⟩ := em
  cases r <;> cases s <;> simp only [Describes] at h ⊢ <;> linarith

theorem shiftRightOne (h : Describes em x) : Describes em.shiftRightOne (x / 2) := by
  obtain ⟨m, r, s⟩ := em
  have hm : (m : ℚ) = 2 * (m / 2 : ℕ) + (m % 2 : ℕ) := by exact_mod_cast (Nat.div_add_mod m 2).symm
  rcases Nat.mod_two_eq_zero_or_one m with hmod | hmod <;> cases r <;> cases s <;>
    simp only [Describes, ExtendedMantissa.shiftRightOne, hmod, hm, bne_self_eq_false,
      Nat.reduceBNe, Bool.or_false, Bool.or_true, Nat.cast_zero, Nat.cast_one, add_zero] at h ⊢ <;>
    first | linarith | (constructor <;> linarith)

theorem shiftRight (h : Describes em x) (n : ℕ) : Describes (em >>> n) (x / 2 ^ n) := by
  change Describes (n.repeat ExtendedMantissa.shiftRightOne em) _
  induction n with
  | zero => rwa [pow_zero, div_one]
  | succ n ih =>
    rw [pow_succ, ← div_div]
    exact ih.shiftRightOne

/-- The mantissa is rounded as its exact value is. -/
theorem roundsTo (h : Describes em x) : RoundsTo x em.roundedMantissa := by
  obtain ⟨m, r, s⟩ := em
  cases r <;> cases s
  · change x = m at h
    show RoundsTo x m
    exact .inl ⟨by linarith, by linarith⟩
  · change (m : ℚ) < x ∧ x < m + 1 / 2 at h
    show RoundsTo x m
    exact .inl ⟨by linarith, by linarith⟩
  · change x = m + 1 / 2 at h
    show RoundsTo x (m + m % 2)
    right
    rcases Nat.mod_two_eq_zero_or_one m with hmod | hmod
    · rw [hmod]
      exact ⟨hmod, by push_cast; linarith, by push_cast; linarith⟩
    · rw [hmod]
      exact ⟨by omega, by push_cast; linarith, by push_cast; linarith⟩
  · change (m : ℚ) + 1 / 2 < x ∧ x < m + 1 at h
    show RoundsTo x (m + 1)
    exact .inl ⟨by push_cast; linarith, by push_cast; linarith⟩

end Describes

/-! ## Exponents -/

/-- The numbers of the format around `v` are `2 ^ t` apart. -/
structure IsQuantum (v : ℚ) (t : ℤ) : Prop where
  le_exponent : -149 ≤ t
  lt_two_pow : v < 2 ^ (t + 24)
  normal : 2 ^ (t + 23) ≤ v ∨ t = -149

namespace IsQuantum

variable {v w : ℚ} {t u : ℤ}

/-- Greater values are no closer together. -/
theorem mono (h : IsQuantum v t) (h' : IsQuantum w u) (hvw : v ≤ w) : t ≤ u := by
  rcases h.normal with hle | rfl
  · have := (zpow_lt_zpow_iff_right₀ one_lt_two).1 ((hle.trans hvw).trans_lt h'.lt_two_pow)
    omega
  · exact h'.le_exponent

theorem unique (h : IsQuantum v t) (h' : IsQuantum v u) : t = u :=
  le_antisymm (h.mono h' le_rfl) (h'.mono h le_rfl)

/-- In units of the quantum `v` has at most 24 binary digits. -/
theorem div_lt (h : IsQuantum v t) : v / 2 ^ t < (2 ^ 24 : ℕ) := by
  rw [div_lt_iff₀ (by positivity)]
  calc v < 2 ^ (t + 24) := h.lt_two_pow
    _ = (2 ^ 24 : ℕ) * 2 ^ t := by
      rw [zpow_add₀ two_ne_zero, mul_comm]
      norm_cast

theorem le_div (h : IsQuantum v t) (ht : t ≠ -149) : (2 ^ 23 : ℕ) ≤ v / 2 ^ t := by
  rw [le_div_iff₀ (by positivity)]
  calc ((2 ^ 23 : ℕ) * 2 ^ t : ℚ) = 2 ^ (t + 23) := by
        rw [zpow_add₀ two_ne_zero, mul_comm]
        norm_cast
    _ ≤ v := h.normal.resolve_right ht

end IsQuantum

theorem targetExponent_eq_max (t : ℤ) :
    Format.binary32.targetExponent t = max (t - 24) (-149) := rfl

/-- A mantissa, its exponent and its accuracy stand for the exact value `v`, and the mantissa has
all the digits that a single-precision number can keep. -/
structure Approximates (m : ℕ) (e : ℤ) (acc : Accuracy) (v : ℚ) : Prop where
  describes : Describes (.ofMantissaAndAccuracy m acc) (v / 2 ^ e)
  le_targetExponent : e ≤ Format.binary32.targetExponent (totalExponent m e)

theorem mantissa_ofMantissaAndAccuracy (m : ℕ) (acc : Accuracy) :
    (ExtendedMantissa.ofMantissaAndAccuracy m acc).mantissa = m := by
  rcases acc with _ | _ | _ | _ <;> rfl

namespace Approximates

variable {m : ℕ} {e : ℤ} {acc : Accuracy} {v : ℚ}

theorem lt_two_pow (h : Approximates m e acc v) : v < 2 ^ totalExponent m e := by
  have hv := h.describes.lt_mantissa_add_one
  rw [mantissa_ofMantissaAndAccuracy] at hv
  have hm : (m + 1 : ℚ) ≤ 2 ^ (m.log2 + 1) := by exact_mod_cast Nat.lt_log2_self
  have he : (0 : ℚ) < 2 ^ e := by positivity
  rw [totalExponent, zpow_add₀ two_ne_zero]
  calc v < (m + 1) * 2 ^ e := (div_lt_iff₀ he).1 hv
    _ ≤ 2 ^ (m.log2 + 1 : ℤ) * 2 ^ e := by
      gcongr
      exact_mod_cast hm

theorem two_pow_le (h : Approximates m e acc v) (hm : m ≠ 0) : 2 ^ (totalExponent m e - 1) ≤ v := by
  have hv := h.describes.mantissa_le
  rw [mantissa_ofMantissaAndAccuracy] at hv
  have he : (0 : ℚ) < 2 ^ e := by positivity
  have hlog : (2 ^ m.log2 : ℚ) ≤ m := by exact_mod_cast Nat.log2_self_le hm
  have hexp : totalExponent m e - 1 = m.log2 + e := by
    rw [totalExponent]
    ring
  rw [hexp, zpow_add₀ two_ne_zero]
  calc (2 ^ (m.log2 : ℤ) * 2 ^ e : ℚ) ≤ m * 2 ^ e := by
        gcongr
        exact_mod_cast hlog
    _ ≤ v := (le_div_iff₀ he).1 hv

theorem isQuantum (h : Approximates m e acc v) :
    IsQuantum v (Format.binary32.targetExponent (totalExponent m e)) := by
  have he := h.le_targetExponent
  rw [targetExponent_eq_max] at he ⊢
  refine ⟨le_max_right _ _, ?_, ?_⟩
  · refine h.lt_two_pow.trans_le (zpow_le_zpow_right₀ one_le_two ?_)
    omega
  · by_cases hm : m = 0
    · -- No digits: the exponent is one of those where no number but zero is left.
      right
      rw [hm] at he ⊢
      simp only [totalExponent, Nat.log2_zero] at he ⊢
      omega
    · rcases le_total (totalExponent m e - 24) (-149) with hle | hle
      · exact .inr (max_eq_right hle)
      · rw [max_eq_left hle]
        left
        refine le_of_eq_of_le (congrArg _ ?_) (h.two_pow_le hm)
        ring

end Approximates

/-! ## Rounding -/

/-- The number with a mantissa of at most `2 ^ 24`.  That one has a binary digit too many and moves
to the next exponent. -/
def settle (s : Sign) (n : ℕ) (t : ℤ) : UnpackedFloat :=
  if h : n = 0 then .zero s
  else if n = 2 ^ 24 then .finite s (2 ^ 23) (t + 1) (by decide)
  else .finite s n t (Nat.pos_of_ne_zero h)

theorem settle_two_pow (s : Sign) (t : ℤ) :
    settle s (2 ^ 24) t = .finite s (2 ^ 23) (t + 1) (by decide) := rfl

theorem settle_of_lt (s : Sign) {n : ℕ} (t : ℤ) (hpos : 0 < n) (hlt : n < 2 ^ 24) :
    settle s n t = .finite s n t hpos := by
  rw [settle, dif_neg hpos.ne', if_neg hlt.ne]

/-- A value becomes a number of the format, or it is too large and becomes infinity. -/
theorem isReal_settle_or (s : Sign) {v : ℚ} {n : ℕ} {t : ℤ} (ht : IsQuantum v t)
    (hn : RoundsTo (v / 2 ^ t) n) :
    IsReal (settle s n t) ∨
      104 ≤ t ∧ (Float32.Model.pack (settle s n t)).unpack = .infinity s := by
  have hle := ht.le_exponent
  have hnormal : 2 ^ 23 ≤ n ∨ t = -149 := by
    by_cases h : t = -149
    · exact .inr h
    · exact .inl (hn.ge_of_ge (ht.le_div h))
  rcases (hn.le_of_le ht.div_lt.le).lt_or_eq with hlt | rfl
  · rcases Nat.eq_zero_or_pos n with rfl | hpos
    · exact .inl (.zero s)
    · rw [settle_of_lt s t hpos hlt]
      by_cases hmax : t ≤ 104
      · exact .inl (.finite s ⟨hpos, hlt, hle, hmax, hnormal⟩)
      · exact .inr ⟨by omega, unpack_pack_of_lt_exponent s hpos (by omega)⟩
  · rw [settle_two_pow]
    by_cases hmax : t + 1 ≤ 104
    · exact .inl (.finite s ⟨by decide, by decide, by omega, hmax, .inl (le_refl _)⟩)
    · exact .inr ⟨by omega, unpack_pack_of_lt_exponent s _ (by omega)⟩

theorem isReal_settle (s : Sign) {v : ℚ} {n : ℕ} {t : ℤ} (ht : IsQuantum v t)
    (hn : RoundsTo (v / 2 ^ t) n) (hv : v < 2 ^ (127 : ℤ)) : IsReal (settle s n t) := by
  refine (isReal_settle_or s ht hn).resolve_right fun ⟨hmin, _⟩ => ?_
  have hle := ht.normal.resolve_right (by omega)
  have := (zpow_lt_zpow_iff_right₀ one_lt_two).1 (hle.trans_lt hv)
  omega

theorem shiftToTargetExponent_of_le {m : ℕ} {e : ℤ} {acc : Accuracy}
    (h : e ≤ Format.binary32.targetExponent (totalExponent m e)) :
    shiftToTargetExponent .binary32 m e acc =
      (ExtendedMantissa.ofMantissaAndAccuracy m acc >>>
          (Format.binary32.targetExponent (totalExponent m e) - e).toNat,
        Format.binary32.targetExponent (totalExponent m e)) := by
  rw [shiftToTargetExponent, shiftToExponent]
  congr 1
  omega

theorem shiftToTargetExponent_of_lt {n : ℕ} {t : ℤ} (hn : n < 2 ^ 24) (ht : -149 ≤ t) :
    shiftToTargetExponent .binary32 n t .exact = (⟨n, false, false⟩, t) := by
  have hlog : n.log2 ≤ 23 := by
    by_cases hzero : n = 0
    · simp [hzero]
    · have := (Nat.log2_lt hzero).2 hn
      omega
  have hshift : (Format.binary32.targetExponent (totalExponent n t) - t).toNat = 0 := by
    rw [targetExponent_eq_max, totalExponent]
    omega
  rw [shiftToTargetExponent, shiftToExponent, hshift]
  simp only [Nat.cast_zero, add_zero]
  rfl

theorem shiftToTargetExponent_two_pow {t : ℤ} (ht : -149 ≤ t) :
    shiftToTargetExponent .binary32 (2 ^ 24) t .exact = (⟨2 ^ 23, false, false⟩, t + 1) := by
  have hshift : (Format.binary32.targetExponent (totalExponent (2 ^ 24) t) - t).toNat = 1 := by
    rw [targetExponent_eq_max, totalExponent, Nat.log2_two_pow]
    omega
  rw [shiftToTargetExponent, shiftToExponent, hshift]
  rfl

namespace Approximates

variable {m : ℕ} {e : ℤ} {acc : Accuracy} {v : ℚ}

theorem roundsTo (h : Approximates m e acc v) :
    RoundsTo (v / 2 ^ Format.binary32.targetExponent (totalExponent m e))
      (ExtendedMantissa.ofMantissaAndAccuracy m acc >>>
        (Format.binary32.targetExponent (totalExponent m e) - e).toNat).roundedMantissa := by
  have hle := h.le_targetExponent
  have hem := h.describes.shiftRight
    (Format.binary32.targetExponent (totalExponent m e) - e).toNat
  rw [div_div, ← zpow_natCast, ← zpow_add₀ two_ne_zero, Int.toNat_of_nonneg (by omega),
    add_sub_cancel] at hem
  exact hem.roundsTo

theorem roundWithAccuracy_eq (h : Approximates m e acc v) (s : Sign) {t : ℤ} {n : ℕ}
    (ht : IsQuantum v t) (hn : RoundsTo (v / 2 ^ t) n) :
    roundWithAccuracy .binary32 s m e acc = settle s n t := by
  have hround := h.roundsTo
  obtain rfl := h.isQuantum.unique ht
  obtain rfl := hround.unique hn
  have hmax := hn.le_of_le ht.div_lt.le
  rw [roundWithAccuracy, shiftToTargetExponent_of_le h.le_targetExponent]
  dsimp only
  rcases hmax.lt_or_eq with hlt | heq
  · simp only [shiftToTargetExponent_of_lt hlt ht.le_exponent, settle, hlt.ne, if_false]
  · simp only [heq, shiftToTargetExponent_two_pow ht.le_exponent, settle_two_pow]
    rfl

theorem exists_roundWithAccuracy_eq (h : Approximates m e acc v) (s : Sign) :
    ∃ t n, IsQuantum v t ∧ RoundsTo (v / 2 ^ t) n ∧
      roundWithAccuracy .binary32 s m e acc = settle s n t :=
  ⟨_, _, h.isQuantum, h.roundsTo, h.roundWithAccuracy_eq s h.isQuantum h.roundsTo⟩

end Approximates

end TwoSpirals.Single
