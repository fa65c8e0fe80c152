import TwoSpirals.Proofs.SignBit
import TwoSpirals.Proofs.Single.Value

/-!
# Sums of single-precision numbers

What is added to `NaN` stays `NaN`.  Numbers that are not negative have the exact sum, rounded, for
their sum (`Nearest.add`), and from `2 ^ 24` on a number of at most `1` is rounded away
(`Nearest.toRat_le_two_pow`).  So however many numbers from `[0, 1]` are added one by one, their sum
never gets past `2 ^ 24`, or past the power of two it began below (`Within.foldl_add`), and their
mean is a real number whatever their count is (`Within.isFinite_div_ofNat`).
-/

namespace TwoSpirals.Single

open Float.Model (Format UnpackedFloat)
open Float.Model.UnpackedFloat

variable {x y : Float32}

theorem add_eq (x y : Float32) :
    x + y = .ofModel (.pack (UnpackedFloat.add .binary32 x.toModel.unpack y.toModel.unpack)) := rfl

theorem div_eq (x y : Float32) :
    x / y = .ofModel (.pack (UnpackedFloat.div .binary32 x.toModel.unpack y.toModel.unpack)) := rfl

/-! ## `NaN` -/

theorem isNaN_ofModel_pack (u : UnpackedFloat) : (Float32.ofModel (.pack u)).isNaN = u.isNaN :=
  @isNaN_unpack_pack .binary32 (by decide) u

theorem eq_nan_of_isNaN (h : x.isNaN = true) : x = nan := eq_ofModel_pack (isNaN_iff.1 h)

theorem isNaN_add_left (h : x.isNaN = true) (y : Float32) : (x + y).isNaN = true := by
  have hx : x.toModel.unpack = .notANumber := isNaN_iff.1 h
  rw [add_eq, isNaN_ofModel_pack, hx]
  rfl

theorem isNaN_add_right (x : Float32) (h : y.isNaN = true) : (x + y).isNaN = true := by
  have hy : y.toModel.unpack = .notANumber := isNaN_iff.1 h
  rw [add_eq, isNaN_ofModel_pack, hy]
  cases x.toModel.unpack <;> rfl

theorem isNaN_div_left (h : x.isNaN = true) (y : Float32) : (x / y).isNaN = true := by
  have hx : x.toModel.unpack = .notANumber := isNaN_iff.1 h
  rw [div_eq, isNaN_ofModel_pack, hx]
  rfl

theorem isNaN_foldl_add {xs : List Float32} {s : Float32}
    (h : s.isNaN = true ∨ ∃ x ∈ xs, x.isNaN = true) : (xs.foldl (· + ·) s).isNaN = true := by
  induction xs generalizing s with
  | nil => simpa using h
  | cons x xs ih =>
    apply ih
    rcases h with hs | ⟨y, hy, hnan⟩
    · exact .inl (isNaN_add_left hs x)
    · rcases List.mem_cons.1 hy with rfl | hy
      · exact .inl (isNaN_add_right s hnan)
      · exact .inr ⟨y, hy, hnan⟩

/-! ## Sums of numbers that are not negative -/

theorem nearest_of_unpack {m : ℕ} {e : ℤ} {hm : 0 < m}
    (hx : x.toModel.unpack = .finite .positive m e hm) : Nearest (m * 2 ^ e) x := by
  have h : Canonical m e := canonical_of_unpack hx
  have hpow : (0 : ℚ) < 2 ^ e := by positivity
  refine ⟨e, m, ⟨h.le_exponent, ?_, ?_⟩, ?_, ?_⟩
  · rw [add_comm, zpow_add₀ two_ne_zero]
    gcongr
    exact_mod_cast h.lt_two_pow
  · refine h.normal.imp_left fun hm => ?_
    rw [add_comm, zpow_add₀ two_ne_zero]
    gcongr
    exact_mod_cast hm
  · rw [mul_div_cancel_right₀ _ hpow.ne']
    exact .inl ⟨by linarith, by linarith⟩
  · rw [hx, settle_of_lt _ _ hm h.lt_two_pow]

theorem nearest_toRat (h : 0 < toRat x) : Nearest (toRat x) x := by
  rw [toRat] at h ⊢
  cases hx : x.toModel.unpack with
  | finite s m e hm =>
    rw [hx] at h
    cases s with
    | positive => exact nearest_of_unpack hx
    | negative =>
      have : (0 : ℚ) < m * 2 ^ e := by positivity
      exact absurd h (by simpa using this.le)
  | notANumber | infinity | zero =>
    rw [hx] at h
    exact absurd rfl h.ne

theorem nearest_ofNat_or (n : ℕ) :
    Nearest n (ofNat n) ∨ (ofNat n).toModel.unpack = .infinity .positive := by
  rcases Nat.eq_zero_or_pos n with rfl | hpos
  · rw [Nat.cast_zero]
    exact .inl nearest_zero
  · obtain ⟨m, e, heq, happrox⟩ := exists_approximates_ofNat hpos
    have hofNat : ofNat n = .ofModel (.pack (UnpackedFloat.ofNat .binary32 n)) := rfl
    obtain ⟨t, k, ht, hk, hround⟩ := happrox.exists_roundWithAccuracy_eq .positive
    rw [hofNat, heq, hround]
    exact (isReal_settle_or .positive ht hk).imp (fun h => ⟨t, k, ht, hk, h.unpack_pack⟩) And.right

namespace Nearest

variable {v w : ℚ}

/-- What is rounded is its own rounding. -/
theorem self (h : Nearest v x) : Nearest (toRat x) x := by
  rcases h.unpack_eq with hx | ⟨m, e, hm, hx⟩
  · obtain rfl : x = 0 := eq_ofModel_pack hx
    exact nearest_zero
  · rw [toRat, hx]
    exact nearest_of_unpack hx

theorem toRat_nonneg (h : Nearest v x) : 0 ≤ toRat x := by
  rcases h.unpack_eq with hx | ⟨m, e, hm, hx⟩
  · rw [toRat, hx]
    exact le_rfl
  · rw [toRat, hx, unpackedToRat]
    positivity

/-- A sum is the exact sum, rounded. -/
theorem add (h : Nearest v x) (h' : Nearest w y) (hlt : toRat x + toRat y < 2 ^ (127 : ℤ)) :
    Nearest (toRat x + toRat y) (x + y) := by
  have hzero : unpackedToRat (.zero .positive) = 0 := rfl
  rcases h.unpack_eq with hx | ⟨m₁, e₁, h₁, hx⟩
  · have hadd : x + y = y := by
      rw [add_eq, hx]
      rcases h'.unpack_eq with hy | ⟨m₂, e₂, h₂, hy⟩ <;> rw [hy] <;>
        exact (eq_ofModel_pack hy).symm
    rw [hadd, toRat, hx, hzero, zero_add]
    exact h'.self
  · rcases h'.unpack_eq with hy | ⟨m₂, e₂, h₂, hy⟩
    · have hadd : x + y = x := by
        rw [add_eq, hx, hy]
        exact (eq_ofModel_pack hx).symm
      rw [hadd, toRat.eq_1 y, hy, hzero, add_zero]
      exact h.self
    · obtain ⟨m, e, hround, happrox⟩ := exists_approximates_add h₁ h₂ e₁ e₂
      rw [toRat, toRat, hx, hy] at hlt ⊢
      rw [add_eq, hx, hy, hround]
      exact happrox.nearest hlt

/-- From `2 ^ 24` on the numbers are two apart or more.  One above a power of two is half way at
most, and the power of two is the even neighbour. -/
theorem toRat_le_two_pow {k : ℕ} (h : Nearest v x) (hk : 24 ≤ k) (hv : v ≤ 2 ^ k + 1) :
    toRat x ≤ 2 ^ k := by
  rcases le_or_gt v (2 ^ k) with hle | hgt
  · exact h.toRat_le (representable_zpow (e := k) (by omega)) (by exact_mod_cast hle)
  obtain ⟨t, n, ht, hn, hx⟩ := h.exists_toRat_eq
  have hone : (1 : ℚ) < 2 ^ k := one_lt_pow₀ one_lt_two (by omega)
  have hquantum : IsQuantum v (k - 23) := by
    refine ⟨by omega, ?_, .inl ?_⟩
    · rw [show (k : ℤ) - 23 + 24 = k + 1 by ring, zpow_add_one₀ two_ne_zero, zpow_natCast]
      linarith
    · rw [sub_add_cancel, zpow_natCast]
      exact hgt.le
  obtain rfl := ht.unique hquantum
  have hpow : (2 ^ k : ℚ) = (2 ^ 23 : ℕ) * 2 ^ ((k : ℤ) - 23) := by
    rw [← zpow_natCast, ← sub_add_cancel (k : ℤ) 23, zpow_add₀ two_ne_zero, mul_comm]
    norm_num
  have hstep : (2 : ℚ) ≤ 2 ^ ((k : ℤ) - 23) := by
    calc (2 : ℚ) = 2 ^ (1 : ℤ) := (zpow_one _).symm
      _ ≤ 2 ^ ((k : ℤ) - 23) := zpow_le_zpow_right₀ one_le_two (by omega)
  have heven : RoundsTo ((2 ^ 23 : ℕ) + 1 / 2) (2 ^ 23) :=
    .inr ⟨by norm_num, by norm_num, le_rfl⟩
  have hle : n ≤ 2 ^ 23 := by
    refine hn.mono heven ?_
    rw [div_le_iff₀ (by positivity), add_mul, ← hpow]
    linarith
  rw [hx, hpow]
  gcongr

end Nearest

/-- A number from zero, which is the positive one, up to `2 ^ k`. -/
structure Within (k : ℕ) (x : Float32) : Prop where
  nearest : Nearest (toRat x) x
  le : toRat x ≤ 2 ^ k

theorem within_zero (k : ℕ) : Within k 0 := by
  refine ⟨nearest_zero, ?_⟩
  have hzero : toRat 0 = 0 := rfl
  rw [hzero]
  positivity

/-- The positive numbers up to `1`. -/
theorem within_of_pos (hpos : 0 < x) (hle : x ≤ 1) : Within 0 x := by
  have hfinite := isFinite_of_le_of_le (by decide) (by decide) (le_of_lt hpos) hle
  have hone : toRat 1 = 1 := nearest_one.toRat_eq (representable_zpow (e := 0) (by norm_num))
  refine ⟨nearest_toRat ((lt_iff_toRat_lt (by decide) hfinite).1 hpos), ?_⟩
  rw [pow_zero, ← hone]
  exact (le_iff_toRat_le hfinite (by decide)).1 hle

namespace Within

variable {k : ℕ}

theorem mono {j : ℕ} (hx : Within k x) (h : k ≤ j) : Within j x :=
  ⟨hx.nearest, hx.le.trans (pow_le_pow_right₀ one_le_two h)⟩

/-- Two numbers up to a power of two have a sum up to the next one. -/
theorem add (hx : Within k x) (hy : Within k y) (hk : k < 126) : Within (k + 1) (x + y) := by
  have hle : toRat x + toRat y ≤ 2 ^ (k + 1) := by
    rw [pow_succ]
    linarith [hx.le, hy.le]
  have hlt : (2 ^ (k + 1) : ℚ) < 2 ^ (127 : ℤ) := by
    rw [← zpow_natCast]
    exact zpow_lt_zpow_right₀ one_lt_two (by omega)
  have hsum := hx.nearest.add hy.nearest (hle.trans_lt hlt)
  refine ⟨hsum.self, ?_⟩
  have := hsum.toRat_le (representable_zpow (e := (k + 1 : ℕ)) (by omega)) (by exact_mod_cast hle)
  exact_mod_cast this

/-- A sum that has reached `2 ^ 24` does not grow by a number of at most `1`. -/
theorem add_one (hx : Within k x) (hy : Within 0 y) (hk : 24 ≤ k) (hk' : k < 127) :
    Within k (x + y) := by
  have hone : toRat y ≤ 1 := hy.le.trans_eq (pow_zero 2)
  have hle : toRat x + toRat y ≤ 2 ^ k + 1 := by linarith [hx.le]
  have hlt : (2 ^ k + 1 : ℚ) < 2 ^ (127 : ℤ) := by
    have : (2 ^ k : ℚ) ≤ 2 ^ 126 := pow_le_pow_right₀ one_le_two (by omega)
    linarith [show (2 ^ 126 + 1 : ℚ) < 2 ^ (127 : ℤ) by norm_num]
  have hsum := hx.nearest.add hy.nearest (hle.trans_lt hlt)
  exact ⟨hsum.self, hsum.toRat_le_two_pow hk hle⟩

theorem foldl_add {xs : List Float32} (h : ∀ y ∈ xs, Within 0 y) (hx : Within k x) (hk : 24 ≤ k)
    (hk' : k < 127) : Within k (xs.foldl (· + ·) x) := by
  induction xs generalizing x with
  | nil => exact hx
  | cons y xs ih =>
    have hy := h y List.mem_cons_self
    exact ih (fun z hz => h z (List.mem_cons_of_mem y hz)) (hx.add_one hy hk hk')

/-- The mean of numbers: a count that is too large for the format counts as infinity, and the mean
is zero then. -/
theorem isFinite_div_ofNat (hx : Within k x) (hk : k < 127) {n : ℕ} (hn : 0 < n) :
    (x / ofNat n).isFinite = true := by
  rcases nearest_ofNat_or n with h | h
  · have hone : 1 ≤ toRat (ofNat n) :=
      h.le_toRat (representable_zpow (e := 0) (by norm_num)) (by exact_mod_cast hn)
    refine (hx.nearest.div h (by linarith) ?_).isFinite
    calc toRat x / toRat (ofNat n) ≤ toRat x := div_le_self hx.nearest.toRat_nonneg hone
      _ ≤ 2 ^ k := hx.le
      _ < 2 ^ (127 : ℤ) := by
        rw [← zpow_natCast]
        exact zpow_lt_zpow_right₀ one_lt_two (by omega)
  · have hzero : UnpackedFloat.div .binary32 x.toModel.unpack (.infinity .positive) =
        .zero .positive := by
      rcases hx.nearest.unpack_eq with hx | ⟨m, e, hm, hx⟩ <;> rw [hx] <;> rfl
    rw [div_eq, h, hzero]
    rfl

end Within

end TwoSpirals.Single
