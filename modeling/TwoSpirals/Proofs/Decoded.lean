import Mathlib

/-!
# Decoded numbers

What a bit pattern of any format stands for has all the digits that its exponent leaves it:
`Normalized` says so, and `decoded_unpack` that a real number is zero or of that kind.  So of two
positive numbers the one with the greater exponent is greater, and with equal exponents the one with
the greater mantissa (`Normalized.value_lt_iff`).
-/

namespace TwoSpirals

open Float.Model (Format UnpackedFloat)
open Float.Model.UnpackedFloat

/-- The digits of a number fill the mantissa of the format, or the exponent is the smallest one. -/
structure Normalized (spec : Format) (m : ℕ) (e : ℤ) : Prop where
  pos : 0 < m
  lt_two_pow : m < 2 ^ (spec.mantissaBitsWithoutImplicit + 1)
  le_exponent : spec.minExponent ≤ e
  normal : 2 ^ spec.mantissaBitsWithoutImplicit ≤ m ∨ e = spec.minExponent

/-- A decoded number is real. -/
inductive Decoded (spec : Format) : UnpackedFloat → Prop
  | zero (s : Sign) : Decoded spec (.zero s)
  | finite (s : Sign) {m : ℕ} {e : ℤ} (h : Normalized spec m e) : Decoded spec (.finite s m e h.pos)

variable {spec : Format}

/-! ## Decoding -/

theorem minExponent_eq :
    spec.minExponent = 1 - (spec.exponentBias + spec.mantissaBitsWithoutImplicit : ℤ) := by
  have hbias : (spec.exponentBias : ℤ) = 2 ^ (spec.exponentBits - 1) - 1 := by
    rw [Format.exponentBias, Nat.cast_sub Nat.one_le_two_pow]
    push_cast
    rfl
  rw [Format.minExponent, Format.mantissaBits, hbias]
  push_cast
  ring

theorem normalized_of_unpack {b : BitVec spec.numBits} {s : Sign} {m : ℕ} {e : ℤ} {hm : 0 < m}
    (h : unpack spec b = .finite s m e hm) : Normalized spec m e := by
  have hmant := (unpackMantissa b).isLt
  have hbits : (1#1 ++ unpackMantissa b).toNat =
      2 ^ spec.mantissaBitsWithoutImplicit + (unpackMantissa b).toNat := by
    rw [BitVec.toNat_append, ← Nat.shiftLeft_add_eq_or_of_lt hmant, Nat.shiftLeft_eq]
    simp
  have hmin := @minExponent_eq spec
  simp only [unpack] at h
  split_ifs at h with hones hinf hzero hm₀
  · obtain ⟨-, rfl, rfl⟩ := h
    have hexp : (unpackExponent b).toNat = 0 := by rw [hzero]; rfl
    exact ⟨hm, by omega, by omega, .inr (by omega)⟩
  · obtain ⟨-, rfl, rfl⟩ := h
    have hexp : (unpackExponent b).toNat ≠ 0 := fun h₀ => hzero (BitVec.eq_of_toNat_eq h₀)
    exact ⟨hm, by omega, by omega, .inl (by omega)⟩

theorem decoded_unpack {b : BitVec spec.numBits} (h : (unpack spec b).isFinite = true) :
    Decoded spec (unpack spec b) := by
  cases hu : unpack spec b with
  | zero s => exact .zero s
  | finite s m e hm => exact .finite s (normalized_of_unpack hu)
  | infinity | notANumber =>
    rw [hu] at h
    exact absurd h Bool.false_ne_true

/-! ## Values -/

namespace Normalized

variable {m m' : ℕ} {e e' : ℤ}

theorem value_pos (h : Normalized spec m e) : (0 : ℚ) < m * 2 ^ e := by
  have : (0 : ℚ) < m := by exact_mod_cast h.pos
  positivity

theorem value_lt (h : Normalized spec m e) (h' : Normalized spec m' e')
    (hlt : e < e' ∨ e = e' ∧ m < m') : (m * 2 ^ e : ℚ) < m' * 2 ^ e' := by
  rcases hlt with hlt | ⟨rfl, hlt⟩
  · -- The exponent of `m'` is not the smallest one, so `m'` has all its digits.
    have hnormal : 2 ^ spec.mantissaBitsWithoutImplicit ≤ m' :=
      h'.normal.resolve_right (by have := h.le_exponent; omega)
    have hdouble : m < 2 * m' := by
      have := h.lt_two_pow
      rw [pow_succ] at this
      omega
    calc (m * 2 ^ e : ℚ) < (2 * m' : ℕ) * 2 ^ e := by gcongr
      _ = m' * 2 ^ (e + 1) := by
          rw [zpow_add_one₀ two_ne_zero]
          push_cast
          ring
      _ ≤ m' * 2 ^ e' := by
          gcongr
          · exact one_le_two
          · exact hlt
  · gcongr

/-- Of two positive numbers the one with the greater exponent is greater, and with equal exponents
the one with the greater mantissa. -/
theorem value_lt_iff (h : Normalized spec m e) (h' : Normalized spec m' e') :
    (m * 2 ^ e : ℚ) < m' * 2 ^ e' ↔ e < e' ∨ e = e' ∧ m < m' := by
  refine ⟨fun hlt => ?_, h.value_lt h'⟩
  by_contra hnot
  obtain hgt | ⟨rfl, rfl⟩ : (e' < e ∨ e' = e ∧ m' < m) ∨ e = e' ∧ m = m' := by omega
  · exact (h'.value_lt h hgt).asymm hlt
  · exact hlt.false

end Normalized

end TwoSpirals
