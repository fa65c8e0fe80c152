import TwoSpirals.Proofs.SignBit
import TwoSpirals.Proofs.Single.Value

/-!
# Signs and exact values of double-precision numbers

`sign` is what the sign bit says, of a zero and an infinity as well, and `toRat` the exact value of
a number that is neither infinite nor `NaN`.  A value has the sign of its number
(`signed_sign_abs_toRat`), and the order of these numbers is that of their values
(`le_iff_toRat_le`).
-/

namespace TwoSpirals.Double

open Float.Model (UnpackedFloat)
open Float.Model.UnpackedFloat

variable {x y : Float}

/-! ## Kinds of numbers -/

theorem isNaN_eq_false (h : x.isFinite = true ∨ x.isInf = true) : x.isNaN = false := by
  change x.toModel.unpack.isFinite = true ∨ x.toModel.unpack.isInf = true at h
  change x.toModel.unpack.isNaN = false
  cases hu : x.toModel.unpack with
  | notANumber =>
    rw [hu] at h
    exact absurd h (by decide)
  | infinity | zero | finite => rfl

/-! ## Signs -/

/-- The sign that the sign bit stands for. -/
def sign (x : Float) : Sign := if x.toBits.toBitVec.msb then .negative else .positive

theorem unpackSign_eq (b : BitVec 64) : @unpackSign .binary64 b = .ofBool b.msb := by
  refine BitVec.eq_of_getLsbD_eq fun i hi => ?_
  obtain rfl : i = 0 := by omega
  rw [unpackSign, BitVec.getLsbD_cast, BitVec.getLsbD_extractLsb, BitVec.msb_eq_getLsbD_last]
  exact (Bool.true_and _).trans (BitVec.getLsbD_ofBool _ 0).symm

theorem ofBitVec_unpackSign (x : Float) :
    .ofBitVec (@unpackSign .binary64 x.toBits.toBitVec) = sign x := by
  rw [unpackSign_eq, sign]
  cases x.toBits.toBitVec.msb <;> rfl

/-- A number is decoded with its sign. -/
theorem unpack_cases (x : Float) :
    x.toModel.unpack = .notANumber ∨ x.toModel.unpack = .infinity (sign x) ∨
      x.toModel.unpack = .zero (sign x) ∨
      ∃ m e hm, x.toModel.unpack = .finite (sign x) m e hm := by
  have hunpack : unpack .binary64 x.toBits.toBitVec = x.toModel.unpack := rfl
  simp only [unpack, ofBitVec_unpackSign] at hunpack
  generalize x.toModel.unpack = u at hunpack ⊢
  split_ifs at hunpack
  · exact .inr (.inl hunpack.symm)
  · exact .inl hunpack.symm
  · exact .inr (.inr (.inl hunpack.symm))
  · cases hunpack
    exact .inr (.inr (.inr ⟨_, _, _, rfl⟩))
  · exact .inr (.inr (.inr ⟨_, _, _, hunpack.symm⟩))

theorem sign_neg (h : x.isNaN = false) : sign (-x) = -sign x := by
  have hmsb : (x.toBits ^^^ 0x8000000000000000).toBitVec.msb = !x.toBits.toBitVec.msb := by
    rw [UInt64.toBitVec_xor, BitVec.msb_xor]
    exact Bool.xor_true _
  rw [sign, toBits_neg h, sign, hmsb]
  cases x.toBits.toBitVec.msb <;> rfl

/-! ## Values -/

/-- A magnitude with a sign. -/
def signed : Sign → ℚ → ℚ
  | .positive, q => q
  | .negative, q => -q

theorem abs_signed (s : Sign) (q : ℚ) : |signed s q| = |q| := by
  cases s with
  | positive => rfl
  | negative => exact abs_neg q

/-- The exact value of a number. -/
def toRat (x : Float) : ℚ := Single.unpackedToRat x.toModel.unpack

theorem toRat_of_unpack {m : ℕ} {e : ℤ} {hm : 0 < m} {s : Sign}
    (h : x.toModel.unpack = .finite s m e hm) : toRat x = signed s (m * 2 ^ e) := by
  rw [toRat, h]
  cases s <;> rfl

theorem signed_sign_abs_toRat (hx : x.isFinite = true) : signed (sign x) |toRat x| = toRat x := by
  change x.toModel.unpack.isFinite = true at hx
  rcases unpack_cases x with hu | hu | hu | ⟨m, e, hm, hu⟩
  · rw [hu] at hx
    exact absurd hx Bool.false_ne_true
  · rw [hu] at hx
    exact absurd hx Bool.false_ne_true
  · have hzero : toRat x = 0 := by rw [toRat, hu]; rfl
    rw [hzero, abs_zero]
    cases sign x with
    | positive => rfl
    | negative => exact neg_zero
  · have hpos : (0 : ℚ) ≤ m * 2 ^ e := by positivity
    rw [toRat_of_unpack hu, abs_signed, abs_of_nonneg hpos]

theorem le_iff : x ≤ y ↔ x.toModel.unpack.le y.toModel.unpack = true := by
  show x.le y = true ↔ _
  rw [Float.le, decide_eq_true_iff]
  rfl

theorem le_iff_toRat_le (hx : x.isFinite = true) (hy : y.isFinite = true) :
    x ≤ y ↔ toRat x ≤ toRat y :=
  le_iff.trans (Single.unpacked_le_iff (decoded_unpack hx) (decoded_unpack hy))

end TwoSpirals.Double
