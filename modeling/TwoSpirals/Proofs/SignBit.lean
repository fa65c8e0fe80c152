import TwoSpirals.Double.Narrow
import TwoSpirals.Proofs.Single.Pack

/-!
# Changing the sign

A change of sign is a change of one bit: `pack_neg` and `unpack_xor_signBit` say so of every format.
So `-x` has the bits of `x` but for the sign bit (`Double.toBits_neg`, `Single.toBits_neg`), and the
sign goes through a rounding untouched, because a rounding looks at the magnitude alone
(`Double.toSingle_neg`).  Only `NaN` has no sign that could be changed.
-/

namespace TwoSpirals

open Float.Model (Format UnpackedFloat)
open Float.Model.UnpackedFloat

/-- The bit pattern whose only bit that is set is the sign. -/
def signBit (spec : Format) : BitVec spec.numBits := packComponents spec .negative 0 0

/-! ## Bit patterns -/

section

variable {spec : Format}

theorem packComponents_neg (s : Sign) (e : BitVec spec.exponentBits)
    (m : BitVec spec.mantissaBitsWithoutImplicit) :
    packComponents spec (-s) e m = packComponents spec s e m ^^^ signBit spec := by
  have hs : (-s).toBitVec = s.toBitVec ^^^ Sign.toBitVec .negative := by cases s <;> rfl
  rw [signBit, packComponents, packComponents, packComponents, hs, BitVec.xor_append,
    BitVec.xor_append]
  simp

theorem pack_neg {u : UnpackedFloat} (h : u.isNaN = false) :
    pack spec u.neg = pack spec u ^^^ signBit spec := by
  cases u with
  | notANumber => exact absurd h (by decide)
  | infinity s => exact packComponents_neg s _ _
  | zero s => exact packComponents_neg s _ _
  | finite s m e hm =>
    -- The sign does not decide whether the number is too large, normal or subnormal.
    simp only [neg, pack]
    split_ifs
    · exact packComponents_neg s _ _
    · exact packComponents_neg s _ _
    · exact packComponents_neg s _ _

theorem unpack_packComponents_neg (s : Sign) (e : BitVec spec.exponentBits)
    (m : BitVec spec.mantissaBitsWithoutImplicit) :
    unpack spec (packComponents spec (-s) e m) = (unpack spec (packComponents spec s e m)).neg := by
  simp only [unpack, unpackMantissa_packComponents, unpackExponent_packComponents,
    unpackSign_packComponents, Sign.ofBitVec_toBitVec]
  split_ifs <;> rfl

theorem unpack_xor_signBit (b : BitVec spec.numBits) :
    unpack spec (b ^^^ signBit spec) = (unpack spec b).neg := by
  rw [← packComponents_unpackSign_unpackExponent_unpackMantissa b, ← packComponents_neg,
    unpack_packComponents_neg]

theorem isNaN_neg (u : UnpackedFloat) : u.neg.isNaN = u.isNaN := by cases u <;> rfl

theorem signBit_ne_zero : signBit spec ≠ 0 := by
  intro h
  have hsign : Sign.negative.toBitVec = unpackSign (packComponents spec .positive 0 0) := by
    have hzero : packComponents spec .positive 0 0 = 0 := by simp [packComponents, Sign.toBitVec]
    rw [hzero, ← h, signBit, unpackSign_packComponents]
  rw [unpackSign_packComponents] at hsign
  exact absurd hsign (by decide)

variable (hspec : 2 ≤ spec.exponentBits)
include hspec

theorem unpack_pack_neg {b : BitVec spec.numBits} (hb : spec.Valid b) :
    unpack spec (pack spec (unpack spec b).neg) = (unpack spec b).neg := by
  cases h : (unpack spec b).isNaN with
  | true =>
    rw [isNaN_iff.1 h]
    exact unpack_packedNaN
  | false => rw [pack_neg h, pack_unpack_of_valid hb hspec, unpack_xor_signBit]

/-- There is no second `NaN` with another sign, so what is no `NaN` is not packed as one. -/
theorem isNaN_unpack_pack (u : UnpackedFloat) : (unpack spec (pack spec u)).isNaN = u.isNaN := by
  cases h : u.isNaN with
  | true =>
    rw [isNaN_iff.1 h, pack, unpack_packedNaN]
    rfl
  | false =>
    rw [Bool.eq_false_iff]
    intro hnan
    have hneg : (unpack spec (pack spec u.neg)).isNaN = true := by
      rw [pack_neg h, unpack_xor_signBit, isNaN_neg, hnan]
    rw [isNaN_unpack_iff_of_valid valid_pack hspec] at hnan hneg
    rw [pack_neg h, hnan] at hneg
    refine signBit_ne_zero ((BitVec.xor_right_inj (packedNaN spec)).1 (hneg.trans ?_))
    rw [BitVec.ofNat_eq_ofNat, BitVec.xor_zero]

theorem pack_neg_unpack_pack (u : UnpackedFloat) :
    pack spec (unpack spec (pack spec u)).neg = pack spec u.neg := by
  cases h : u.isNaN with
  | true => rw [isNaN_iff.1 h, pack, unpack_packedNaN]
  | false => rw [← unpack_xor_signBit, ← pack_neg h, pack_unpack_of_valid valid_pack hspec]

end

/-! ## Single precision -/

namespace Single

theorem toBits_eq_ofBitVec (x : Float32) :
    x.toBits = .ofBitVec (pack .binary32 x.toModel.unpack) :=
  congrArg Float32.Model.toBits (pack_unpack_model x.toModel).symm

theorem toBits_neg {x : Float32} (h : x.isNaN = false) :
    (-x).toBits = x.toBits ^^^ 0x80000000 := by
  have hneg : (-x).toBits = .ofBitVec (pack .binary32 x.toModel.unpack.neg) := rfl
  rw [hneg, pack_neg h, toBits_eq_ofBitVec x]
  rfl

theorem isNaN_neg (x : Float32) : (-x).isNaN = x.isNaN := by
  have hneg : (-x).isNaN = (unpack .binary32 (pack .binary32 x.toModel.unpack.neg)).isNaN := rfl
  rw [hneg, isNaN_unpack_pack (by decide), TwoSpirals.isNaN_neg]
  rfl

/-- A number changes its sign before it is packed or behind that. -/
theorem neg_ofModel_pack (u : UnpackedFloat) :
    -(Float32.ofModel (.pack u)) = .ofModel (.pack u.neg) := by
  have h : Float32.Model.pack (Float32.Model.pack u).unpack.neg = .pack u.neg := by
    unfold Float32.Model.pack Float32.Model.unpack
    simp only [@pack_neg_unpack_pack .binary32 (by decide)]
  exact congrArg Float32.ofModel h

end Single

/-! ## Double precision -/

namespace Double

theorem unpack_neg (x : Float) : (-x).toModel.unpack = x.toModel.unpack.neg :=
  unpack_pack_neg (by decide) x.toModel.valid

theorem toBits_neg {x : Float} (h : x.isNaN = false) :
    (-x).toBits = x.toBits ^^^ 0x8000000000000000 := by
  have hneg : (-x).toBits = .ofBitVec (pack .binary64 x.toModel.unpack.neg) := rfl
  have hself : pack .binary64 x.toModel.unpack = x.toBits.toBitVec :=
    pack_unpack_of_valid x.toModel.valid
  rw [hneg, pack_neg h, hself]
  rfl

theorem isNaN_neg (x : Float) : (-x).isNaN = x.isNaN := by
  show (-x).toModel.unpack.isNaN = x.toModel.unpack.isNaN
  rw [unpack_neg, TwoSpirals.isNaN_neg]

theorem round_neg (s : Sign) (m : ℕ) (e : ℤ) :
    UnpackedFloat.round .binary32 (-s) m e = (UnpackedFloat.round .binary32 s m e).neg := by
  simp only [UnpackedFloat.round, roundWithAccuracy]
  split_ifs <;> rfl

theorem toSingle_neg (x : Float) : toSingle (-x) = -toSingle x := by
  rw [toSingle, unpack_neg, toSingle]
  cases x.toModel.unpack with
  | finite s m e hm =>
    simp only [neg]
    rw [round_neg, Single.neg_ofModel_pack]
  | notANumber | infinity | zero => exact (Single.neg_ofModel_pack _).symm

theorem isNaN_round (s : Sign) (m : ℕ) (e : ℤ) :
    (UnpackedFloat.round .binary32 s m e).isNaN = false := by
  simp only [UnpackedFloat.round, roundWithAccuracy]
  split_ifs <;> rfl

theorem isNaN_toSingle (x : Float) : (toSingle x).isNaN = x.isNaN := by
  have hpack (u : UnpackedFloat) : (Float32.ofModel (.pack u)).isNaN = u.isNaN :=
    @isNaN_unpack_pack .binary32 (by decide) u
  show _ = x.toModel.unpack.isNaN
  rw [toSingle]
  cases x.toModel.unpack with
  | finite s m e hm => exact (hpack _).trans (isNaN_round s m e)
  | notANumber | infinity | zero => exact hpack _

end Double

end TwoSpirals
