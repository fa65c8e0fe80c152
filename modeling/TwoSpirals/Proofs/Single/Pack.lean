import Mathlib
import TwoSpirals.Single.Basic

/-!
# Numbers and their bit patterns

A real number other than zero is stored as `± m × 2 ^ e` with `m` and `e` in one of the ways that
`Canonical` describes.  What a bit pattern stands for is in that form (`canonical_of_unpack`), and a
number in it is unpacked as it was packed (`unpack_pack`).
-/

namespace TwoSpirals.Single

open Float.Model (Format UnpackedFloat)
open Float.Model.UnpackedFloat

/-! ## Canonical numbers -/

/-- The number `m × 2 ^ e` is stored as it is: `m` has 24 binary digits, or fewer where `e` is the
smallest exponent. -/
structure Canonical (m : Nat) (e : Int) : Prop where
  pos : 0 < m
  lt_two_pow : m < 2 ^ 24
  le_exponent : -149 ≤ e
  exponent_le : e ≤ 104
  normal : 2 ^ 23 ≤ m ∨ e = -149

theorem toNat_append_one (m : BitVec 23) : (1#1 ++ m).toNat = 2 ^ 23 + m.toNat := by
  rw [BitVec.toNat_append, ← Nat.shiftLeft_add_eq_or_of_lt m.isLt]
  rfl

theorem unpack_packComponents (s : Sign) (e : BitVec 8) (m : BitVec 23) :
    unpack .binary32 (packComponents .binary32 s e m) =
      if e = -1#8 then if m = 0#23 then .infinity s else .notANumber
      else if e = 0#8 then
        if h : m = 0#23 then .zero s
        else .finite s m.toNat (-149) (BitVec.toNat_pos_of_ne_zero h)
      else .finite s (2 ^ 23 + m.toNat) (e.toNat - 150) (by omega) := by
  unfold unpack
  simp only [unpackMantissa_packComponents, unpackExponent_packComponents,
    unpackSign_packComponents, Sign.ofBitVec_toBitVec, toNat_append_one]
  have hbias : ((Format.binary32.exponentBias : Nat) : Int) +
      (Format.binary32.mantissaBitsWithoutImplicit : Nat) = 150 := rfl
  rw [hbias]
  split_ifs with h₁ h₂ h₃ h₄
  · rfl
  · rfl
  · rfl
  · rw [h₃]
    rfl
  · rfl

theorem exists_packComponents (b : BitVec 32) :
    ∃ s, ∃ e : BitVec 8, ∃ m : BitVec 23, b = packComponents .binary32 s e m :=
  ⟨_, _, _, (@packComponents_unpackSign_unpackExponent_unpackMantissa .binary32 b).symm⟩

/-- What a stored number stands for is in canonical form. -/
theorem canonical_of_unpack {b : BitVec 32} {s : Sign} {m : Nat} {e : Int} {hm : 0 < m}
    (h : unpack .binary32 b = .finite s m e hm) : Canonical m e := by
  obtain ⟨s', x, f, rfl⟩ := exists_packComponents b
  have hx : x.toNat < 256 := x.isLt
  have hf : f.toNat < 2 ^ 23 := f.isLt
  rw [unpack_packComponents] at h
  split_ifs at h with h₁ h₂ h₃ h₄
  · obtain ⟨-, rfl, rfl⟩ := h
    exact ⟨hm, by omega, by omega, by omega, .inr rfl⟩
  · obtain ⟨-, rfl, rfl⟩ := h
    have hx₀ : x.toNat ≠ 0 := fun e => h₃ (BitVec.eq_of_toNat_eq e)
    have hx₁ : x.toNat ≠ 255 := fun e => h₁ (BitVec.eq_of_toNat_eq e)
    exact ⟨hm, by omega, by omega, by omega, .inl (by omega)⟩

theorem log2_eq_of_normal {m : Nat} (h : 2 ^ 23 ≤ m) (h' : m < 2 ^ 24) : m.log2 = 23 := by
  have hle : 23 ≤ m.log2 := (Nat.le_log2 (by omega)).2 h
  have hlt : m.log2 < 24 := (Nat.log2_lt (by omega)).2 h'
  omega

theorem toNat_biased (e : Int) :
    (e + Format.binary32.exponentBias + Format.binary32.mantissaBitsWithoutImplicit).toNat =
      (e + 150).toNat := by
  show (e + (127 : Nat) + (23 : Nat)).toNat = _
  omega

theorem pack_normal (s : Sign) {m : Nat} {e : Int} (hm : 0 < m) (h : 2 ^ 23 ≤ m) (h' : m < 2 ^ 24)
    (he : -149 ≤ e) (he' : e ≤ 104) :
    UnpackedFloat.pack .binary32 (.finite s m e hm) =
      packComponents .binary32 s (BitVec.ofNat 8 (e + 150).toNat) (BitVec.ofNat 23 m) := by
  have hbias := toNat_biased e
  have hbits : (2 : Nat) ^ Format.binary32.exponentBits = 256 := rfl
  have hmant : Format.binary32.mantissaBits = 24 := rfl
  unfold UnpackedFloat.pack
  simp only [hbias, log2_eq_of_normal h h', hbits, hmant]
  rw [if_neg (by omega), if_pos trivial]

theorem pack_subnormal (s : Sign) {m : Nat} (hm : 0 < m) (h : m < 2 ^ 23) :
    UnpackedFloat.pack .binary32 (.finite s m (-149) hm) =
      packComponents .binary32 s 0#8 (BitVec.ofNat 23 m) := by
  have hlog : m.log2 < 23 := (Nat.log2_lt (by omega)).2 h
  have hmant : Format.binary32.mantissaBits = 24 := rfl
  unfold UnpackedFloat.pack
  simp only [hmant]
  rw [if_neg (by decide), if_neg (by omega)]

/-- A number in canonical form is unpacked as it was packed. -/
theorem unpack_pack_bits (s : Sign) {m : Nat} {e : Int} (hm : 0 < m) (h : Canonical m e) :
    unpack .binary32 (UnpackedFloat.pack .binary32 (.finite s m e hm)) = .finite s m e hm := by
  obtain ⟨-, hlt, hle, hge, hnormal⟩ := h
  by_cases hm' : 2 ^ 23 ≤ m
  · have hx : (BitVec.ofNat 8 (e + 150).toNat).toNat = (e + 150).toNat := by
      rw [BitVec.toNat_ofNat]
      omega
    have hf : (BitVec.ofNat 23 m).toNat = m - 2 ^ 23 := by
      rw [BitVec.toNat_ofNat]
      omega
    rw [pack_normal s hm hm' hlt hle hge, unpack_packComponents, if_neg, if_neg]
    · congr 1
      · omega
      · omega
    · intro h
      have hzero : (e + 150).toNat = 0 := hx.symm.trans (congrArg BitVec.toNat h)
      omega
    · intro h
      have hones : (e + 150).toNat = 255 := hx.symm.trans (congrArg BitVec.toNat h)
      omega
  · obtain rfl : e = -149 := hnormal.resolve_left hm'
    have hf : (BitVec.ofNat 23 m).toNat = m := by
      rw [BitVec.toNat_ofNat]
      omega
    rw [pack_subnormal s hm (by omega), unpack_packComponents, if_neg (by decide), if_pos rfl,
      dif_neg]
    · congr 1
    · intro h
      have hzero : m = 0 := hf.symm.trans (congrArg BitVec.toNat h)
      omega

/-! ## Numbers -/

theorem unpack_pack (s : Sign) {m : Nat} {e : Int} (hm : 0 < m) (h : Canonical m e) :
    (Float32.Model.pack (.finite s m e hm)).unpack = .finite s m e hm :=
  unpack_pack_bits s hm h

/-- A number that is too large is packed as infinity. -/
theorem unpack_pack_of_lt_exponent (s : Sign) {m : Nat} {e : Int} (hm : 0 < m) (he : 104 < e) :
    (Float32.Model.pack (.finite s m e hm)).unpack = .infinity s := by
  have hbias := toNat_biased e
  have hbits : (2 : Nat) ^ Format.binary32.exponentBits = 256 := rfl
  have hpack : UnpackedFloat.pack .binary32 (.finite s m e hm) = packedInfinity .binary32 s := by
    unfold UnpackedFloat.pack
    simp only [hbias, hbits]
    rw [if_pos (by omega)]
  show unpack .binary32 (UnpackedFloat.pack .binary32 (.finite s m e hm)) = .infinity s
  rw [hpack, packedInfinity, unpack_packComponents, if_pos rfl]
  exact if_pos rfl

theorem unpack_pack_zero (s : Sign) : (Float32.Model.pack (.zero s)).unpack = .zero s := by
  cases s <;> rfl

/-- A decoded number is zero or in canonical form. -/
inductive IsReal : UnpackedFloat → Prop
  | zero (s : Sign) : IsReal (.zero s)
  | finite (s : Sign) {m : Nat} {e : Int} (h : Canonical m e) : IsReal (.finite s m e h.pos)

theorem IsReal.unpack_pack {u : UnpackedFloat} (h : IsReal u) :
    (Float32.Model.pack u).unpack = u := by
  cases h with
  | zero s => exact unpack_pack_zero s
  | finite s h => exact Single.unpack_pack s h.pos h

theorem pack_unpack_model (x : Float32.Model) : .pack x.unpack = x := by
  obtain ⟨bits, valid⟩ := x
  simp only [Float32.Model.pack, Float32.Model.unpack, pack_unpack_of_valid valid,
    UInt32.ofBitVec_toBitVec]

theorem eq_ofModel_pack {x : Float32} {u : UnpackedFloat} (h : x.toModel.unpack = u) :
    x = .ofModel (.pack u) := by
  rw [← h, pack_unpack_model]

end TwoSpirals.Single
