import TwoSpirals.Proofs.Single.Pack
import TwoSpirals.Single.Bytes

/-!
# Numbers through bytes and back

A number is the number of its own four bytes (`ofBytes_toBytes`), so a buffer is read back from its
bytes as it was (`decode_encode`).  Four bytes are those of their own number, unless that is `NaN`
(`toBytes_ofBytes`), which has one bit pattern here, so whole numbers of bytes come back but for
those (`getElem?_encode_decode`).
-/

namespace TwoSpirals.Single

open Float.Model (Format UnpackedFloat)

/-! ## One number -/

/-- The byte that begins at bit `k`, in its place. -/
theorem getLsbD_byte (b k : UInt32) (hk : k.toNat < 32) {i : Nat} (hi : i < 32) :
    ((b >>> k).toUInt8.toUInt32 <<< k).toBitVec.getLsbD i =
      (decide (k.toNat ≤ i ∧ i < k.toNat + 8) && b.toBitVec.getLsbD i) := by
  have hmod : (k.toBitVec % 32).toNat = k.toNat := Nat.mod_eq_of_lt hk
  simp only [UInt32.toBitVec_shiftLeft, UInt32.toBitVec_shiftRight, UInt8.toBitVec_toUInt32,
    UInt32.toBitVec_toUInt8, BitVec.shiftLeft_eq', BitVec.ushiftRight_eq', hmod,
    BitVec.getLsbD_shiftLeft, BitVec.getLsbD_setWidth, BitVec.getLsbD_ushiftRight]
  by_cases hki : k.toNat ≤ i
  · rw [Nat.add_sub_cancel' hki]
    grind
  · grind

theorem getLsbD_low_byte (b : UInt32) {i : Nat} (hi : i < 32) :
    b.toUInt8.toUInt32.toBitVec.getLsbD i = (decide (i < 8) && b.toBitVec.getLsbD i) := by
  simp only [UInt8.toBitVec_toUInt32, UInt32.toBitVec_toUInt8, BitVec.getLsbD_setWidth,
    decide_eq_true hi, Bool.true_and]

theorem or_bytes (b : UInt32) :
    b.toUInt8.toUInt32 ||| (b >>> 8).toUInt8.toUInt32 <<< 8 |||
      (b >>> 16).toUInt8.toUInt32 <<< 16 ||| (b >>> 24).toUInt8.toUInt32 <<< 24 = b := by
  apply UInt32.toBitVec_inj.1
  apply BitVec.eq_of_getLsbD_eq
  intro i hi
  simp only [UInt32.toBitVec_or, BitVec.getLsbD_or, getLsbD_low_byte b hi,
    getLsbD_byte b 8 (by decide) hi, getLsbD_byte b 16 (by decide) hi,
    getLsbD_byte b 24 (by decide) hi, UInt32.reduceToNat]
  -- A bit that is set is in one of the four bytes.
  cases b.toBitVec.getLsbD i with
  | false => simp
  | true =>
    simp
    omega

theorem ofBytes_toBytes (x : Float32) :
    ofBytes x.toBits.toUInt8 (x.toBits >>> 8).toUInt8 (x.toBits >>> 16).toUInt8
      (x.toBits >>> 24).toUInt8 = x := by
  rw [ofBytes, or_bytes, Float32.ofBits_toBits]

/-! ## Bit patterns -/

/-- A bit pattern that is not one of a `NaN` is kept. -/
theorem toBits_ofBits {w : UInt32} (h : (Float32.ofBits w).isNaN = false) :
    (Float32.ofBits w).toBits = w := by
  have hpack := @UnpackedFloat.pack_unpack Format.binary32 w.toBitVec (by decide)
  have hbits : (Float32.ofBits w).toBits = .ofBitVec
      (if @UnpackedFloat.isNaNBits Format.binary32 w.toBitVec = true then
        UnpackedFloat.packedNaN .binary32 else w.toBitVec) := congrArg UInt32.ofBitVec hpack
  split_ifs at hbits with hnan
  · -- Then `w` is stored as the one `NaN`.
    have : Float32.ofBits w = nan := Float32.toBits_inj.1 hbits
    rw [this] at h
    exact nomatch h
  · exact hbits

/-- The four bytes of a word, low byte first. -/
def wordBytes (w : UInt32) : List UInt8 :=
  [w.toUInt8, (w >>> 8).toUInt8, (w >>> 16).toUInt8, (w >>> 24).toUInt8]

theorem ofDigits_wordBytes (w : UInt32) :
    Nat.ofDigits 256 ((wordBytes w).map UInt8.toNat) = w.toNat := by
  have hw : w.toNat < 2 ^ 32 := w.toNat_lt
  simp only [wordBytes, List.map_cons, List.map_nil, UInt32.toNat_toUInt8, UInt32.toNat_shiftRight,
    UInt32.reduceToNat, Nat.reduceMod, Nat.reducePow, Nat.shiftRight_eq_div_pow, Nat.ofDigits_cons,
    Nat.ofDigits_nil]
  omega

theorem wordBytes_ofDigits {bs : List UInt8} (h : bs.length = 4) :
    wordBytes (.ofNat (Nat.ofDigits 256 (bs.map UInt8.toNat))) = bs := by
  have hbyte : ∀ l : List UInt8, ∀ n ∈ l.map UInt8.toNat, n < 256 := by
    intro l n hn
    obtain ⟨b, -, rfl⟩ := List.mem_map.1 hn
    exact b.toNat_lt
  have hlt : Nat.ofDigits 256 (bs.map UInt8.toNat) < UInt32.size := by
    have := Nat.ofDigits_lt_base_pow_length (by decide) (hbyte bs)
    rwa [List.length_map, h] at this
  apply List.map_injective_iff.2 fun _ _ => UInt8.toNat_inj.1
  refine Nat.ofDigits_inj_of_len_eq (by decide) ?_ (hbyte _) (hbyte _) ?_
  · rw [List.length_map, List.length_map, h]
    rfl
  · rw [ofDigits_wordBytes, UInt32.toNat_ofNat_of_lt' hlt]

theorem ofBytes_eq (a b c d : UInt8) :
    ofBytes a b c d = .ofBits (.ofNat (Nat.ofDigits 256 ([a, b, c, d].map UInt8.toNat))) := by
  set w : UInt32 := .ofNat (Nat.ofDigits 256 ([a, b, c, d].map UInt8.toNat))
  obtain ⟨ha, hb, hc, hd⟩ : w.toUInt8 = a ∧ (w >>> 8).toUInt8 = b ∧ (w >>> 16).toUInt8 = c ∧
      (w >>> 24).toUInt8 = d := by
    have := @wordBytes_ofDigits [a, b, c, d] rfl
    simpa only [wordBytes, List.cons.injEq, and_true] using this
  calc ofBytes a b c d
      = ofBytes w.toUInt8 (w >>> 8).toUInt8 (w >>> 16).toUInt8 (w >>> 24).toUInt8 := by
        rw [ha, hb, hc, hd]
    _ = .ofBits w := by rw [ofBytes, or_bytes]

theorem toBytes_ofBytes {a b c d : UInt8} (h : (ofBytes a b c d).isNaN = false) :
    toBytes (ofBytes a b c d) = [a, b, c, d] := by
  rw [ofBytes_eq] at h ⊢
  show wordBytes (Float32.ofBits _).toBits = _
  rw [toBits_ofBits h, wordBytes_ofDigits rfl]

/-! ## Buffers -/

theorem length_encode (xs : List Float32) : (encode xs).length = 4 * xs.length := by
  induction xs with
  | nil => rfl
  | cons x xs ih =>
    show (toBytes x ++ encode xs).length = _
    rw [List.length_append, ih, List.length_cons]
    show 4 + 4 * xs.length = 4 * (xs.length + 1)
    omega

theorem length_decode (bytes : List UInt8) : (decode bytes).length = bytes.length / 4 := by
  fun_induction decode bytes with
  | case1 a b c d rest ih =>
    simp only [List.length_cons, ih]
    omega
  | case2 bytes h =>
    match bytes, h with
    | [], _ | [_], _ | [_, _], _ | [_, _, _], _ => simp
    | a :: b :: c :: d :: rest, h => exact (h a b c d rest rfl).elim

theorem decode_encode (xs : List Float32) : decode (encode xs) = xs := by
  induction xs with
  | nil => rfl
  | cons x xs ih =>
    show decode (toBytes x ++ encode xs) = _
    rw [toBytes]
    simp only [List.cons_append, List.nil_append, decode, ofBytes_toBytes, ih]

/-- The bit pattern in place `i` of a buffer. -/
def patternAt (bytes : List UInt8) (i : ℕ) : ℕ :=
  Nat.ofDigits 256 (((bytes.drop (4 * i)).take 4).map UInt8.toNat)

theorem patternAt_encode (xs : List Float32) (i : ℕ) (h : i < xs.length) :
    patternAt (encode xs) i = xs[i].toBits.toNat := by
  induction xs generalizing i with
  | nil => exact absurd h (Nat.not_lt_zero i)
  | cons x xs ih =>
    cases i with
    | zero => exact ofDigits_wordBytes x.toBits
    | succ i => exact ih i (Nat.lt_of_succ_lt_succ h)

theorem getElem_decode (bytes : List UInt8) (i : ℕ) (h : i < (decode bytes).length) :
    (decode bytes)[i] = .ofBits (.ofNat (patternAt bytes i)) := by
  fun_induction decode bytes generalizing i with
  | case1 a b c d rest ih =>
    cases i with
    | zero => exact ofBytes_eq a b c d
    | succ i => exact ih i (Nat.lt_of_succ_lt_succ h)
  | case2 bytes _ => exact absurd h (Nat.not_lt_zero i)

/-- A buffer of whole numbers is kept byte for byte, but for the bytes of a `NaN`. -/
theorem getElem?_encode_decode {bytes : List UInt8} {n : ℕ} (h : bytes.length = 4 * n) (k : ℕ)
    (hk : ∀ x ∈ (decode bytes)[k / 4]?, x.isNaN = false) :
    (encode (decode bytes))[k]? = bytes[k]? := by
  fun_induction decode bytes generalizing n k with
  | case1 a b c d rest ih =>
    show (toBytes (ofBytes a b c d) ++ encode (decode rest))[k]? = ([a, b, c, d] ++ rest)[k]?
    by_cases hlt : k < 4
    · have hzero : k / 4 = 0 := Nat.div_eq_of_lt hlt
      rw [toBytes_ofBytes (hk _ (by rw [hzero]; rfl)), List.getElem?_append_left hlt,
        List.getElem?_append_left hlt]
    · obtain ⟨k, rfl⟩ := Nat.exists_eq_add_of_le' (Nat.not_lt.1 hlt)
      have hsucc : (k + 4) / 4 = k / 4 + 1 := Nat.add_div_right k (by decide)
      rw [hsucc] at hk
      rw [List.getElem?_append_right (Nat.le_add_left 4 k),
        List.getElem?_append_right (Nat.le_add_left 4 k)]
      refine ih (n := n - 1) ?_ k hk
      simp only [List.length_cons] at h
      omega
  | case2 bytes hshort =>
    match bytes, h, hshort with
    | [], _, _ => rfl
    | [_], h, _ | [_, _], h, _ | [_, _, _], h, _ =>
      simp only [List.length_cons, List.length_nil] at h
      omega
    | a :: b :: c :: d :: rest, _, hshort => exact (hshort a b c d rest rfl).elim

end TwoSpirals.Single
