import TwoSpirals.Proofs.Decoded
import TwoSpirals.Proofs.Single.Arithmetic
import TwoSpirals.Proofs.Single.Order

/-!
# Exact values of single-precision numbers

`toRat` is the exact value of a number that is neither infinite nor `NaN`, and the order of these
numbers is that of their values (`lt_iff_toRat_lt`).  `Nearest` says that a number is the one that a
rational number rounds to.  Rounding keeps the order (`Nearest.le`), leaves what the format can hold
(`Nearest.toRat_eq`) and errs by half a unit in the last place at most (`Nearest.abs_sub_le`).
-/

namespace TwoSpirals.Single

open Float.Model (Format UnpackedFloat)
open Float.Model.UnpackedFloat

/-! ## Values -/

/-- The exact value of a decoded number.  Infinity and `NaN` have none and count as zero. -/
@[simp]
def unpackedToRat : UnpackedFloat → ℚ
  | .finite .positive m e _ => m * 2 ^ e
  | .finite .negative m e _ => -(m * 2 ^ e)
  | _ => 0

/-- The exact value of a number. -/
def toRat (x : Float32) : ℚ := unpackedToRat x.toModel.unpack

/-- All that has 24 digits is less than what has 24 digits and a greater exponent. -/
theorem two_pow_mul_le {e e' : ℤ} (h : e < e') : (2 ^ 24 * 2 ^ e : ℚ) ≤ 2 ^ 23 * 2 ^ e' := by
  calc (2 ^ 24 * 2 ^ e : ℚ) = 2 ^ 23 * 2 ^ (e + 1) := by
        rw [zpow_add_one₀ two_ne_zero]
        ring
    _ ≤ 2 ^ 23 * 2 ^ e' := by
        gcongr
        · exact one_le_two
        · omega

theorem rank_lt_iff {spec : Format} {u v : UnpackedFloat} {a b : Rank} (hu : Decoded spec u)
    (hv : Decoded spec v) (ha : a ∈ unpackedRank? u) (hb : b ∈ unpackedRank? v) :
    a < b ↔ unpackedToRat u < unpackedToRat v := by
  rcases hu with s | ⟨_ | _, h⟩ <;> rcases hv with s' | ⟨_ | _, h'⟩ <;>
    obtain rfl := Option.some.inj ha <;> obtain rfl := Option.some.inj hb
  · simp
  · simpa [Prod.Lex.toLex_lt_toLex] using h'.value_pos.le
  · simpa [Prod.Lex.toLex_lt_toLex] using h'.value_pos
  · simpa [Prod.Lex.toLex_lt_toLex] using h.value_pos
  · simpa [Prod.Lex.toLex_lt_toLex, eq_comm] using (h'.value_lt_iff h).symm
  · simpa [Prod.Lex.toLex_lt_toLex] using (neg_lt_zero.2 h.value_pos).trans h'.value_pos
  · simpa [Prod.Lex.toLex_lt_toLex] using h.value_pos.le
  · simpa [Prod.Lex.toLex_lt_toLex] using (neg_lt_zero.2 h'.value_pos).le.trans h.value_pos.le
  · simpa [Prod.Lex.toLex_lt_toLex] using (h.value_lt_iff h').symm

theorem exists_unpackedRank? {spec : Format} {u : UnpackedFloat} (hu : Decoded spec u) :
    ∃ a, a ∈ unpackedRank? u := by
  rcases hu with s | ⟨_ | _, h⟩ <;> exact ⟨_, rfl⟩

theorem unpacked_le_iff {spec : Format} {u v : UnpackedFloat} (hu : Decoded spec u)
    (hv : Decoded spec v) : u.le v = true ↔ unpackedToRat u ≤ unpackedToRat v := by
  obtain ⟨a, ha⟩ := exists_unpackedRank? hu
  obtain ⟨b, hb⟩ := exists_unpackedRank? hv
  rw [unpacked_le_iff_rank?, ← not_lt, ← rank_lt_iff hv hu hb ha, not_lt]
  constructor
  · rintro ⟨a', ha', b', hb', hab⟩
    obtain rfl := Option.mem_unique ha ha'
    obtain rfl := Option.mem_unique hb hb'
    exact hab
  · exact fun hab => ⟨a, ha, b, hb, hab⟩

variable {x y : Float32}

theorem lt_iff_toRat_lt (hx : x.isFinite = true) (hy : y.isFinite = true) :
    x < y ↔ toRat x < toRat y := by
  obtain ⟨a, ha⟩ := exists_unpackedRank? (decoded_unpack hx)
  obtain ⟨b, hb⟩ := exists_unpackedRank? (decoded_unpack hy)
  rw [lt_iff_of_rank? ha hb]
  exact rank_lt_iff (decoded_unpack hx) (decoded_unpack hy) ha hb

theorem le_iff_toRat_le (hx : x.isFinite = true) (hy : y.isFinite = true) :
    x ≤ y ↔ toRat x ≤ toRat y :=
  le_iff.trans (unpacked_le_iff (decoded_unpack hx) (decoded_unpack hy))

/-! ## Rounded values -/

theorem isFinite_settle (s : Sign) (n : ℕ) (t : ℤ) : (settle s n t).isFinite = true := by
  rw [settle]
  split_ifs <;> rfl

theorem unpackedToRat_settle (n : ℕ) (t : ℤ) : unpackedToRat (settle .positive n t) = n * 2 ^ t := by
  rw [settle]
  split_ifs with hzero heq
  · rw [hzero, Nat.cast_zero, zero_mul]
    rfl
  · have hpow : (2 ^ (t + 1) : ℚ) = 2 * 2 ^ t := by rw [zpow_add_one₀ two_ne_zero, mul_comm]
    rw [heq, unpackedToRat, hpow]
    norm_num
    ring
  · rfl

/-- The number that `v` rounds to.  Zero is the positive one. -/
def Nearest (v : ℚ) (x : Float32) : Prop :=
  ∃ t n, IsQuantum v t ∧ RoundsTo (v / 2 ^ t) n ∧ x.toModel.unpack = settle .positive n t

theorem Approximates.nearest {m : ℕ} {e : ℤ} {acc : Accuracy} {v : ℚ} (h : Approximates m e acc v)
    (hv : v < 2 ^ (127 : ℤ)) :
    Nearest v (.ofModel (.pack (roundWithAccuracy .binary32 .positive m e acc))) := by
  obtain ⟨t, n, ht, hn, hround⟩ := h.exists_roundWithAccuracy_eq .positive
  rw [hround]
  exact ⟨t, n, ht, hn, (isReal_settle .positive ht hn hv).unpack_pack⟩

/-- The format has room for the binary digits of `v`.  Nothing is said of numbers that are too large
for it. -/
def Representable (v : ℚ) : Prop :=
  ∃ (k : ℕ) (e : ℤ), k ≤ 2 ^ 24 ∧ -149 ≤ e ∧ v = k * 2 ^ e

theorem representable_zpow {e : ℤ} (he : -149 ≤ e) : Representable (2 ^ e) :=
  ⟨1, e, by norm_num, he, by rw [Nat.cast_one, one_mul]⟩

theorem representable_natCast {n : ℕ} (hn : n ≤ 2 ^ 24) : Representable n :=
  ⟨n, 0, hn, by norm_num, by rw [zpow_zero, mul_one]⟩

/-- A multiple of a power of two is one of every smaller power. -/
theorem exists_mul_zpow_eq (k : ℕ) {t e : ℤ} (h : t ≤ e) : ∃ j : ℕ, (k * 2 ^ e : ℚ) = j * 2 ^ t := by
  refine ⟨k * 2 ^ (e - t).toNat, ?_⟩
  rw [Nat.cast_mul, Nat.cast_pow, Nat.cast_ofNat, ← zpow_natCast, Int.toNat_of_nonneg (by omega),
    mul_assoc, ← zpow_add₀ two_ne_zero, sub_add_cancel]

namespace Nearest

variable {v w : ℚ}

theorem isFinite (h : Nearest v x) : x.isFinite = true := by
  obtain ⟨t, n, -, -, hx⟩ := h
  show x.toModel.unpack.isFinite = true
  rw [hx, isFinite_settle]

theorem unique (h : Nearest v x) (h' : Nearest v y) : x = y := by
  obtain ⟨t, n, ht, hn, hx⟩ := h
  obtain ⟨u, k, hu, hk, hy⟩ := h'
  obtain rfl := ht.unique hu
  obtain rfl := hn.unique hk
  rw [eq_ofModel_pack hx, eq_ofModel_pack hy]

theorem exists_toRat_eq (h : Nearest v x) :
    ∃ t n, IsQuantum v t ∧ RoundsTo (v / 2 ^ t) n ∧ toRat x = n * 2 ^ t := by
  obtain ⟨t, n, ht, hn, hx⟩ := h
  exact ⟨t, n, ht, hn, by rw [toRat, hx, unpackedToRat_settle]⟩

theorem toRat_mono (h : Nearest v x) (h' : Nearest w y) (hvw : v ≤ w) : toRat x ≤ toRat y := by
  obtain ⟨t, n, ht, hn, hx⟩ := h.exists_toRat_eq
  obtain ⟨u, k, hu, hk, hy⟩ := h'.exists_toRat_eq
  rw [hx, hy]
  rcases (ht.mono hu hvw).eq_or_lt with rfl | htu
  · have : n ≤ k := hn.mono hk (by gcongr)
    gcongr
  · calc (n * 2 ^ t : ℚ) ≤ 2 ^ 24 * 2 ^ t := by
          have := hn.le_of_le ht.div_lt.le
          gcongr
          exact_mod_cast this
      _ ≤ 2 ^ 23 * 2 ^ u := two_pow_mul_le htu
      _ ≤ k * 2 ^ u := by
          have := hk.ge_of_ge (hu.le_div (ht.le_exponent.trans_lt htu).ne')
          gcongr
          exact_mod_cast this

/-- Rounding keeps the order. -/
theorem le (h : Nearest v x) (h' : Nearest w y) (hvw : v ≤ w) : x ≤ y :=
  (le_iff_toRat_le h.isFinite h'.isFinite).2 (h.toRat_mono h' hvw)

theorem le_toRat (h : Nearest v x) (hw : Representable w) (hwv : w ≤ v) : w ≤ toRat x := by
  obtain ⟨t, n, ht, hn, hx⟩ := h.exists_toRat_eq
  obtain ⟨k, e, hk, he, rfl⟩ := hw
  rw [hx]
  rcases le_or_gt t e with hte | het
  · obtain ⟨j, hj⟩ := exists_mul_zpow_eq k hte
    rw [hj] at hwv ⊢
    have : j ≤ n := hn.ge_of_ge ((le_div_iff₀ (by positivity)).2 hwv)
    gcongr
  · calc (k * 2 ^ e : ℚ) ≤ 2 ^ 24 * 2 ^ e := by
          gcongr
          exact_mod_cast hk
      _ ≤ 2 ^ 23 * 2 ^ t := two_pow_mul_le het
      _ ≤ n * 2 ^ t := by
          have := hn.ge_of_ge (ht.le_div (he.trans_lt het).ne')
          gcongr
          exact_mod_cast this

theorem toRat_le (h : Nearest v x) (hw : Representable w) (hvw : v ≤ w) : toRat x ≤ w := by
  obtain ⟨t, n, ht, hn, hx⟩ := h.exists_toRat_eq
  obtain ⟨k, e, hk, he, rfl⟩ := hw
  rw [hx]
  rcases le_or_gt t e with hte | het
  · obtain ⟨j, hj⟩ := exists_mul_zpow_eq k hte
    rw [hj] at hvw ⊢
    have : n ≤ j := hn.le_of_le ((div_le_iff₀ (by positivity)).2 hvw)
    gcongr
  · -- The value is no less than the power of two where its quantum begins, and no greater.
    have hle : v ≤ (2 ^ 23 : ℕ) * 2 ^ t := hvw.trans <|
      calc (k * 2 ^ e : ℚ) ≤ 2 ^ 24 * 2 ^ e := by
            gcongr
            exact_mod_cast hk
        _ ≤ (2 ^ 23 : ℕ) * 2 ^ t := by exact_mod_cast two_pow_mul_le het
    have hn' : n ≤ 2 ^ 23 := hn.le_of_le ((div_le_iff₀ (by positivity)).2 hle)
    calc (n * 2 ^ t : ℚ) ≤ (2 ^ 23 : ℕ) * 2 ^ t := by gcongr
      _ ≤ v := (le_div_iff₀ (by positivity)).1 (ht.le_div (he.trans_lt het).ne')
      _ ≤ k * 2 ^ e := hvw

/-- What the format can hold is its own rounding. -/
theorem toRat_eq (h : Nearest v x) (hv : Representable v) : toRat x = v :=
  le_antisymm (h.toRat_le hv le_rfl) (h.le_toRat hv le_rfl)

/-- Up to `2 ^ s` numbers are `2 ^ (s - 24)` apart at most, and rounding errs by half of that. -/
theorem abs_sub_le (h : Nearest v x) {s : ℤ} (hs : -125 ≤ s) (hv : v ≤ 2 ^ s) :
    |toRat x - v| ≤ 2 ^ (s - 25) := by
  rcases hv.lt_or_eq with hv | rfl
  · obtain ⟨t, n, ht, hn, hx⟩ := h.exists_toRat_eq
    have hts : t ≤ s - 24 := by
      rcases ht.normal with hle | rfl
      · have := (zpow_lt_zpow_iff_right₀ one_lt_two).1 (hle.trans_lt hv)
        omega
      · omega
    have herr : |n - v / 2 ^ t| ≤ 1 / 2 :=
      abs_le.2 ⟨by linarith [hn.le_add_half], by linarith [hn.sub_half_le]⟩
    calc |toRat x - v| = |n - v / 2 ^ t| * 2 ^ t := by
          have hpow : (0 : ℚ) < 2 ^ t := by positivity
          rw [← abs_of_pos hpow, ← abs_mul, abs_of_pos hpow, sub_mul, div_mul_cancel₀ v hpow.ne',
            hx]
      _ ≤ 1 / 2 * 2 ^ (s - 24) := by
          gcongr
          exact one_le_two
      _ = 2 ^ (s - 25) := by
          rw [show s - 24 = s - 25 + 1 by ring, zpow_add_one₀ two_ne_zero]
          ring
  · -- The next number of the format is twice as far as those below, but `2 ^ s` is one itself.
    rw [h.toRat_eq (representable_zpow (by omega)), sub_self, abs_zero]
    positivity

end Nearest

/-! ## Natural numbers and quotients -/

theorem nearest_zero : Nearest 0 0 :=
  ⟨-149, 0, ⟨le_refl _, by positivity, .inr rfl⟩, .inl ⟨by norm_num, by norm_num⟩, rfl⟩

theorem nearest_ofNat {n : ℕ} (hn : n < 2 ^ 64) : Nearest n (ofNat n) := by
  rcases Nat.eq_zero_or_pos n with rfl | hpos
  · rw [Nat.cast_zero]
    exact nearest_zero
  · obtain ⟨m, e, heq, happrox⟩ := exists_approximates_ofNat hpos
    have hlt : (n : ℚ) < 2 ^ (127 : ℤ) := by
      have : (n : ℚ) < 2 ^ 64 := by exact_mod_cast hn
      exact this.trans (by norm_num)
    show Nearest n (.ofModel (.pack (UnpackedFloat.ofNat .binary32 n)))
    rw [heq]
    exact happrox.nearest hlt

theorem nearest_one : Nearest 1 1 := by
  have h := @nearest_ofNat 1 (by norm_num)
  rwa [Nat.cast_one] at h

theorem toRat_ofNat {n : ℕ} (hn : n ≤ 2 ^ 24) : toRat (ofNat n) = n :=
  (nearest_ofNat (by omega)).toRat_eq (representable_natCast hn)

theorem toRat_ofNat_mono {a b : ℕ} (hab : a ≤ b) (hb : b < 2 ^ 64) :
    toRat (ofNat a) ≤ toRat (ofNat b) :=
  (nearest_ofNat (hab.trans_lt hb)).toRat_mono (nearest_ofNat hb) (by exact_mod_cast hab)

theorem one_le_toRat_ofNat {n : ℕ} (hpos : 0 < n) (hn : n < 2 ^ 64) : 1 ≤ toRat (ofNat n) := by
  have h := toRat_ofNat_mono hpos hn
  rwa [toRat_ofNat (by norm_num), Nat.cast_one] at h

theorem toRat_ofNat_le {n : ℕ} (hn : n < 2 ^ 64) : toRat (ofNat n) ≤ 2 ^ (64 : ℤ) :=
  (nearest_ofNat hn).toRat_le (representable_zpow (by norm_num)) (by exact_mod_cast hn.le)

/-- What is rounded is no negative zero, nor any other negative number. -/
theorem Nearest.unpack_eq {v : ℚ} (h : Nearest v x) :
    x.toModel.unpack = .zero .positive ∨ ∃ m e hm, x.toModel.unpack = .finite .positive m e hm := by
  obtain ⟨t, n, -, -, hx⟩ := h
  rw [hx, settle]
  split_ifs
  · exact .inl rfl
  · exact .inr ⟨2 ^ 23, t + 1, by decide, rfl⟩
  · exact .inr ⟨n, t, by omega, rfl⟩

theorem Nearest.div {v w : ℚ} (h : Nearest v x) (h' : Nearest w y) (hpos : 0 < toRat y)
    (hlt : toRat x / toRat y < 2 ^ (127 : ℤ)) : Nearest (toRat x / toRat y) (x / y) := by
  have hdiv : x / y =
      .ofModel (.pack (UnpackedFloat.div .binary32 x.toModel.unpack y.toModel.unpack)) := rfl
  rw [hdiv]
  rw [toRat, toRat] at *
  rcases h'.unpack_eq with hy | ⟨m₂, e₂, h₂, hy⟩
  · rw [hy] at hpos
    exact absurd hpos (not_lt.2 le_rfl)
  rcases h.unpack_eq with hx | ⟨m₁, e₁, h₁, hx⟩
  · have hzero : unpackedToRat (.zero .positive) = 0 := rfl
    rw [hx, hy, hzero, zero_div]
    exact nearest_zero
  · rw [hx, hy] at hlt ⊢
    exact (approximates_divCore h₁ h₂).nearest hlt

/-- The quotient of a count by one that is no smaller. -/
theorem nearest_ofNat_div_ofNat {a b : ℕ} (hab : a ≤ b) (hpos : 0 < b) (hb : b < 2 ^ 64) :
    Nearest (toRat (ofNat a) / toRat (ofNat b)) (ofNat a / ofNat b) := by
  have hden := zero_lt_one.trans_le (one_le_toRat_ofNat hpos hb)
  refine (nearest_ofNat (hab.trans_lt hb)).div (nearest_ofNat hb) hden ?_
  calc toRat (ofNat a) / toRat (ofNat b) ≤ 1 := (div_le_one hden).2 (toRat_ofNat_mono hab hb)
    _ < 2 ^ (127 : ℤ) := by norm_num

end TwoSpirals.Single
