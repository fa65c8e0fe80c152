import TwoSpirals.Double.Fixed
import TwoSpirals.Proofs.Double.Value
import TwoSpirals.Proofs.Single.Text

/-!
# Decimals with fixed places

`Double.fixed` writes the sign of a number and then a text that the sign has no part in
(`fixed_eq`), so a number and its negation have the same digits (`unsigned_neg`).  The digits of a
finite number are those of the nearest decimal (`roundsTo_unitsOf`), and from its text the decimal
is read off again (`value?_fixed`).  Rounding keeps the order and errs by half a unit of the last
place at most (`shown_mono`, `abs_shown_sub_toRat_le`).
-/

namespace TwoSpirals

open Float.Model (UnpackedFloat)
open Float.Model.UnpackedFloat
open Single (RoundsTo digitsValue)

/-! ## Whole units -/

theorem Decimal.roundDiv_eq {d : ℕ} (hd : 0 < d) (n : ℕ) :
    roundDiv n d = (ExtendedMantissa.ofMantissaAndAccuracy (n / d)
      (accuracyOfFraction (n % d) d)).roundedMantissa := by
  rw [roundDiv, accuracyOfFraction]
  by_cases hr : n % d = 0
  · rw [if_pos hr, if_pos (by omega)]
    rfl
  · rw [if_neg hr]
    rcases hcmp : compare (2 * (n % d)) d with _ | _ | _
    · rw [if_pos (Nat.compare_eq_lt.1 hcmp)]
      rfl
    · have heq := Nat.compare_eq_eq.1 hcmp
      rw [if_neg heq.not_lt, if_pos heq]
      rfl
    · have hgt := Nat.compare_eq_gt.1 hcmp
      rw [if_neg hgt.not_gt, if_neg hgt.ne']
      rfl

/-- The quotient is rounded to the nearest whole number, and a half to the even one. -/
theorem Decimal.roundsTo_roundDiv {d : ℕ} (hd : 0 < d) (n : ℕ) :
    RoundsTo (n / d : ℚ) (roundDiv n d) := by
  rw [roundDiv_eq hd]
  exact (Single.describes_div hd).roundsTo

namespace Double

variable {x y : Float} {places k : ℕ}

theorem roundsTo_units (places m : ℕ) (e : ℤ) :
    RoundsTo (m * 2 ^ e * 10 ^ places) (units places m e) := by
  have hround := Decimal.roundsTo_roundDiv (pow_pos two_pos (-e).toNat)
    (m * 10 ^ places * 2 ^ e.toNat)
  have hval : ((m * 10 ^ places * 2 ^ e.toNat : ℕ) / (2 ^ (-e).toNat : ℕ) : ℚ) =
      m * 2 ^ e * 10 ^ places := by
    push_cast
    rw [div_eq_iff (by positivity),
      ← Single.RoundingInterval.zpow_mul_pow_toNat (two_ne_zero : (2 : ℚ) ≠ 0) e]
    ring
  rwa [hval] at hround

/-- The units of `10 ^ (-places)` that are written. -/
def unitsOf (places : ℕ) (x : Float) : ℕ :=
  match x.toModel.unpack with
  | .finite _ m e _ => units places m e
  | _ => 0

theorem roundsTo_unitsOf (places : ℕ) (x : Float) :
    RoundsTo (|toRat x| * 10 ^ places) (unitsOf places x) := by
  have hzero : RoundsTo (|0| * 10 ^ places) 0 := by
    rw [abs_zero, zero_mul]
    exact .inl ⟨by norm_num, by norm_num⟩
  rw [toRat, unitsOf]
  rcases x.toModel.unpack with _ | _ | _ | ⟨s, m, e, hm⟩
  · exact hzero
  · exact hzero
  · exact hzero
  · have hpos : (0 : ℚ) ≤ m * 2 ^ e := by positivity
    have habs : |Single.unpackedToRat (.finite s m e hm)| = m * 2 ^ e := by
      cases s with
      | positive => exact abs_of_nonneg hpos
      | negative => exact (abs_neg _).trans (abs_of_nonneg hpos)
    rw [habs]
    exact roundsTo_units places m e

/-! ## The text without the sign -/

/-- The text of a number without its sign. -/
def unsigned (places : ℕ) (x : Float) : List Char :=
  match x.toModel.unpack with
  | .notANumber => ['N', 'a', 'N']
  | .infinity _ => ['i', 'n', 'f']
  | .zero _ => Decimal.withPoint places ['0']
  | .finite _ m e _ => Decimal.withPoint places (Nat.toDigits 10 (units places m e))

theorem fixed_eq (h : x.isNaN = false) (places : ℕ) :
    fixed places x = signText (sign x) ++ unsigned places x := by
  change x.toModel.unpack.isNaN = false at h
  rcases unpack_cases x with hu | hu | hu | ⟨m, e, hm, hu⟩
  · rw [hu] at h
    exact absurd h.symm Bool.false_ne_true
  all_goals rw [fixed, unsigned, hu]

theorem fixed_of_isNaN (h : x.isNaN = true) (places : ℕ) : fixed places x = ['N', 'a', 'N'] := by
  rw [fixed, isNaN_iff.1 h]

theorem unsigned_neg (places : ℕ) (x : Float) : unsigned places (-x) = unsigned places x := by
  rw [unsigned, unpack_neg, unsigned]
  cases x.toModel.unpack <;> rfl

theorem unsigned_of_isInf (h : x.isInf = true) (places : ℕ) :
    unsigned places x = ['i', 'n', 'f'] := by
  change x.toModel.unpack.isInf = true at h
  rw [unsigned]
  cases hu : x.toModel.unpack with
  | infinity s => rfl
  | notANumber | zero | finite =>
    rw [hu] at h
    exact absurd h Bool.false_ne_true

theorem unsigned_of_isFinite (h : x.isFinite = true) (k : ℕ) :
    unsigned (k + 1) x = (Numeral.ofPoint (unitsOf (k + 1) x) k).chars := by
  change x.toModel.unpack.isFinite = true at h
  rw [Decimal.chars_ofPoint, unsigned, unitsOf]
  cases hu : x.toModel.unpack with
  | zero => exact congrArg (Decimal.withPoint (k + 1)) (Nat.toDigits_zero 10).symm
  | finite => rfl
  | notANumber | infinity =>
    rw [hu] at h
    exact absurd h Bool.false_ne_true

theorem fixed_of_isFinite (h : x.isFinite = true) (k : ℕ) :
    fixed (k + 1) x = signText (sign x) ++ (Numeral.ofPoint (unitsOf (k + 1) x) k).chars := by
  rw [fixed_eq (isNaN_eq_false (.inl h)), unsigned_of_isFinite h]

theorem unsigned_cases (k : ℕ) (x : Float) :
    unsigned (k + 1) x = ['N', 'a', 'N'] ∨ unsigned (k + 1) x = ['i', 'n', 'f'] ∨
      ∃ m, unsigned (k + 1) x = (Numeral.ofPoint m k).chars := by
  cases hu : x.toModel.unpack with
  | notANumber => exact .inl (by rw [unsigned, hu])
  | infinity => exact .inr (.inl (by rw [unsigned, hu]))
  | zero | finite =>
    have hx : x.isFinite = true := by
      show x.toModel.unpack.isFinite = true
      rw [hu]
      rfl
    exact .inr (.inr ⟨_, unsigned_of_isFinite hx k⟩)

/-- Without a sign a number is written with digits, a point and the letters of two names. -/
theorem not_mem_unsigned {c : Char} (hdigit : c.isDigit = false)
    (hc : c ∉ ['.', 'N', 'a', 'i', 'n', 'f']) (k : ℕ) (x : Float) : c ∉ unsigned (k + 1) x := by
  simp only [List.mem_cons, List.not_mem_nil, or_false, not_or] at hc
  have hne : ∀ {ds : List Char}, (∀ d ∈ ds, d.isDigit = true) → c ∉ ds := fun hds hmem =>
    absurd (hds c hmem) (by rw [hdigit]; decide)
  rcases unsigned_cases k x with h | h | ⟨m, h⟩ <;> rw [h]
  · simp [hc]
  · simp [hc]
  · rw [Decimal.chars_ofPoint_eq_append, List.mem_append, List.mem_cons, not_or, not_or]
    exact ⟨hne (Numeral.ofPoint m k).isDigit_whole, hc.1,
      hne (Numeral.ofPoint m k).isDigit_fraction⟩

theorem not_mem_fixed {c : Char} (hdigit : c.isDigit = false)
    (hc : c ∉ ['-', '.', 'N', 'a', 'i', 'n', 'f']) (k : ℕ) (x : Float) : c ∉ fixed (k + 1) x := by
  rw [List.mem_cons, not_or] at hc
  cases h : x.isNaN with
  | true =>
    have hsub : ['N', 'a', 'N'] ⊆ ['.', 'N', 'a', 'i', 'n', 'f'] := by decide
    rw [fixed_of_isNaN h]
    exact fun hmem => hc.2 (hsub hmem)
  | false =>
    rw [fixed_eq h, List.mem_append, not_or]
    exact ⟨Single.not_mem_signText hc.1 _, not_mem_unsigned hdigit hc.2 k x⟩

theorem fixed_ne_nil (k : ℕ) (x : Float) : fixed (k + 1) x ≠ [] := by
  cases h : x.isNaN with
  | true =>
    rw [fixed_of_isNaN h]
    exact List.cons_ne_nil _ _
  | false =>
    rw [fixed_eq h, ne_eq, List.append_eq_nil_iff, not_and]
    intro _
    rcases unsigned_cases k x with h | h | ⟨m, h⟩ <;> rw [h]
    · exact List.cons_ne_nil _ _
    · exact List.cons_ne_nil _ _
    · obtain ⟨c, cs, hcons, -⟩ := (Numeral.ofPoint m k).exists_chars_eq_cons
      rw [hcons]
      exact List.cons_ne_nil _ _

/-! ## The decimal that is shown -/

/-- The decimal of a text, which can have a minus in front. -/
def value? : List Char → Option ℚ
  | '-' :: cs => (Single.decimal? cs).map fun d => -d.toRat
  | cs => (Single.decimal? cs).map Decimal.toRat

/-- The decimal that is written for a finite number. -/
def shown (places : ℕ) (x : Float) : ℚ := signed (sign x) (unitsOf places x / 10 ^ places)

theorem value?_signText (s : Sign) {n : Numeral} :
    value? (signText s ++ n.chars) = some (signed s n.decimal.toRat) := by
  cases s with
  | negative =>
    show (Single.decimal? n.chars).map _ = _
    rw [n.decimal?_chars]
    rfl
  | positive =>
    obtain ⟨c, cs, h, hc⟩ := n.exists_chars_eq_cons
    have hread := n.decimal?_chars
    show value? n.chars = _
    rw [h] at hread ⊢
    unfold value?
    split
    next h => exact absurd hc (by rw [(List.cons.inj h).1]; decide)
    next =>
      rw [hread]
      rfl

theorem value?_fixed (h : x.isFinite = true) (k : ℕ) :
    value? (fixed (k + 1) x) = some (shown (k + 1) x) := by
  rw [fixed_of_isFinite h, value?_signText, Numeral.toRat_ofPoint, shown, zpow_neg, div_eq_mul_inv]
  norm_cast

theorem signed_sub (s : Sign) (p q : ℚ) : signed s p - signed s q = signed s (p - q) := by
  cases s with
  | positive => rfl
  | negative => exact neg_sub_neg p q |>.trans (neg_sub p q).symm

theorem abs_shown_sub_toRat_le (h : x.isFinite = true) (places : ℕ) :
    |shown places x - toRat x| ≤ 1 / 2 / 10 ^ places := by
  have hround := roundsTo_unitsOf places x
  have hpow : (0 : ℚ) < 10 ^ places := by positivity
  have herr : (unitsOf places x : ℚ) / 10 ^ places - |toRat x| =
      (unitsOf places x - |toRat x| * 10 ^ places) / 10 ^ places := by field_simp
  calc |shown places x - toRat x|
      = |unitsOf places x - |toRat x| * 10 ^ places| / 10 ^ places := by
        rw [shown, ← signed_sign_abs_toRat h, signed_sub, abs_signed, signed_sign_abs_toRat h, herr,
          abs_div, abs_of_pos hpow]
    _ ≤ 1 / 2 / 10 ^ places := by
        gcongr
        exact abs_le.2 ⟨by linarith [hround.le_add_half], by linarith [hround.sub_half_le]⟩

theorem unitsOf_le (places : ℕ) (h : |toRat x| ≤ |toRat y|) : unitsOf places x ≤ unitsOf places y :=
  (roundsTo_unitsOf places x).mono (roundsTo_unitsOf places y) (by gcongr)

theorem unitsOf_eq_zero (places : ℕ) (h : |toRat x| = 0) : unitsOf places x = 0 :=
  Nat.le_zero.1 ((roundsTo_unitsOf places x).le_of_le (by rw [h, zero_mul, Nat.cast_zero]))

/-- A larger number shows no smaller decimal. -/
theorem shown_mono (hx : x.isFinite = true) (hy : y.isFinite = true) (hxy : x ≤ y) (places : ℕ) :
    shown places x ≤ shown places y := by
  have hle := (le_iff_toRat_le hx hy).1 hxy
  rw [← signed_sign_abs_toRat hx, ← signed_sign_abs_toRat hy] at hle
  rw [shown, shown]
  generalize sign x = s at hle ⊢
  generalize sign y = t at hle ⊢
  rcases s with _ | _ <;> rcases t with _ | _ <;> simp only [signed] at hle ⊢
  · have habs : |toRat y| ≤ |toRat x| := neg_le_neg_iff.1 hle
    have := unitsOf_le places habs
    gcongr
  · exact (neg_nonpos.2 (by positivity)).trans (by positivity)
  · -- A number that is not negative is no greater than one with a minus only if both are zero.
    have hx₀ : |toRat x| = 0 := by linarith [abs_nonneg (toRat x), abs_nonneg (toRat y)]
    have hy₀ : |toRat y| = 0 := by linarith [abs_nonneg (toRat x), abs_nonneg (toRat y)]
    rw [unitsOf_eq_zero places hx₀, unitsOf_eq_zero places hy₀]
    simp
  · have := unitsOf_le places hle
    gcongr

/-! ## What a text says -/

/-- A text says what a number is.  It has the word for what is infinite or no number.  Otherwise it
has a whole part with no zero too many, a point and `places` digits, which are those of the nearest
decimal, an even one where two are equally near.  A minus stands where the sign bit is set. -/
structure Shows (places : ℕ) (x : Float) (cs : List Char) : Prop where
  of_isNaN : x.isNaN = true → cs = "NaN".toList
  of_isInf : x.isInf = true → cs = signText (sign x) ++ "inf".toList
  of_isFinite : x.isFinite = true → ∃ whole fraction,
    cs = signText (sign x) ++ whole ++ '.' :: fraction ∧ Json.isWhole whole = true ∧
      fraction.length = places ∧ (∀ c ∈ whole ++ fraction, c.isDigit = true) ∧
      RoundsTo (|toRat x| * 10 ^ places) (digitsValue (whole ++ fraction)) ∧
      value? cs = some (signed (sign x) (digitsValue (whole ++ fraction) / 10 ^ places))

theorem shows_fixed (k : ℕ) (x : Float) : Shows (k + 1) x (fixed (k + 1) x) where
  of_isNaN h := fixed_of_isNaN h (k + 1)
  of_isInf h := by
    rw [fixed_eq (isNaN_eq_false (.inr h)), unsigned_of_isInf h]
    rfl
  of_isFinite h := by
    let n := Numeral.ofPoint (unitsOf (k + 1) x) k
    have hvalue : digitsValue (n.whole ++ n.fraction) = unitsOf (k + 1) x :=
      Numeral.digitsValue_ofPoint _ k
    refine ⟨n.whole, n.fraction, ?_, Decimal.isWhole_ofPoint _ k,
      Numeral.length_fraction_ofPoint _ k, ?_, ?_, ?_⟩
    · rw [fixed_of_isFinite h, Decimal.chars_ofPoint_eq_append, List.append_assoc]
    · intro c hc
      exact (List.mem_append.1 hc).elim (n.isDigit_whole c) (n.isDigit_fraction c)
    · rw [hvalue]
      exact roundsTo_unitsOf (k + 1) x
    · rw [hvalue]
      exact value?_fixed h k

/-! ## Lengths -/

theorem length_fixed_le {w : ℕ} (hx : x.isFinite = true) (hw : k + 2 ≤ w)
    (h : |toRat x| * 10 ^ (k + 1) < 10 ^ w - 1 / 2) :
    (fixed (k + 1) x).length ≤ (signText (sign x)).length + w + 1 := by
  have hpow : 1 ≤ 10 ^ w := Nat.one_le_pow w 10 (by decide)
  have hunits : unitsOf (k + 1) x < 10 ^ w := by
    have hle : unitsOf (k + 1) x ≤ 10 ^ w - 1 := by
      refine (roundsTo_unitsOf (k + 1) x).le_of_lt_add_half (h.trans_le ?_)
      rw [Nat.cast_sub hpow]
      push_cast
      linarith
    omega
  have hdigits : (Nat.toDigits 10 (unitsOf (k + 1) x)).length ≤ w :=
    (Nat.length_toDigits_le_iff (by decide) (by omega)).2 hunits
  rw [fixed_of_isFinite hx, List.length_append, Decimal.length_chars_ofPoint]
  omega

end Double

end TwoSpirals
