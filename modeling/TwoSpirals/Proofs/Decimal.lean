import TwoSpirals.Json.Reader
import TwoSpirals.Proofs.Single.Arithmetic
import TwoSpirals.Proofs.Single.Reader

/-!
# Written decimals

A `Numeral` is the text of a decimal in parts: digits, digits behind a point, and a power of ten.
`Single.decimal?` reads the decimal of every numeral (`Numeral.decimal?_chars`), and what
`Decimal.plain` and `Decimal.jsonChars` write are numerals of the same exact value.
-/

namespace TwoSpirals

open Single (digitsValue spanDigits exponent? decimal? IsDigits WritesPower WritesDecimal)

/-! ## Digits -/

theorem isDigit_of_mem_toDigits {n : ℕ} {c : Char} (hc : c ∈ Nat.toDigits 10 n) :
    c.isDigit = true :=
  Nat.isDigit_of_mem_toDigits (by decide) (by decide) hc

theorem not_mem_toDigits {c : Char} (hc : c.isDigit = false) (n : ℕ) : c ∉ Nat.toDigits 10 n :=
  fun h => absurd (isDigit_of_mem_toDigits h) (by rw [hc]; decide)

theorem digitsValue_toDigits (n : ℕ) : digitsValue (Nat.toDigits 10 n) = n :=
  Nat.ofDigitChars_ten_toDigits

theorem digitsValue_append_zeros (ds : List Char) (k : ℕ) :
    digitsValue (ds ++ List.replicate k '0') = digitsValue ds * 10 ^ k := by
  rw [digitsValue, Nat.ofDigitChars_append, Nat.ofDigitChars_replicate_zero, mul_comm]
  rfl

theorem digitsValue_zeros_append (k : ℕ) (ds : List Char) :
    digitsValue (List.replicate k '0' ++ ds) = digitsValue ds := by
  rw [digitsValue, Nat.ofDigitChars_append, Nat.ofDigitChars_replicate_zero, mul_zero]
  rfl

/-- Only zero is written with a zero in front. -/
theorem head?_toDigits {n : ℕ} (hn : 0 < n) : (Nat.toDigits 10 n).head? ≠ some '0' := by
  induction n using Nat.strongRecOn with
  | ind n ih =>
    rw [Nat.toDigits_eq_if (by decide)]
    split
    next hlt =>
      simp only [List.head?_cons, ne_eq, Option.some.injEq, Nat.digitChar_eq_zero]
      omega
    next hge =>
      rw [List.head?_append_of_ne_nil _ Nat.toDigits_ne_nil]
      exact ih (n / 10) (by omega) (by omega)

/-! ## Powers of ten -/

theorem isDigits_toDigits (n : ℕ) : IsDigits (Nat.toDigits 10 n) :=
  ⟨Nat.toDigits_ne_nil, fun _ => isDigit_of_mem_toDigits⟩

theorem writesPower_scientific (p : ℤ) :
    WritesPower ('e' :: ((if p < 0 then ['-'] else []) ++ Nat.toDigits 10 p.natAbs)) p := by
  have hds := isDigits_toDigits p.natAbs
  have hvalue : (digitsValue (Nat.toDigits 10 p.natAbs) : ℤ) = |p| := by
    rw [digitsValue_toDigits, Int.natCast_natAbs]
  split_ifs with hp
  · have h := WritesPower.minus (e := 'e') (.inl rfl) hds
    rwa [hvalue, abs_of_neg hp, neg_neg] at h
  · have h := WritesPower.unsigned (e := 'e') (.inl rfl) hds
    rwa [hvalue, abs_of_nonneg (not_lt.1 hp)] at h

theorem isNumeric_of_isDigit {c : Char} (hc : c.isDigit = true) : Json.isNumeric c = true :=
  decide_eq_true (.inl hc)

theorem isNumeric_of_writesPower {tail : List Char} {p : ℤ} (h : WritesPower tail p) {c : Char}
    (hc : c ∈ tail) : Json.isNumeric c = true := by
  have hletter : ∀ {e : Char}, e = 'e' ∨ e = 'E' → Json.isNumeric e = true := by
    rintro e (rfl | rfl) <;> rfl
  cases h with
  | nil => exact absurd hc List.not_mem_nil
  | unsigned he hds =>
    rcases List.mem_cons.1 hc with rfl | hc
    · exact hletter he
    · exact isNumeric_of_isDigit (hds.2 c hc)
  | plus he hds | minus he hds =>
    rcases List.mem_cons.1 hc with rfl | hc
    · exact hletter he
    · rcases List.mem_cons.1 hc with rfl | hc
      · rfl
      · exact isNumeric_of_isDigit (hds.2 c hc)

/-! ## Numerals -/

/-- The parts of a written decimal. -/
structure Numeral where
  whole : List Char
  /-- What stands behind the point.  Where there is nothing there is no point. -/
  fraction : List Char
  tail : List Char
  power : ℤ
  whole_ne_nil : whole ≠ []
  isDigit_whole : ∀ c ∈ whole, c.isDigit = true
  isDigit_fraction : ∀ c ∈ fraction, c.isDigit = true
  exponent?_tail : exponent? tail = some power

namespace Numeral

variable (n : Numeral)

/-- What follows the whole part. -/
def rest : List Char := (if n.fraction = [] then [] else '.' :: n.fraction) ++ n.tail

/-- The numeral as it is written. -/
def chars : List Char := n.whole ++ n.rest

/-- The decimal that is written. -/
def decimal : Decimal := ⟨digitsValue (n.whole ++ n.fraction), n.power - n.fraction.length⟩

theorem isDigit_of_mem_head?_tail {c : Char} (hc : c ∈ n.tail.head?) :
    c.isDigit = false ∧ c ≠ '.' :=
  (Single.writesPower_of_exponent? n.exponent?_tail).of_mem_head? hc

theorem isDigit_of_mem_head?_rest {c : Char} (hc : c ∈ n.rest.head?) : c.isDigit = false := by
  rw [rest] at hc
  split_ifs at hc with hf
  · exact (n.isDigit_of_mem_head?_tail hc).1
  · obtain rfl : '.' = c := by simpa using hc
    rfl

theorem spanDigits_chars : spanDigits n.chars = (n.whole, n.rest) :=
  Single.spanDigits_append n.isDigit_whole fun _ => n.isDigit_of_mem_head?_rest

theorem writesDecimal_chars : WritesDecimal n.chars n.decimal := by
  have hp := Single.writesPower_of_exponent? n.exponent?_tail
  rw [chars, rest, decimal]
  by_cases hf : n.fraction = []
  · have h := WritesDecimal.whole ⟨n.whole_ne_nil, n.isDigit_whole⟩ hp
    simpa [hf] using h
  · rw [if_neg hf]
    refine .point ⟨List.append_ne_nil_of_left_ne_nil n.whole_ne_nil _, fun c hc => ?_⟩ hp
    exact (List.mem_append.1 hc).elim (n.isDigit_whole c) (n.isDigit_fraction c)

theorem decimal?_chars : decimal? n.chars = some n.decimal := n.writesDecimal_chars.decimal?_eq

theorem exists_chars_eq_cons : ∃ c cs, n.chars = c :: cs ∧ c.isDigit = true := by
  obtain ⟨c, cs, h⟩ := List.exists_cons_of_ne_nil n.whole_ne_nil
  exact ⟨c, cs ++ n.rest, by rw [chars, h, List.cons_append],
    n.isDigit_whole c (h ▸ List.mem_cons_self)⟩

theorem isNumeric_of_mem_chars {c : Char} (hc : c ∈ n.chars) : Json.isNumeric c = true := by
  rw [chars, rest, List.mem_append, List.mem_append] at hc
  rcases hc with hc | hc | hc
  · exact isNumeric_of_isDigit (n.isDigit_whole c hc)
  · split_ifs at hc with hf
    · exact absurd hc List.not_mem_nil
    · rcases List.mem_cons.1 hc with rfl | hc
      · rfl
      · exact isNumeric_of_isDigit (n.isDigit_fraction c hc)
  · exact isNumeric_of_writesPower (Single.writesPower_of_exponent? n.exponent?_tail) hc

/-! ## The numerals that are written -/

theorem isDigit_of_mem_zeros {k : ℕ} {c : Char} (hc : c ∈ List.replicate k '0') :
    c.isDigit = true := by
  rw [List.eq_of_mem_replicate hc]
  rfl

theorem isDigit_of_mem_padded {m k : ℕ} {c : Char} (hc : c ∈ (Nat.toDigits 10 m).leftpad k '0') :
    c.isDigit = true := by
  rcases List.mem_append.1 hc with hc | hc
  · exact isDigit_of_mem_zeros hc
  · exact isDigit_of_mem_toDigits hc

/-- A natural number and zeros, some of which can stand behind a point. -/
def ofZeros (m k z : ℕ) : Numeral where
  whole := Nat.toDigits 10 m ++ List.replicate k '0'
  fraction := List.replicate z '0'
  tail := []
  power := 0
  whole_ne_nil := by simp
  isDigit_whole c hc := (List.mem_append.1 hc).elim isDigit_of_mem_toDigits isDigit_of_mem_zeros
  isDigit_fraction _ := isDigit_of_mem_zeros
  exponent?_tail := rfl

/-- A natural number with a point before the last `k + 1` digits. -/
def ofPoint (m k : ℕ) : Numeral :=
  let padded := (Nat.toDigits 10 m).leftpad (k + 1 + 1) '0'
  { whole := padded.take (padded.length - (k + 1))
    fraction := padded.drop (padded.length - (k + 1))
    tail := []
    power := 0
    whole_ne_nil := by
      have hlen : k + 1 + 1 ≤ padded.length := by
        rw [List.length_leftpad]
        exact le_max_left _ _
      rw [ne_eq, List.take_eq_nil_iff, not_or, ← List.length_eq_zero_iff]
      omega
    isDigit_whole _ hc := isDigit_of_mem_padded (List.mem_of_mem_take hc)
    isDigit_fraction _ hc := isDigit_of_mem_padded (List.mem_of_mem_drop hc)
    exponent?_tail := rfl }

/-- A natural number with a point behind its first digit and a power of ten. -/
def ofPower (m : ℕ) (p : ℤ) : Numeral where
  whole := (Nat.toDigits 10 m).take 1
  fraction := (Nat.toDigits 10 m).drop 1
  tail := 'e' :: ((if p < 0 then ['-'] else []) ++ Nat.toDigits 10 p.natAbs)
  power := p
  whole_ne_nil := by simp
  isDigit_whole _ hc := isDigit_of_mem_toDigits (List.mem_of_mem_take hc)
  isDigit_fraction _ hc := isDigit_of_mem_toDigits (List.mem_of_mem_drop hc)
  exponent?_tail := (writesPower_scientific p).exponent?_eq

theorem toRat_ofZeros (m k z : ℕ) : (ofZeros m k z).decimal.toRat = m * 10 ^ k := by
  have hdigits : digitsValue ((ofZeros m k z).whole ++ (ofZeros m k z).fraction) =
      m * 10 ^ k * 10 ^ z := by
    rw [ofZeros, digitsValue_append_zeros, digitsValue_append_zeros, digitsValue_toDigits]
  rw [Decimal.toRat, decimal, hdigits]
  simp only [ofZeros, List.length_replicate, zero_sub, zpow_neg, zpow_natCast]
  push_cast
  field_simp

theorem digitsValue_ofPoint (m k : ℕ) :
    digitsValue ((ofPoint m k).whole ++ (ofPoint m k).fraction) = m := by
  rw [ofPoint]
  dsimp only
  rw [List.take_append_drop, List.leftpad, digitsValue_zeros_append, digitsValue_toDigits]

theorem length_fraction_ofPoint (m k : ℕ) : (ofPoint m k).fraction.length = k + 1 := by
  simp only [ofPoint, List.length_drop, List.length_leftpad]
  omega

theorem toRat_ofPoint (m k : ℕ) :
    (ofPoint m k).decimal.toRat = m * 10 ^ (-((k : ℤ) + 1)) := by
  rw [Decimal.toRat, decimal, digitsValue_ofPoint, length_fraction_ofPoint]
  simp [ofPoint]

theorem toRat_ofPower (m : ℕ) (p : ℤ) :
    (ofPower m p).decimal.toRat = m * 10 ^ (p - ((Nat.toDigits 10 m).length - 1 : ℕ)) := by
  have hdigits : digitsValue ((ofPower m p).whole ++ (ofPower m p).fraction) = m := by
    rw [ofPower, List.take_append_drop, digitsValue_toDigits]
  rw [Decimal.toRat, decimal, hdigits]
  simp [ofPower]

end Numeral

namespace Decimal

open Numeral

theorem chars_ofZeros_zero (m k : ℕ) : (ofZeros m k 0).chars = (⟨m, .ofNat k⟩ : Decimal).plain := by
  simp [Numeral.chars, Numeral.rest, ofZeros, plain]

theorem chars_ofZeros_one (m k : ℕ) :
    (ofZeros m k 1).chars = (⟨m, .ofNat k⟩ : Decimal).plain ++ ['.', '0'] := by
  simp [Numeral.chars, Numeral.rest, ofZeros, plain]

theorem fraction_ofPoint_ne_nil (m k : ℕ) : (ofPoint m k).fraction ≠ [] := by
  rw [← List.length_pos_iff, length_fraction_ofPoint]
  exact Nat.succ_pos k

theorem chars_ofPoint_eq_append (m k : ℕ) :
    (ofPoint m k).chars = (ofPoint m k).whole ++ '.' :: (ofPoint m k).fraction := by
  rw [Numeral.chars, Numeral.rest, if_neg (fraction_ofPoint_ne_nil m k)]
  exact congrArg _ (List.append_nil _)

theorem chars_ofPoint (m k : ℕ) : (ofPoint m k).chars = (⟨m, .negSucc k⟩ : Decimal).plain :=
  chars_ofPoint_eq_append m k

theorem length_chars_ofPoint (m k : ℕ) :
    (ofPoint m k).chars.length = max (k + 2) (Nat.toDigits 10 m).length + 1 := by
  have hpadded : (ofPoint m k).whole ++ (ofPoint m k).fraction =
      (Nat.toDigits 10 m).leftpad (k + 2) '0' := List.take_append_drop _ _
  rw [chars_ofPoint_eq_append, ← List.length_leftpad, ← hpadded, List.length_append,
    List.length_append, List.length_cons, Nat.add_assoc]

theorem chars_ofPower (m : ℕ) (e : ℤ) :
    (ofPower m (e + ((Nat.toDigits 10 m).length - 1 : ℕ))).chars =
      (⟨m, e⟩ : Decimal).scientific := by
  obtain ⟨c, cs, h⟩ := List.exists_cons_of_ne_nil (@Nat.toDigits_ne_nil m 10)
  simp [Numeral.chars, Numeral.rest, ofPower, scientific, h]

theorem exists_numeral_plain (d : Decimal) :
    ∃ n : Numeral, n.chars = d.plain ∧ n.decimal.toRat = d.toRat := by
  obtain ⟨m, k | k⟩ := d
  · exact ⟨ofZeros m k 0, chars_ofZeros_zero m k, toRat_ofZeros m k 0⟩
  · refine ⟨ofPoint m k, chars_ofPoint m k, (toRat_ofPoint m k).trans ?_⟩
    rw [toRat, Int.negSucc_eq]

/-! ## Numerals in JSON -/

theorem isWhole_of_head? {ds : List Char} (hne : ds ≠ []) (hhead : ds.head? ≠ some '0') :
    Json.isWhole ds = true := by
  rw [Json.isWhole, decide_eq_true_iff]
  exact .inr ⟨hne, hhead⟩

theorem isWhole_ofPoint (m k : ℕ) : Json.isWhole (ofPoint m k).whole = true := by
  have hwhole : (ofPoint m k).whole =
      ((Nat.toDigits 10 m).leftpad (k + 2) '0').take
        (((Nat.toDigits 10 m).leftpad (k + 2) '0').length - (k + 1)) := rfl
  rcases Nat.lt_or_ge (k + 1) (Nat.toDigits 10 m).length with hlt | hge
  · -- There are digits enough, so the number is not zero and the first of them is not either.
    have hm : 0 < m := by
      rw [Nat.pos_iff_ne_zero]
      rintro rfl
      simp at hlt
    have hpad : (Nat.toDigits 10 m).leftpad (k + 2) '0' = Nat.toDigits 10 m := by
      rw [List.leftpad, Nat.sub_eq_zero_of_le hlt, List.replicate_zero, List.nil_append]
    refine isWhole_of_head? (ofPoint m k).whole_ne_nil ?_
    rw [hwhole, hpad, List.head?_take, if_neg (by omega)]
    exact head?_toDigits hm
  · obtain ⟨z, hz⟩ : ∃ z, k + 2 - (Nat.toDigits 10 m).length = z + 1 :=
      ⟨k + 1 - (Nat.toDigits 10 m).length, by omega⟩
    have hlen : ((Nat.toDigits 10 m).leftpad (k + 2) '0').length - (k + 1) = 1 := by
      rw [List.length_leftpad]
      omega
    rw [hwhole, hlen, List.leftpad, hz, List.replicate_succ]
    rfl

/-- A decimal in JSON is a numeral that is more than digits and has no zero in front of others. -/
theorem exists_numeral_jsonChars {d : Decimal} (hd : 0 < d.digits) :
    ∃ n : Numeral, n.chars = d.jsonChars ∧ n.decimal.toRat = d.toRat ∧
      Json.isWhole n.whole = true ∧ n.rest ≠ [] := by
  have hhead := head?_toDigits hd
  rw [jsonChars]
  split_ifs with hplain hexp
  · obtain ⟨m, k | k⟩ := d
    · refine ⟨ofZeros m k 1, chars_ofZeros_one m k, toRat_ofZeros m k 1,
        isWhole_of_head? (ofZeros m k 1).whole_ne_nil ?_, by simp [Numeral.rest, ofZeros]⟩
      rwa [ofZeros, List.head?_append_of_ne_nil _ Nat.toDigits_ne_nil]
    · exact absurd hexp (by simp)
  · obtain ⟨m, k | k⟩ := d
    · exact absurd (Int.natCast_nonneg k) hexp
    · refine ⟨ofPoint m k, ?_, (toRat_ofPoint m k).trans ?_, isWhole_ofPoint m k, ?_⟩
      · rw [List.append_nil, chars_ofPoint]
      · rw [toRat, Int.negSucc_eq]
      · simp [Numeral.rest, fraction_ofPoint_ne_nil]
  · obtain ⟨m, e⟩ := d
    refine ⟨_, chars_ofPower m e, ?_, ?_, ?_⟩
    · rw [toRat_ofPower, add_sub_cancel_right, toRat]
    · refine isWhole_of_head? (ofPower m _).whole_ne_nil ?_
      rwa [ofPower, List.head?_take, if_neg one_ne_zero]
    · simp [Numeral.rest, ofPower]

end Decimal

end TwoSpirals
