import TwoSpirals.Proofs.Decimal
import TwoSpirals.Proofs.SignBit
import TwoSpirals.Proofs.Single.Shortest
import TwoSpirals.Single.Text

/-!
# Numbers through text and back

`Single.chars` writes a text from which `Single.ofChars?` reads the same number, bit for bit
(`ofChars?_chars`): the shortest digits are those of a decimal in the rounding interval.
-/

namespace TwoSpirals.Single

open Float.Model (UnpackedFloat)
open Float.Model.UnpackedFloat

/-! ## Signs -/

/-- The number with a sign before it. -/
def withSign : Sign → Float32 → Float32
  | .positive, x => x
  | .negative, x => -x

theorem withSign_zero (s : Sign) :
    withSign s (.ofModel (.pack (.zero .positive))) = .ofModel (.pack (.zero s)) := by
  cases s with
  | positive => rfl
  | negative => exact neg_ofModel_pack _

theorem withSign_infinity (s : Sign) :
    withSign s (.ofModel (.pack (.infinity .positive))) = .ofModel (.pack (.infinity s)) := by
  cases s with
  | positive => rfl
  | negative => exact neg_ofModel_pack _

theorem withSign_finite (s : Sign) {m : ℕ} {e : ℤ} (h : Canonical m e) :
    withSign s (.ofModel (.pack (.finite .positive m e h.pos))) =
      .ofModel (.pack (.finite s m e h.pos)) := by
  cases s with
  | positive => rfl
  | negative => exact neg_ofModel_pack _

/-- What follows a sign is not a sign itself. -/
theorem ofChars?_signText (s : Sign) {c : Char} (hminus : c ≠ '-') (hplus : c ≠ '+')
    (cs : List Char) :
    ofChars? (signText s ++ c :: cs) = (magnitude? (c :: cs)).map (withSign s) := by
  cases s with
  | negative => rfl
  | positive =>
    show ofChars? (c :: cs) = _
    unfold ofChars?
    split
    next h => exact absurd (List.cons.inj h).1 hminus
    next h => exact absurd (List.cons.inj h).1 hplus
    next => cases magnitude? (c :: cs) <;> rfl

theorem not_mem_signText {c : Char} (hc : c ≠ '-') (s : Sign) : c ∉ signText s := by
  cases s with
  | positive => exact List.not_mem_nil
  | negative => exact mt List.mem_singleton.1 hc

/-! ## Numerals -/

theorem magnitude?_chars (n : Numeral) : magnitude? n.chars = some (ofDecimal n.decimal) := by
  rw [magnitude?, n.decimal?_chars]

theorem ofChars?_signText_chars (s : Sign) (n : Numeral) :
    ofChars? (signText s ++ n.chars) = some (withSign s (ofDecimal n.decimal)) := by
  obtain ⟨c, cs, h, hc⟩ := n.exists_chars_eq_cons
  have hmag := magnitude?_chars n
  rw [h] at hmag ⊢
  rw [ofChars?_signText s (fun e => absurd hc (by rw [e]; decide))
    (fun e => absurd hc (by rw [e]; decide)), hmag, Option.map_some]

/-- A numeral with the value of the shortest decimal reads as the number. -/
theorem ofDecimal_of_toRat_eq {m : ℕ} {e : ℤ} {d : Decimal} (h : Canonical m e)
    (hd : d.toRat = (shortest m e).toRat) :
    ofDecimal d = .ofModel (.pack (.finite .positive m e h.pos)) :=
  ofDecimal_of_contains h (hd ▸ RoundingInterval.contains_shortest h)

theorem magnitude?_inf :
    magnitude? ['i', 'n', 'f'] = some (.ofModel (.pack (.infinity .positive))) := rfl

theorem magnitude?_zero : magnitude? ['0'] = some (.ofModel (.pack (.zero .positive))) := rfl

/-- A number is read back from its text as it was. -/
theorem ofChars?_chars (x : Float32) : ofChars? (chars x) = some x := by
  rw [chars]
  split
  next h =>
    rw [eq_ofModel_pack h]
    rfl
  next s h =>
    rw [ofChars?_signText s (by decide) (by decide), magnitude?_inf, Option.map_some,
      withSign_infinity, eq_ofModel_pack h]
  next s h =>
    rw [ofChars?_signText s (by decide) (by decide), magnitude?_zero, Option.map_some,
      withSign_zero, eq_ofModel_pack h]
  next s m e hm h =>
    obtain ⟨n, hn, hval⟩ := (shortest m e).exists_numeral_plain
    have hc : Canonical m e := canonical_of_unpack h
    rw [← hn, ofChars?_signText_chars, ofDecimal_of_toRat_eq hc hval, withSign_finite s hc,
      eq_ofModel_pack h]

theorem chars_injective : Function.Injective chars := by
  intro x y h
  have hx := ofChars?_chars x
  rw [h, ofChars?_chars] at hx
  exact (Option.some.inj hx).symm

/-- A number is written with the characters of numerals and with those of `NaN` and `inf`. -/
theorem not_mem_chars {c : Char} (hnumeric : Json.isNumeric c = false)
    (hname : c ∉ ['N', 'a', 'i', 'n', 'f']) (x : Float32) : c ∉ chars x := by
  have hne : ∀ {d : Char}, Json.isNumeric d = true → c ≠ d := by
    rintro d hd rfl
    exact absurd hd (by rw [hnumeric]; decide)
  have hsign : ∀ s {cs : List Char}, c ∉ cs → c ∉ signText s ++ cs := by
    intro s cs hcs
    rw [List.mem_append, not_or]
    exact ⟨not_mem_signText (hne rfl) s, hcs⟩
  simp only [List.mem_cons, List.not_mem_nil, or_false, not_or] at hname
  rw [chars]
  split
  next => simp [hname]
  next s _ => exact hsign s (by simp [hname])
  next s _ => exact hsign s (mt List.mem_singleton.1 (hne rfl))
  next s m e hm _ =>
    obtain ⟨n, hn, -⟩ := (shortest m e).exists_numeral_plain
    exact hsign s fun hc => hne (n.isNumeric_of_mem_chars (hn ▸ hc)) rfl

end TwoSpirals.Single
