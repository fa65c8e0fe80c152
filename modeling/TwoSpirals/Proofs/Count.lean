import Mathlib
import TwoSpirals.Count

/-!
# Which characters write a count

`Writes` is the grammar of counts, and `Fails` says for each error which characters have it: the
digits in front decide whether a number is too large, and only if they are not, whether anything but
digits is there.  `positive` accepts what `Writes` a count above zero and below the limit, and fails
with the one error that `Fails` names (`positive_eq_ok_iff`, `positive_eq_error_iff`).
-/

namespace TwoSpirals.Count

/-! ## The grammar -/

/-- The characters are an optional `+` and one or more digits of the value `n`. -/
def Writes (cs : List Char) (n : Nat) : Prop :=
  ∃ ds, (cs = ds ∨ cs = '+' :: ds) ∧ ds ≠ [] ∧ (∀ c ∈ ds, c.isDigit = true) ∧
    Nat.ofDigitChars 10 ds 0 = n

/-- What stands behind the sign, where there is one. -/
def unsigned : List Char → List Char
  | '+' :: ds => ds
  | ds => ds

/-- The value of the digits in front of all else but the sign. -/
def leading (cs : List Char) : Nat := Nat.ofDigitChars 10 ((unsigned cs).takeWhile Char.isDigit) 0

/-- What is wrong with characters that write no count above zero and below the limit. -/
def Fails (cs : List Char) : Error → Prop
  | .empty => cs = []
  | .tooLarge => 2 ^ 64 ≤ leading cs
  | .invalidDigit => cs ≠ [] ∧ leading cs < 2 ^ 64 ∧
      (unsigned cs = [] ∨ ∃ c ∈ unsigned cs, c.isDigit = false)
  | .zero => Writes cs 0

/-! ## Digits -/

theorem le_ofDigitChars (ds : List Char) (n : Nat) : n ≤ Nat.ofDigitChars 10 ds n := by
  induction ds generalizing n with
  | nil => exact Nat.le_refl n
  | cons c ds ih =>
    rw [Nat.ofDigitChars_cons]
    exact Nat.le_trans (by omega) (ih _)

/-- The digits in front are pushed before anything else is seen. -/
theorem foldlM_push (ds : List Char) (n : Nat) (hn : n < limit) :
    ds.foldlM push n =
      if limit ≤ Nat.ofDigitChars 10 (ds.takeWhile Char.isDigit) n then .error .tooLarge
      else if ∀ c ∈ ds, c.isDigit = true then .ok (Nat.ofDigitChars 10 ds n)
      else .error .invalidDigit := by
  induction ds generalizing n with
  | nil =>
    rw [List.takeWhile_nil, Nat.ofDigitChars_nil, if_neg (Nat.not_le.2 hn), if_pos (by simp)]
    rfl
  | cons c ds ih =>
    rw [List.foldlM_cons]
    by_cases hc : c.isDigit = true
    · rw [List.takeWhile_cons_of_pos hc, Nat.ofDigitChars_cons, Nat.ofDigitChars_cons]
      have hall : (∀ x ∈ c :: ds, x.isDigit = true) ↔ ∀ x ∈ ds, x.isDigit = true := by simp [hc]
      by_cases hlt : 10 * n + (c.toNat - '0'.toNat) < limit
      · have hpush : push n c = .ok (10 * n + (c.toNat - '0'.toNat)) := by
          rw [push, if_pos hc]
          exact if_pos hlt
        rw [hpush]
        simp only [hall]
        exact ih _ hlt
      · have hpush : push n c = .error .tooLarge := by
          rw [push, if_pos hc]
          exact if_neg hlt
        rw [hpush, if_pos (Nat.le_trans (Nat.not_lt.1 hlt) (le_ofDigitChars _ _))]
        rfl
    · have hpush : push n c = .error .invalidDigit := by rw [push, if_neg hc]
      rw [hpush, List.takeWhile_cons_of_neg hc, Nat.ofDigitChars_nil, if_neg (Nat.not_le.2 hn),
        if_neg (by simp [hc])]
      rfl

theorem ofDigits_eq (ds : List Char) :
    ofDigits ds =
      if limit ≤ Nat.ofDigitChars 10 (ds.takeWhile Char.isDigit) 0 then .error .tooLarge
      else if ds ≠ [] ∧ ∀ c ∈ ds, c.isDigit = true then .ok (Nat.ofDigitChars 10 ds 0)
      else .error .invalidDigit := by
  cases ds with
  | nil => rfl
  | cons c ds =>
    simp only [ne_eq, reduceCtorEq, not_false_eq_true, true_and]
    exact foldlM_push (c :: ds) 0 (by decide)

theorem ofChars_of_ne_nil {cs : List Char} (h : cs ≠ []) : ofChars cs = ofDigits (unsigned cs) := by
  unfold ofChars unsigned
  split <;> simp_all

/-! ## What is read -/

variable {cs : List Char}

theorem writes_iff {n : Nat} :
    Writes cs n ↔ (unsigned cs ≠ [] ∧ ∀ c ∈ unsigned cs, c.isDigit = true) ∧
      Nat.ofDigitChars 10 (unsigned cs) 0 = n := by
  constructor
  · rintro ⟨ds, rfl | rfl, hne, hds, hn⟩
    · have hunsigned : unsigned cs = cs := by
        unfold unsigned
        split
        · exact absurd (hds '+' List.mem_cons_self) (by decide)
        · rfl
      rw [hunsigned]
      exact ⟨⟨hne, hds⟩, hn⟩
    · exact ⟨⟨hne, hds⟩, hn⟩
  · rintro ⟨⟨hne, hds⟩, hn⟩
    refine ⟨unsigned cs, ?_, hne, hds, hn⟩
    unfold unsigned
    split
    · exact .inr rfl
    · exact .inl rfl

theorem Writes.leading_eq {n : Nat} (h : Writes cs n) : leading cs = n := by
  obtain ⟨⟨-, hds⟩, hn⟩ := writes_iff.1 h
  rw [leading, List.takeWhile_eq_self_iff.2 hds, hn]

theorem not_writes_nil {n : Nat} : ¬ Writes [] n := fun h => (writes_iff.1 h).1.1 rfl

theorem ofChars_of_writes {n : Nat} (h : Writes cs n) (hn : n < limit) : ofChars cs = .ok n := by
  obtain ⟨hds, hvalue⟩ := writes_iff.1 h
  have hne : cs ≠ [] := by
    rintro rfl
    exact not_writes_nil h
  have hsmall : ¬ limit ≤ leading cs := by
    rw [h.leading_eq]
    exact Nat.not_le.2 hn
  rw [ofChars_of_ne_nil hne, ofDigits_eq, ← leading, if_neg hsmall, if_pos hds, hvalue]

theorem ofChars_eq_ok_iff {n : Nat} : ofChars cs = .ok n ↔ Writes cs n ∧ n < limit := by
  refine ⟨fun h => ?_, fun ⟨hwrites, hn⟩ => ofChars_of_writes hwrites hn⟩
  have hne : cs ≠ [] := by
    rintro rfl
    exact nomatch h
  rw [ofChars_of_ne_nil hne, ofDigits_eq, ← leading] at h
  split_ifs at h with hlarge hds
  have hwrites : Writes cs n := writes_iff.2 ⟨hds, Except.ok.inj h⟩
  exact ⟨hwrites, Nat.not_le.1 (hwrites.leading_eq ▸ hlarge)⟩

theorem positive_of_writes {n : { n : Nat // 0 < n }} (h : Writes cs n) (hn : n < limit) :
    positive cs = .ok n := by
  rw [positive, ofChars_of_writes h hn]
  exact dif_pos n.2

theorem positive_of_fails {e : Error} (h : Fails cs e) : positive cs = .error e := by
  cases e with
  | empty =>
    obtain rfl : cs = [] := h
    rfl
  | tooLarge =>
    have hlarge : limit ≤ leading cs := h
    have hne : cs ≠ [] := by
      rintro rfl
      exact absurd hlarge (by decide)
    rw [positive, ofChars_of_ne_nil hne, ofDigits_eq, ← leading, if_pos hlarge]
    rfl
  | invalidDigit =>
    obtain ⟨hne, hsmall, hds⟩ := h
    have hsmall : ¬ limit ≤ leading cs := Nat.not_le.2 hsmall
    have hds' : ¬ (unsigned cs ≠ [] ∧ ∀ c ∈ unsigned cs, c.isDigit = true) := by
      rintro ⟨hnil, hall⟩
      rcases hds with hds | ⟨c, hc, hdigit⟩
      · exact hnil hds
      · exact absurd (hall c hc) (by rw [hdigit]; exact Bool.false_ne_true)
    rw [positive, ofChars_of_ne_nil hne, ofDigits_eq, ← leading, if_neg hsmall, if_neg hds']
    rfl
  | zero =>
    rw [positive, ofChars_of_writes h (by decide)]
    rfl

/-- Characters write a count that can be had, or they have one of the errors. -/
theorem writes_or_fails (cs : List Char) :
    (∃ n : { n : Nat // 0 < n }, Writes cs n ∧ n < limit) ∨ ∃ e, Fails cs e := by
  by_cases hnil : cs = []
  · exact .inr ⟨.empty, hnil⟩
  by_cases hlarge : limit ≤ leading cs
  · exact .inr ⟨.tooLarge, hlarge⟩
  by_cases hds : unsigned cs ≠ [] ∧ ∀ c ∈ unsigned cs, c.isDigit = true
  · obtain ⟨n, hwrites⟩ : ∃ n, Writes cs n := ⟨_, writes_iff.2 ⟨hds, rfl⟩⟩
    rcases Nat.eq_zero_or_pos n with rfl | hpos
    · exact .inr ⟨.zero, hwrites⟩
    · exact .inl ⟨⟨n, hpos⟩, hwrites, Nat.not_le.1 (hwrites.leading_eq ▸ hlarge)⟩
  · refine .inr ⟨.invalidDigit, hnil, Nat.not_le.1 hlarge, ?_⟩
    rw [ne_eq, not_and_or, not_not] at hds
    exact hds.imp_right fun h => by simpa using h

theorem positive_eq_ok_iff {n : { n : Nat // 0 < n }} :
    positive cs = .ok n ↔ Writes cs n ∧ n < limit := by
  refine ⟨fun h => ?_, fun ⟨hwrites, hn⟩ => positive_of_writes hwrites hn⟩
  rcases writes_or_fails cs with ⟨k, hwrites, hk⟩ | ⟨e, hfails⟩
  · obtain rfl := Except.ok.inj ((positive_of_writes hwrites hk).symm.trans h)
    exact ⟨hwrites, hk⟩
  · exact nomatch (positive_of_fails hfails).symm.trans h

theorem positive_eq_error_iff {e : Error} : positive cs = .error e ↔ Fails cs e := by
  refine ⟨fun h => ?_, positive_of_fails⟩
  rcases writes_or_fails cs with ⟨k, hwrites, hk⟩ | ⟨e', hfails⟩
  · exact nomatch (positive_of_writes hwrites hk).symm.trans h
  · obtain rfl := Except.error.inj ((positive_of_fails hfails).symm.trans h)
    exact hfails

end TwoSpirals.Count
