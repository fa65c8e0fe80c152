import Mathlib.Data.Int.Notation
import Mathlib.Data.List.TakeWhile
import Mathlib.Tactic.SplitIfs
import TwoSpirals.Single.Reader

/-!
# Which characters write a number

`Writes` is the grammar of single-precision literals: a sign or none, and then a name or a decimal,
which has one digit at least and may have a point among its digits and a power of ten behind them.
The reader takes the literals and nothing else (`ofChars?_eq_some_iff`).
-/

namespace TwoSpirals

/-! ## Runs of characters -/

section

variable {ds rest : List Char}

theorem takeWhile_append_of_head? {p : Char → Bool} (hds : ∀ c ∈ ds, p c = true)
    (hrest : ∀ c ∈ rest.head?, p c = false) : (ds ++ rest).takeWhile p = ds := by
  rw [List.takeWhile_append_of_pos hds]
  cases rest with
  | nil => simp
  | cons c cs => simp [hrest c rfl]

theorem dropWhile_append_of_head? {p : Char → Bool} (hds : ∀ c ∈ ds, p c = true)
    (hrest : ∀ c ∈ rest.head?, p c = false) : (ds ++ rest).dropWhile p = rest := by
  rw [List.dropWhile_append_of_pos hds]
  cases rest with
  | nil => simp
  | cons c cs => simp [hrest c rfl]

end

namespace Single

theorem spanDigits_append {ds rest : List Char} (hds : ∀ c ∈ ds, c.isDigit = true)
    (hrest : ∀ c ∈ rest.head?, c.isDigit = false) : spanDigits (ds ++ rest) = (ds, rest) := by
  rw [spanDigits, takeWhile_append_of_head? hds hrest, dropWhile_append_of_head? hds hrest]

/-! ## The grammar -/

/-- One or more digits. -/
def IsDigits (ds : List Char) : Prop := ds ≠ [] ∧ ∀ c ∈ ds, c.isDigit = true

/-- A power of ten at the end of a literal, or nothing. -/
inductive WritesPower : List Char → ℤ → Prop
  | nil : WritesPower [] 0
  | unsigned {e : Char} {ds : List Char} (he : e = 'e' ∨ e = 'E') (hds : IsDigits ds) :
      WritesPower (e :: ds) (digitsValue ds)
  | plus {e : Char} {ds : List Char} (he : e = 'e' ∨ e = 'E') (hds : IsDigits ds) :
      WritesPower (e :: '+' :: ds) (digitsValue ds)
  | minus {e : Char} {ds : List Char} (he : e = 'e' ∨ e = 'E') (hds : IsDigits ds) :
      WritesPower (e :: '-' :: ds) (-digitsValue ds)

/-- Digits, with a point somewhere or without one. -/
inductive WritesDecimal : List Char → Decimal → Prop
  | whole {ds tail : List Char} {p : ℤ} (hds : IsDigits ds) (hp : WritesPower tail p) :
      WritesDecimal (ds ++ tail) ⟨digitsValue ds, p⟩
  | point {whole fraction tail : List Char} {p : ℤ} (hds : IsDigits (whole ++ fraction))
      (hp : WritesPower tail p) :
      WritesDecimal (whole ++ '.' :: (fraction ++ tail))
        ⟨digitsValue (whole ++ fraction), p - fraction.length⟩

/-- A literal without a sign.  The names are in letters of either case. -/
inductive WritesMagnitude (cs : List Char) : Float32 → Prop
  | decimal {d : Decimal} (h : WritesDecimal cs d) : WritesMagnitude cs (ofDecimal d)
  | infinity (h : cs.map Char.toLower = "inf".toList ∨ cs.map Char.toLower = "infinity".toList) :
      WritesMagnitude cs infinity
  | nan (h : cs.map Char.toLower = "nan".toList) : WritesMagnitude cs nan

/-- A literal. -/
inductive Writes : List Char → Float32 → Prop
  | unsigned {cs : List Char} {x : Float32} (h : WritesMagnitude cs x) : Writes cs x
  | plus {cs : List Char} {x : Float32} (h : WritesMagnitude cs x) : Writes ('+' :: cs) x
  | minus {cs : List Char} {x : Float32} (h : WritesMagnitude cs x) : Writes ('-' :: cs) (-x)

/-! ## Powers of ten -/

theorem digits?_eq_some_iff {ds : List Char} {n : ℕ} :
    exponent?.digits? ds = some n ↔ IsDigits ds ∧ digitsValue ds = n := by
  rw [exponent?.digits?]
  split_ifs with h
  · have hds : IsDigits ds := ⟨h.1, List.all_eq_true.1 h.2⟩
    rw [Option.some.injEq, and_iff_right hds]
  · exact iff_of_false (by simp) fun h' => h ⟨h'.1.1, List.all_eq_true.2 h'.1.2⟩

section

variable {e : Char} (he : e = 'e' ∨ e = 'E')

include he

theorem exponent?_minus (ds : List Char) :
    exponent? (e :: '-' :: ds) = (exponent?.digits? ds).map fun n : ℕ => -(n : ℤ) := by
  rw [exponent?, if_pos he]
  show Option.map _ _ = _
  cases exponent?.digits? ds <;> rfl

theorem exponent?_plus (ds : List Char) :
    exponent? (e :: '+' :: ds) = (exponent?.digits? ds).map fun n : ℕ => (n : ℤ) := by
  rw [exponent?, if_pos he]
  show Option.map _ _ = _
  cases exponent?.digits? ds <;> rfl

theorem exponent?_unsigned {ds : List Char} (hminus : ds.head? ≠ some '-')
    (hplus : ds.head? ≠ some '+') :
    exponent? (e :: ds) = (exponent?.digits? ds).map fun n : ℕ => (n : ℤ) := by
  unfold exponent?
  dsimp only
  rw [if_pos he]
  split
  next => exact absurd rfl hminus
  next => exact absurd rfl hplus
  next => cases exponent?.digits? ds <;> rfl

end

theorem head?_ne_of_isDigit {d : Char} {ds : List Char} (hds : ∀ c ∈ ds, c.isDigit = true)
    (hd : d.isDigit = false) : ds.head? ≠ some d := fun h =>
  absurd (hds d (List.mem_of_mem_head? h)) (by rw [hd]; decide)

theorem WritesPower.exponent?_eq {cs : List Char} {p : ℤ} (h : WritesPower cs p) :
    exponent? cs = some p := by
  cases h with
  | nil => rfl
  | unsigned he hds =>
    rw [exponent?_unsigned he (head?_ne_of_isDigit hds.2 (by decide))
      (head?_ne_of_isDigit hds.2 (by decide)), digits?_eq_some_iff.2 ⟨hds, rfl⟩, Option.map_some]
  | plus he hds => rw [exponent?_plus he, digits?_eq_some_iff.2 ⟨hds, rfl⟩, Option.map_some]
  | minus he hds => rw [exponent?_minus he, digits?_eq_some_iff.2 ⟨hds, rfl⟩, Option.map_some]

theorem writesPower_of_exponent? {cs : List Char} {p : ℤ} (h : exponent? cs = some p) :
    WritesPower cs p := by
  have hdigits : ∀ {f : ℕ → ℤ} {ds : List Char}, (exponent?.digits? ds).map f = some p →
      IsDigits ds ∧ f (digitsValue ds) = p := by
    intro f ds h
    obtain ⟨n, hn, hp⟩ := Option.map_eq_some_iff.1 h
    obtain ⟨hds, rfl⟩ := digits?_eq_some_iff.1 hn
    exact ⟨hds, hp⟩
  cases cs with
  | nil =>
    obtain rfl := Option.some.inj h
    exact .nil
  | cons e ds =>
    have he : e = 'e' ∨ e = 'E' := by
      by_contra hne
      unfold exponent? at h
      dsimp only at h
      rw [if_neg hne] at h
      exact nomatch h
    by_cases hminus : ds.head? = some '-'
    · obtain ⟨ds, rfl⟩ := List.head?_eq_some_iff.1 hminus
      rw [exponent?_minus he] at h
      obtain ⟨hds, rfl⟩ := hdigits h
      exact .minus he hds
    by_cases hplus : ds.head? = some '+'
    · obtain ⟨ds, rfl⟩ := List.head?_eq_some_iff.1 hplus
      rw [exponent?_plus he] at h
      obtain ⟨hds, rfl⟩ := hdigits h
      exact .plus he hds
    · rw [exponent?_unsigned he hminus hplus] at h
      obtain ⟨hds, rfl⟩ := hdigits h
      exact .unsigned he hds

/-! ## Decimals -/

theorem WritesPower.of_mem_head? {cs : List Char} {p : ℤ} (h : WritesPower cs p) {c : Char}
    (hc : c ∈ cs.head?) : c.isDigit = false ∧ c ≠ '.' := by
  have hletter : ∀ {e : Char}, e = 'e' ∨ e = 'E' → e.isDigit = false ∧ e ≠ '.' := by
    rintro e (rfl | rfl) <;> decide
  cases h with
  | nil => exact nomatch hc
  | unsigned he | plus he | minus he =>
    obtain rfl := Option.some.inj hc
    exact hletter he

theorem WritesDecimal.decimal?_eq {cs : List Char} {d : Decimal} (h : WritesDecimal cs d) :
    decimal? cs = some d := by
  cases h with
  | @whole ds tail p hds hp =>
    have hspan := spanDigits_append hds.2 fun c hc => (hp.of_mem_head? hc).1
    unfold decimal?
    rw [hspan]
    dsimp only
    split
    next rest => exact absurd rfl (hp.of_mem_head? rfl).2
    next =>
      rw [if_neg fun h => hds.1 h.1, hp.exponent?_eq]
      simp
  | @point whole fraction tail p hds hp =>
    have hne : ¬ (whole = [] ∧ fraction = []) := fun h => hds.1 (by rw [h.1, h.2]; rfl)
    have hwhole : spanDigits (whole ++ '.' :: (fraction ++ tail)) =
        (whole, '.' :: (fraction ++ tail)) :=
      spanDigits_append (fun c hc => hds.2 c (List.mem_append_left _ hc)) (by simp)
    have hfraction : spanDigits (fraction ++ tail) = (fraction, tail) :=
      spanDigits_append (fun c hc => hds.2 c (List.mem_append_right _ hc))
        fun c hc => (hp.of_mem_head? hc).1
    unfold decimal?
    rw [hwhole]
    show (if whole = [] ∧ (spanDigits (fraction ++ tail)).1 = [] then none else _) = _
    simp only [hfraction]
    rw [if_neg hne, hp.exponent?_eq]
    rfl

theorem exists_spanDigits_eq (cs : List Char) :
    ∃ ds rest, cs = ds ++ rest ∧ spanDigits cs = (ds, rest) ∧ ∀ c ∈ ds, c.isDigit = true :=
  ⟨_, _, List.takeWhile_append_dropWhile.symm, rfl, fun _ => List.mem_takeWhile_imp⟩

theorem writesDecimal_of_decimal? {cs : List Char} {d : Decimal} (h : decimal? cs = some d) :
    WritesDecimal cs d := by
  obtain ⟨whole, rest, rfl, hspan, hwhole⟩ := exists_spanDigits_eq cs
  unfold decimal? at h
  rw [hspan] at h
  dsimp only at h
  split at h
  next rest =>
    obtain ⟨fraction, tail, rfl, hspan', hfraction⟩ := exists_spanDigits_eq rest
    rw [hspan'] at h
    split_ifs at h with hnil
    obtain ⟨p, hp, rfl⟩ := Option.map_eq_some_iff.1 h
    refine .point ⟨?_, ?_⟩ (writesPower_of_exponent? hp)
    · rwa [ne_eq, List.append_eq_nil_iff]
    · exact fun c hc => (List.mem_append.1 hc).elim (hwhole c) (hfraction c)
  next =>
    split_ifs at h with hnil
    obtain ⟨p, hp, rfl⟩ := Option.map_eq_some_iff.1 h
    have hds : IsDigits whole := ⟨fun h => hnil ⟨h, rfl⟩, hwhole⟩
    simpa using WritesDecimal.whole hds (writesPower_of_exponent? hp)

theorem decimal?_eq_some_iff {cs : List Char} {d : Decimal} :
    decimal? cs = some d ↔ WritesDecimal cs d :=
  ⟨writesDecimal_of_decimal?, WritesDecimal.decimal?_eq⟩

/-! ## Literals -/

theorem decimal?_cons_of_not_isDigit {c : Char} (hdigit : c.isDigit = false) (hpoint : c ≠ '.')
    (cs : List Char) : decimal? (c :: cs) = none := by
  have hspan : spanDigits (c :: cs) = ([], c :: cs) := by
    rw [spanDigits, List.takeWhile_cons_of_neg (by simp [hdigit]),
      List.dropWhile_cons_of_neg (by simp [hdigit])]
  unfold decimal?
  rw [hspan]
  dsimp only
  split
  next h => exact absurd (List.cons.inj h).1 hpoint
  next => exact if_pos ⟨rfl, rfl⟩

theorem toLower_of_isDigit {c : Char} (h : c.isDigit = true) : c.toLower = c := by
  have hle : c.val ≤ '9'.val := of_decide_eq_true (Bool.and_eq_true_iff.1 h).2
  refine dif_neg fun hupper => ?_
  have hlt : 'A'.val ≤ '9'.val := UInt32.le_trans hupper.1 hle
  exact absurd hlt (by decide)

/-- A name is no decimal, in letters of either case. -/
theorem decimal?_of_map_toLower {cs name : List Char} {c : Char}
    (h : cs.map Char.toLower = c :: name) (hdigit : c.isDigit = false) (hpoint : c ≠ '.') :
    decimal? cs = none := by
  obtain ⟨d, ds, rfl, rfl, -⟩ := List.map_eq_cons_iff.1 h
  refine decimal?_cons_of_not_isDigit ?_ ?_ ds
  · rw [Bool.eq_false_iff]
    intro hd
    rw [toLower_of_isDigit hd, hd] at hdigit
    exact Bool.false_ne_true hdigit.symm
  · rintro rfl
    exact hpoint rfl

theorem magnitude?_eq_some_iff {cs : List Char} {x : Float32} :
    magnitude? cs = some x ↔ WritesMagnitude cs x := by
  constructor
  · intro h
    unfold magnitude? at h
    split at h
    next d hd =>
      obtain rfl := Option.some.inj h
      exact .decimal (decimal?_eq_some_iff.1 hd)
    next =>
      split at h
      next hname =>
        obtain rfl := Option.some.inj h
        exact .infinity (.inl hname)
      next hname =>
        obtain rfl := Option.some.inj h
        exact .infinity (.inr hname)
      next hname =>
        obtain rfl := Option.some.inj h
        exact .nan hname
      next => exact nomatch h
  · intro h
    cases h with
    | decimal hd => rw [magnitude?, decimal?_eq_some_iff.2 hd]
    | infinity hname =>
      rcases hname with hname | hname <;>
        rw [magnitude?, decimal?_of_map_toLower (c := 'i') hname (by decide) (by decide), hname] <;>
        rfl
    | nan hname =>
      rw [magnitude?, decimal?_of_map_toLower (c := 'n') hname (by decide) (by decide), hname]
      rfl

/-- A literal without a sign does not start with one. -/
theorem not_writesMagnitude_of_sign {c : Char} (hc : c = '-' ∨ c = '+') (cs : List Char)
    (x : Float32) : ¬ WritesMagnitude (c :: cs) x := by
  rw [← magnitude?_eq_some_iff]
  rcases hc with rfl | rfl <;>
    rw [magnitude?, decimal?_cons_of_not_isDigit (by decide) (by decide)] <;>
    exact Option.some_ne_none _ ∘ Eq.symm

/-- The reader takes the literals and gives their numbers. -/
theorem ofChars?_eq_some_iff {cs : List Char} {x : Float32} :
    ofChars? cs = some x ↔ Writes cs x := by
  constructor
  · intro h
    unfold ofChars? at h
    split at h
    next cs =>
      obtain ⟨y, hy, rfl⟩ := Option.map_eq_some_iff.1 h
      exact .minus (magnitude?_eq_some_iff.1 hy)
    next => exact .plus (magnitude?_eq_some_iff.1 h)
    next => exact .unsigned (magnitude?_eq_some_iff.1 h)
  · intro h
    cases h with
    | plus h => exact magnitude?_eq_some_iff.2 h
    | @minus cs x h =>
      show (magnitude? cs).map _ = _
      rw [magnitude?_eq_some_iff.2 h]
      rfl
    | unsigned h =>
      unfold ofChars?
      split
      next => exact absurd h (not_writesMagnitude_of_sign (.inl rfl) _ _)
      next => exact absurd h (not_writesMagnitude_of_sign (.inr rfl) _ _)
      next => exact magnitude?_eq_some_iff.2 h

end Single

end TwoSpirals
