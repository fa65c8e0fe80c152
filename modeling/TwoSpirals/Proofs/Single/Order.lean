import Mathlib.Data.Prod.Lex
import TwoSpirals.Single.Order

/-!
# Single-precision numbers in a linear order

Every number but `NaN` has a `rank?` in a linear order: its side of zero first, then its exponent
and then its mantissa, the last two turned round for the negative numbers.  `<` and `≤` compare
ranks (`lt_iff_rank?`, `le_iff_rank?`), so they chain as the comparisons of a linear order do.  The
two zeros share a rank, so that no comparison tells them apart (`UpToZeroSign.lt_iff`).
-/

namespace TwoSpirals.Single

open Float.Model (UnpackedFloat)

/-! ## Ranks -/

/-- The side of zero, which an infinity is farther out on, the exponent and the mantissa. -/
abbrev Rank := ℤ ×ₗ ℤ ×ₗ ℤ

/-- The place of a decoded number among the others.  The two zeros share theirs. -/
def unpackedRank? : UnpackedFloat → Option Rank
  | .notANumber => none
  | .infinity .negative => some (toLex (-2, toLex (0, 0)))
  | .finite .negative m e _ => some (toLex (-1, toLex (-e, -m)))
  | .zero _ => some (toLex (0, toLex (0, 0)))
  | .finite .positive m e _ => some (toLex (1, toLex (e, m)))
  | .infinity .positive => some (toLex (2, toLex (0, 0)))

/-- The place of a number among the others. -/
def rank? (x : Float32) : Option Rank := unpackedRank? x.toModel.unpack

theorem compare_neg (a b : ℤ) : compare (-a) (-b) = (compare a b).swap := by
  rcases lt_trichotomy a b with h | rfl | h
  · rw [compare_lt_iff_lt.2 h, compare_gt_iff_gt.2 (Int.neg_lt_neg h)]
    rfl
  · rw [compare_eq_iff_eq.2 rfl, compare_eq_iff_eq.2 rfl]
    rfl
  · rw [compare_gt_iff_gt.2 h, compare_lt_iff_lt.2 (Int.neg_lt_neg h)]
    rfl

theorem compare_cast (m n : ℕ) : compare (m : ℤ) (n : ℤ) = compare m n := by
  rcases lt_trichotomy m n with h | rfl | h
  · rw [compare_lt_iff_lt.2 h, compare_lt_iff_lt.2 (Int.ofNat_lt.2 h)]
  · rw [compare_eq_iff_eq.2 rfl, compare_eq_iff_eq.2 rfl]
  · rw [compare_gt_iff_gt.2 h, compare_gt_iff_gt.2 (Int.ofNat_lt.2 h)]

theorem compare_eq_compare_rank (u v : UnpackedFloat) :
    u.compare v = (unpackedRank? u).bind fun a => (unpackedRank? v).map (compare a) := by
  rcases u with ⟨_ | _⟩ | _ | _ | ⟨_ | _, m, e, _⟩ <;>
    rcases v with ⟨_ | _⟩ | _ | _ | ⟨_ | _, m', e', _⟩ <;> try rfl
  -- What is left is two numbers of one sign.
  · show some ((compare e e').then (compare m m')).swap =
      some ((compare (-e) (-e')).then (compare (-(m : ℤ)) (-(m' : ℤ))))
    rw [compare_neg, compare_neg, compare_cast, Ordering.swap_then]
  · show some ((compare e e').then (compare m m')) =
      some ((compare e e').then (compare (m : ℤ) (m' : ℤ)))
    rw [compare_cast]

theorem compare_eq_some_iff {u v : UnpackedFloat} {o : Ordering} :
    u.compare v = some o ↔ ∃ a ∈ unpackedRank? u, ∃ b ∈ unpackedRank? v, compare a b = o := by
  rw [compare_eq_compare_rank, Option.bind_eq_some_iff]
  simp only [Option.map_eq_some_iff, Option.mem_def]

theorem lt_iff_rank? {x y : Float32} : x < y ↔ ∃ a ∈ rank? x, ∃ b ∈ rank? y, a < b := by
  rw [lt_iff, UnpackedFloat.lt, beq_iff_eq, compare_eq_some_iff]
  simp only [compare_lt_iff_lt]
  rfl

theorem unpacked_le_iff_rank? {u v : UnpackedFloat} :
    u.le v = true ↔ ∃ a ∈ unpackedRank? u, ∃ b ∈ unpackedRank? v, a ≤ b := by
  rw [UnpackedFloat.le, Option.any_eq_true]
  constructor
  · rintro ⟨o, ho, hle⟩
    obtain ⟨a, ha, b, hb, rfl⟩ := compare_eq_some_iff.1 ho
    exact ⟨a, ha, b, hb, compare_le_iff_le.1 (Ordering.ne_gt_iff_isLE.2 hle)⟩
  · rintro ⟨a, ha, b, hb, hab⟩
    exact ⟨_, compare_eq_some_iff.2 ⟨a, ha, b, hb, rfl⟩,
      Ordering.ne_gt_iff_isLE.1 (compare_le_iff_le.2 hab)⟩

theorem le_iff_rank? {x y : Float32} : x ≤ y ↔ ∃ a ∈ rank? x, ∃ b ∈ rank? y, a ≤ b :=
  le_iff.trans unpacked_le_iff_rank?

/-! ## Chains -/

variable {x y z : Float32}

/-- Two numbers with a rank compare as their ranks do. -/
theorem lt_iff_of_rank? {a b : Rank} (ha : a ∈ rank? x) (hb : b ∈ rank? y) : x < y ↔ a < b := by
  rw [lt_iff_rank?]
  constructor
  · rintro ⟨a', ha', b', hb', hab⟩
    obtain rfl := Option.mem_unique ha ha'
    obtain rfl := Option.mem_unique hb hb'
    exact hab
  · exact fun hab => ⟨a, ha, b, hb, hab⟩

theorem lt_asymm (h : x < y) : ¬ y < x := by
  obtain ⟨a, ha, b, hb, hab⟩ := lt_iff_rank?.1 h
  rw [lt_iff_of_rank? hb ha]
  exact hab.not_gt

theorem lt_irrefl (x : Float32) : ¬ x < x := fun h => lt_asymm h h

theorem lt_of_lt_of_le (h : x < y) (h' : y ≤ z) : x < z := by
  obtain ⟨a, ha, b, hb, hab⟩ := lt_iff_rank?.1 h
  obtain ⟨b', hb', c, hc, hbc⟩ := le_iff_rank?.1 h'
  obtain rfl := Option.mem_unique hb hb'
  exact (lt_iff_of_rank? ha hc).2 (hab.trans_le hbc)

theorem lt_of_le_of_lt (h : x ≤ y) (h' : y < z) : x < z := by
  obtain ⟨a, ha, b, hb, hab⟩ := le_iff_rank?.1 h
  obtain ⟨b', hb', c, hc, hbc⟩ := lt_iff_rank?.1 h'
  obtain rfl := Option.mem_unique hb hb'
  exact (lt_iff_of_rank? ha hc).2 (hab.trans_lt hbc)

/-! ## The two zeros -/

/-- One of the two zeros. -/
def IsZero (x : Float32) : Prop := x = 0 ∨ x = -0

/-- The same number, or two zeros. -/
def UpToZeroSign (x y : Float32) : Prop := x = y ∨ IsZero x ∧ IsZero y

theorem IsZero.rank?_eq (h : IsZero x) : rank? x = rank? 0 := by
  rcases h with rfl | rfl <;> rfl

theorem UpToZeroSign.rank?_eq (h : UpToZeroSign x y) : rank? x = rank? y := by
  rcases h with rfl | ⟨hx, hy⟩
  · rfl
  · rw [hx.rank?_eq, hy.rank?_eq]

theorem UpToZeroSign.lt_iff {x' y' : Float32} (hx : UpToZeroSign x x') (hy : UpToZeroSign y y') :
    x < y ↔ x' < y' := by
  rw [lt_iff_rank?, lt_iff_rank?, hx.rank?_eq, hy.rank?_eq]

theorem rank?_eq_none_iff : rank? x = none ↔ x.isNaN = true := by
  show unpackedRank? x.toModel.unpack = none ↔ x.toModel.unpack.isNaN = true
  cases x.toModel.unpack with
  | notANumber => exact iff_of_true rfl rfl
  | zero => exact iff_of_false (Option.some_ne_none _) Bool.false_ne_true
  | infinity s | finite s =>
    cases s <;> exact iff_of_false (Option.some_ne_none _) Bool.false_ne_true

theorem beq_iff_rank? : (x == y) = true ↔ ∃ a ∈ rank? x, a ∈ rank? y := by
  show (x.toModel.unpack.compare y.toModel.unpack == some .eq) = true ↔ _
  rw [beq_iff_eq, compare_eq_some_iff]
  constructor
  · rintro ⟨a, ha, b, hb, hab⟩
    obtain rfl := compare_eq_iff_eq.1 hab
    exact ⟨a, ha, hb⟩
  · rintro ⟨a, ha, hb⟩
    exact ⟨a, ha, a, hb, compare_eq_iff_eq.2 rfl⟩

theorem not_lt_of_beq (h : (x == y) = true) : ¬ x < y ∧ ¬ y < x := by
  obtain ⟨a, hx, hy⟩ := beq_iff_rank?.1 h
  rw [lt_iff_of_rank? hx hy, lt_iff_of_rank? hy hx]
  exact ⟨fun hlt => hlt.false, fun hlt => hlt.false⟩

theorem beq_eq_false_of_isNaN (y : Float32) (h : x.isNaN = true) : (x == y) = false := by
  rw [← Bool.not_eq_true, beq_iff_rank?, rank?_eq_none_iff.2 h]
  exact fun ⟨_, ha, _⟩ => nomatch ha

/-- What differs in the sign of zero at most is equal as numbers are, if it is a number. -/
theorem UpToZeroSign.beq_or_isNaN (h : UpToZeroSign x y) :
    (x == y) = true ∨ x.isNaN = true ∧ y.isNaN = true := by
  cases hx : rank? x with
  | none => exact .inr ⟨rank?_eq_none_iff.1 hx, rank?_eq_none_iff.1 (h.rank?_eq ▸ hx)⟩
  | some a => exact .inl (beq_iff_rank?.2 ⟨a, hx, h.rank?_eq ▸ hx⟩)

end TwoSpirals.Single
