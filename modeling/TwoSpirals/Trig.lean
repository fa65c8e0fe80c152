import TwoSpirals.Single.Basic
import TwoSpirals.Single.Order

/-!
# Sine and cosine

The programs of this library apply a sine and a cosine to single-precision numbers.  `Trig` is
such a pair of functions, `Trig.Lawful` collects what results about programs ask of it (`NaN`
outside the real numbers, values in `[-1, 1]`, positive near the origin, exact at the two zeros),
and `Trig.platform` is the pair of the machine at hand, which is lawful by `lawful_platform`.
-/

namespace TwoSpirals

/-- A sine and a cosine of single-precision numbers, in radians. -/
structure Trig where
  sin : Float32 → Float32
  cos : Float32 → Float32

namespace Trig

/-- What a sine and a cosine satisfy, whatever their accuracy. -/
structure Lawful (t : Trig) : Prop where
  sin_isNaN : ∀ x, x.isFinite = false → (t.sin x).isNaN = true
  cos_isNaN : ∀ x, x.isFinite = false → (t.cos x).isNaN = true
  sin_mem : ∀ x, x.isFinite = true → -1 ≤ t.sin x ∧ t.sin x ≤ 1
  cos_mem : ∀ x, x.isFinite = true → -1 ≤ t.cos x ∧ t.cos x ≤ 1
  sin_pos : ∀ x, 0 < x → x ≤ 1 → 0 < t.sin x
  cos_pos : ∀ x, -1 ≤ x → x ≤ 1 → 0 < t.cos x
  sin_zero : t.sin 0 = 0
  sin_neg_zero : t.sin (-0) = -0
  cos_zero : t.cos 0 = 1
  cos_neg_zero : t.cos (-0) = 1

/-! ## The platform's functions

The machine's sine and cosine are opaque: nothing follows from their names.  So each value they
give is held against the laws before it is used.  A function that obeys the laws is unchanged by
this, and a value that breaks one gives way to `1`, which breaks none. -/

/-- `y` can be the sine of the real number `x`, which is not zero. -/
def SinAt (x y : Float32) : Prop := (-1 ≤ y ∧ y ≤ 1) ∧ (0 < x → x ≤ 1 → 0 < y)

/-- `y` can be the cosine of the real number `x`. -/
def CosAt (x y : Float32) : Prop := (-1 ≤ y ∧ y ≤ 1) ∧ (-1 ≤ x → x ≤ 1 → 0 < y)

instance (x y : Float32) : Decidable (SinAt x y) := by unfold SinAt; infer_instance

instance (x y : Float32) : Decidable (CosAt x y) := by unfold CosAt; infer_instance

theorem sinAt_one (x : Float32) : SinAt x 1 := ⟨by decide, fun _ _ => by decide⟩

theorem cosAt_one (x : Float32) : CosAt x 1 := ⟨by decide, fun _ _ => by decide⟩

/-- The sine given by `f`, which is asked at the real numbers other than zero. -/
def lawfulSin (f : Float32 → Float32) (x : Float32) : Float32 :=
  if x.isFinite = true then
    if x = 0 ∨ x = -0 then x else if SinAt x (f x) then f x else 1
  else Single.nan

/-- The cosine given by `f`, which is asked at the real numbers other than zero. -/
def lawfulCos (f : Float32 → Float32) (x : Float32) : Float32 :=
  if x.isFinite = true then
    if x = 0 ∨ x = -0 then 1 else if CosAt x (f x) then f x else 1
  else Single.nan

theorem sinAt_lawfulSin (f : Float32 → Float32) {x : Float32} (h : x.isFinite = true) :
    SinAt x (lawfulSin f x) := by
  rw [lawfulSin, if_pos h]
  split
  · rename_i hx
    rcases hx with rfl | rfl <;> decide
  · split
    · assumption
    · exact sinAt_one x

theorem cosAt_lawfulCos (f : Float32 → Float32) {x : Float32} (h : x.isFinite = true) :
    CosAt x (lawfulCos f x) := by
  rw [lawfulCos, if_pos h]
  split
  · exact cosAt_one x
  · split
    · assumption
    · exact cosAt_one x

theorem lawfulSin_of_zero (f : Float32 → Float32) {x : Float32} (h : x = 0 ∨ x = -0) :
    lawfulSin f x = x := by
  have hx : x.isFinite = true := by rcases h with rfl | rfl <;> decide
  rw [lawfulSin, if_pos hx, if_pos h]

theorem lawfulCos_of_zero (f : Float32 → Float32) {x : Float32} (h : x = 0 ∨ x = -0) :
    lawfulCos f x = 1 := by
  have hx : x.isFinite = true := by rcases h with rfl | rfl <;> decide
  rw [lawfulCos, if_pos hx, if_pos h]

theorem lawful_mk (f g : Float32 → Float32) : Lawful ⟨lawfulSin f, lawfulCos g⟩ where
  sin_isNaN x h := by simp only [lawfulSin, h, Bool.false_eq_true, if_false]; decide
  cos_isNaN x h := by simp only [lawfulCos, h, Bool.false_eq_true, if_false]; decide
  sin_mem _ h := (sinAt_lawfulSin f h).1
  cos_mem _ h := (cosAt_lawfulCos g h).1
  sin_pos _ h₀ h₁ :=
    (sinAt_lawfulSin f (Single.isFinite_of_le_of_le (by decide) (by decide)
      (Single.le_of_lt h₀) h₁)).2 h₀ h₁
  cos_pos _ h₀ h₁ :=
    (cosAt_lawfulCos g (Single.isFinite_of_le_of_le (by decide) (by decide) h₀ h₁)).2 h₀ h₁
  sin_zero := lawfulSin_of_zero f (.inl rfl)
  sin_neg_zero := lawfulSin_of_zero f (.inr rfl)
  cos_zero := lawfulCos_of_zero g (.inl rfl)
  cos_neg_zero := lawfulCos_of_zero g (.inr rfl)

/-- The machine's sine and cosine. -/
def platform : Trig := ⟨lawfulSin Float32.sin, lawfulCos Float32.cos⟩

theorem lawful_platform : Lawful platform := lawful_mk _ _

end Trig

end TwoSpirals
