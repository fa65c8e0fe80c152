import TwoSpirals.Step

/-!
# What a run asks of a sine and a cosine

`Trig.Lawful` has more than most results need.  `Trig.Ranged` keeps its range of values and
`Trig.Positive` adds the signs near the origin, both said of `Transform.apply`, which is how a step
meets the two functions.  `Trig.ExactAtZero` is what it says of the two zeros.
-/

namespace TwoSpirals.Trig

/-- The values are `NaN` outside the real numbers and lie in `[-1, 1]` on them. -/
structure Ranged (t : Trig) : Prop where
  isNaN_apply : ∀ (f : Transform) (x : Float32), x.isFinite = false → (f.apply t x).isNaN = true
  apply_mem : ∀ (f : Transform) (x : Float32), x.isFinite = true →
    -1 ≤ f.apply t x ∧ f.apply t x ≤ 1

/-- Moreover the cosine is positive on `[-1, 1]` and the sine on the positive half of it. -/
structure Positive (t : Trig) : Prop extends Ranged t where
  sin_pos : ∀ x, 0 < x → x ≤ 1 → 0 < t.sin x
  cos_pos : ∀ x, -1 ≤ x → x ≤ 1 → 0 < t.cos x

/-- At the two zeros the sine gives its argument and the cosine gives `1`. -/
structure ExactAtZero (t : Trig) : Prop where
  sin_zero : t.sin 0 = 0
  sin_neg_zero : t.sin (-0) = -0
  cos_zero : t.cos 0 = 1
  cos_neg_zero : t.cos (-0) = 1

theorem Lawful.ranged {t : Trig} (h : t.Lawful) : t.Ranged where
  isNaN_apply
    | .sin => h.sin_isNaN
    | .cos => h.cos_isNaN
  apply_mem
    | .sin => h.sin_mem
    | .cos => h.cos_mem

theorem Lawful.positive {t : Trig} (h : t.Lawful) : t.Positive :=
  ⟨h.ranged, h.sin_pos, h.cos_pos⟩

theorem Lawful.exactAtZero {t : Trig} (h : t.Lawful) : t.ExactAtZero :=
  ⟨h.sin_zero, h.sin_neg_zero, h.cos_zero, h.cos_neg_zero⟩

end TwoSpirals.Trig
