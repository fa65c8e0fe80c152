import TwoSpirals.Proofs.Point
import TwoSpirals.Proofs.Spiral

/-!
# The mirrored arm

Each point of the second arm has the coordinates of one of the first with the other sign.  The sign
is one bit of a number and one character of its text, and neither narrowing nor rounding to fixed
places looks at it (`Double.opposite_toSingle_neg`, `Double.opposite_fixed_neg`).  So what is made of
the two points differs in the sign alone, in bits as in text (`Spiral.samples_mirrored`).
-/

namespace TwoSpirals

open Double (fixed)
open Text (words)

/-! ## Numbers of opposite sign -/

/-- Two numbers differ in the sign bit alone, or neither is one. -/
structure Double.Opposite (x y : Float) : Prop where
  isNaN_eq : y.isNaN = x.isNaN
  toBits_eq : x.isNaN = false → y.toBits = x.toBits ^^^ 0x8000000000000000

/-- Two numbers differ in the sign bit alone, or neither is one. -/
structure Single.Opposite (x y : Float32) : Prop where
  isNaN_eq : y.isNaN = x.isNaN
  toBits_eq : x.isNaN = false → y.toBits = x.toBits ^^^ 0x80000000

theorem Double.opposite_neg (x : Float) : Opposite x (-x) := ⟨isNaN_neg x, toBits_neg⟩

theorem Single.opposite_neg (x : Float32) : Opposite x (-x) := ⟨isNaN_neg x, toBits_neg⟩

/-- Narrowed numbers are as opposite as they were before. -/
theorem Double.opposite_toSingle_neg (x : Float) :
    Single.Opposite (toSingle x) (toSingle (-x)) := by
  rw [toSingle_neg]
  exact Single.opposite_neg (toSingle x)

/-! ## Texts of opposite sign -/

/-- Two texts differ in a minus that is in front of one of them. -/
def Text.Opposite (u v : List Char) : Prop :=
  ∃ digits, '-' ∉ digits ∧ (u = digits ∧ v = '-' :: digits ∨ u = '-' :: digits ∧ v = digits)

theorem Double.opposite_fixed_neg {x : Float} (h : x.isNaN = false) (k : ℕ) :
    Text.Opposite (fixed (k + 1) x) (fixed (k + 1) (-x)) := by
  refine ⟨unsigned (k + 1) x, not_mem_unsigned (by decide) (by decide) k x, ?_⟩
  rw [fixed_eq h, fixed_eq ((isNaN_neg x).trans h), unsigned_neg, sign_neg h]
  cases sign x with
  | positive => exact .inl ⟨rfl, rfl⟩
  | negative => exact .inr ⟨rfl, rfl⟩

/-- The texts `u` and `v` of two numbers of opposite sign, of which `x` is the first. -/
structure Text.Mirrored (x : Float) (u v : List Char) : Prop where
  of_isNaN : x.isNaN = true → u = "NaN".toList ∧ v = "NaN".toList
  opposite : x.isNaN = false → Opposite u v

theorem Double.mirrored_fixed_neg (k : ℕ) (x : Float) :
    Text.Mirrored x (fixed (k + 1) x) (fixed (k + 1) (-x)) where
  of_isNaN h := ⟨fixed_of_isNaN h _, fixed_of_isNaN ((isNaN_neg x).trans h) _⟩
  opposite h := opposite_fixed_neg h k

/-! ## Points -/

/-- Two points are mirror images, and so is what is written of them. -/
structure LabeledPoint.Mirrored (p q : LabeledPoint) : Prop where
  x : Double.Opposite p.x q.x
  y : Double.Opposite p.y q.y
  isNaN_features : p.features.1.isNaN = p.x.isNaN ∧ p.features.2.isNaN = p.y.isNaN
  features₁ : Single.Opposite p.features.1 q.features.1
  features₂ : Single.Opposite p.features.2 q.features.2
  words_line : ∃ u v a u' v' b, words p.line = [u, v, a] ∧ words q.line = [u', v', b] ∧
    Text.Mirrored p.x u u' ∧ Text.Mirrored p.y v v'

theorem LabeledPoint.mirrored_mirror (p : LabeledPoint) : p.Mirrored (Spiral.mirror p) where
  x := Double.opposite_neg p.x
  y := Double.opposite_neg p.y
  isNaN_features := ⟨Double.isNaN_toSingle p.x, Double.isNaN_toSingle p.y⟩
  features₁ := Double.opposite_toSingle_neg p.x
  features₂ := Double.opposite_toSingle_neg p.y
  words_line := ⟨_, _, _, _, _, _, LabeledPoint.words_line p, LabeledPoint.words_line _,
    Double.mirrored_fixed_neg 4 p.x, Double.mirrored_fixed_neg 4 p.y⟩

namespace Spiral

/-- The samples `2 * i` and `2 * i + 1` of every spiral are there and are mirror images: their
coordinates have opposite sign bits, before they are narrowed and after that, and their texts the
same digits, a minus in front of the one or the other.  `NaN`, which has no sign, is its own mirror
image. -/
theorem samples_mirrored (s : Spiral) (i : ℕ) (h : i ≤ s.points) :
    ∃ p q, s.pair? i = .ok (p, q) ∧ s.get? (2 * i) = .ok p ∧ s.get? (2 * i + 1) = .ok q ∧
      p.Mirrored q := by
  have hlength : 2 * i + 1 < s.length := by
    rw [length]
    omega
  refine ⟨s.outer i, mirror (s.outer i), s.pair?_of_le h, ?_, ?_, LabeledPoint.mirrored_mirror _⟩
  · rw [s.get?_of_lt (by omega), sampleAt_two_mul]
    rfl
  · rw [s.get?_of_lt hlength, sampleAt_two_mul_add_one]
    rfl

theorem samples_mirrored_no_divisor :
    let s : Spiral := { points := 3, divisor := 0, decay := 0 }
    3 ≤ s.points ∧
      ∃ p q, s.pair? 3 = .ok (p, q) ∧ s.get? 6 = .ok p ∧ s.get? 7 = .ok q ∧ p.Mirrored q :=
  ⟨by decide, samples_mirrored _ 3 (by decide)⟩

end Spiral

end TwoSpirals
