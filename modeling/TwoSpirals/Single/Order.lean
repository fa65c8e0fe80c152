/-!
# The order of single-precision numbers

`<` and `≤` on `Float32` compare as numbers do, with the two zeros equal and `NaN` below and above
nothing.  The lemmas here reduce them to the comparison of decoded numbers and say what a
comparison that holds tells about its sides: neither is `NaN`, and what lies between two real
numbers is one.
-/

namespace TwoSpirals.Single

open Float.Model (UnpackedFloat)

theorem le_iff {x y : Float32} : x ≤ y ↔ x.toModel.unpack.le y.toModel.unpack = true := by
  show x.le y = true ↔ _
  rw [Float32.le, decide_eq_true_iff]
  rfl

theorem lt_iff {x y : Float32} : x < y ↔ x.toModel.unpack.lt y.toModel.unpack = true := by
  show x.lt y = true ↔ _
  rw [Float32.lt, decide_eq_true_iff]
  rfl

theorem le_of_lt {x y : Float32} (h : x < y) : x ≤ y := by
  rw [lt_iff, UnpackedFloat.lt, beq_iff_eq] at h
  rw [le_iff, UnpackedFloat.le, h]
  rfl

theorem not_notANumber_le (v : UnpackedFloat) : ¬ UnpackedFloat.le .notANumber v = true :=
  Bool.false_ne_true

theorem not_le_notANumber (u : UnpackedFloat) : ¬ u.le .notANumber = true := by
  cases u <;> exact Bool.false_ne_true

theorem isNaN_eq_false_of_le {x y : Float32} (h : x ≤ y) : x.isNaN = false ∧ y.isNaN = false := by
  rw [le_iff] at h
  change x.toModel.unpack.isNaN = false ∧ y.toModel.unpack.isNaN = false
  generalize x.toModel.unpack = u at *
  generalize y.toModel.unpack = v at *
  constructor
  · cases u with
    | notANumber => exact absurd h (not_notANumber_le v)
    | infinity | zero | finite => rfl
  · cases v with
    | notANumber => exact absurd h (not_le_notANumber u)
    | infinity | zero | finite => rfl

theorem not_lt_of_isNaN {x y : Float32} (h : x.isNaN = true ∨ y.isNaN = true) : ¬ x < y := by
  intro hlt
  have := isNaN_eq_false_of_le (le_of_lt hlt)
  simp_all

theorem isFinite_eq_false_of_isNaN {x : Float32} (h : x.isNaN = true) : x.isFinite = false := by
  change x.toModel.unpack.isNaN = true at h
  change x.toModel.unpack.isFinite = false
  generalize x.toModel.unpack = u at *
  cases u with
  | notANumber => rfl
  | infinity | zero | finite => exact absurd h Bool.false_ne_true

theorem isFinite_of_le_of_le {x y z : Float32} (hx : x.isFinite = true) (hz : z.isFinite = true)
    (hxy : x ≤ y) (hyz : y ≤ z) : y.isFinite = true := by
  rw [le_iff] at hxy hyz
  change x.toModel.unpack.isFinite = true at hx
  change z.toModel.unpack.isFinite = true at hz
  change y.toModel.unpack.isFinite = true
  generalize x.toModel.unpack = u at *
  generalize y.toModel.unpack = v at *
  generalize z.toModel.unpack = w at *
  rcases v with ⟨_ | _⟩ | _ | _ | _
  · -- `-∞` is above no real number.
    cases u <;> first | exact absurd hxy Bool.false_ne_true | exact absurd hx Bool.false_ne_true
  · -- `∞` is below no real number.
    cases w <;> first | exact absurd hyz Bool.false_ne_true | exact absurd hz Bool.false_ne_true
  · exact absurd hyz (not_notANumber_le w)
  · rfl
  · rfl

end TwoSpirals.Single
