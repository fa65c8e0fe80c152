import TwoSpirals.Program
import TwoSpirals.Proofs.Score
import TwoSpirals.Proofs.Trig

/-!
# What is known of the register

An `Extent` is a set of numbers that `r0` is known to lie in.  `Extent.exec` takes a step on
extents without looking at the inputs: a step that always acts sends the extent through its
transform, and a guarded one leaves it as it is, because no transform leads out of an extent
(`Contains.of_apply`), so that the extent before the step holds whether it acts or not.
`contains_foldl_exec` carries this over a whole run.  On each of the five programs it ends in
`(0, 1]` from the real numbers and in `NaN` from the others, whatever the guards do.
-/

namespace TwoSpirals

/-- A set of numbers that a register is known to lie in. -/
inductive Extent where
  /-- The real numbers. -/
  | real
  /-- The interval `[-1, 1]`. -/
  | unit
  /-- The interval `(0, 1]`. -/
  | positive
  /-- The two infinities and `NaN`. -/
  | unreal
  /-- `NaN` alone. -/
  | nan
deriving DecidableEq

namespace Extent

/-- The numbers of an extent. -/
def Contains : Extent → Float32 → Prop
  | real, x => x.isFinite = true
  | unit, x => -1 ≤ x ∧ x ≤ 1
  | positive, x => (-1 ≤ x ∧ x ≤ 1) ∧ 0 < x
  | unreal, x => x.isFinite = false
  | nan, x => x.isNaN = true

/-- Where a transform sends an extent. -/
def apply : Transform → Extent → Extent
  | _, real => unit
  | .sin, unit => unit
  | .cos, unit => positive
  | _, positive => positive
  | _, unreal => nan
  | _, nan => nan

/-- The extent after a step. -/
def exec (e : Extent) (s : Step) : Extent :=
  match s.guard with
  | .always => e.apply s.transform
  | .greater _ _ => e

/-! ## Soundness -/

theorem isFinite_of_contains_unit {x : Float32} (h : unit.Contains x) : x.isFinite = true :=
  Single.isFinite_of_le_of_le (by decide) (by decide) h.1 h.2

/-- A transform sends an extent into itself. -/
theorem Contains.of_apply {f : Transform} {e : Extent} {x : Float32}
    (h : (e.apply f).Contains x) : e.Contains x := by
  cases e with
  | real => exact isFinite_of_contains_unit h
  | unit =>
    cases f with
    | sin => exact h
    | cos => exact h.1
  | positive => exact h
  | unreal => exact Single.isFinite_eq_false_of_isNaN h
  | nan => exact h

variable {t : Trig} (ht : t.Positive)
include ht

theorem contains_apply (f : Transform) {e : Extent} {x : Float32} (h : e.Contains x) :
    (e.apply f).Contains (f.apply t x) := by
  cases e with
  | real => exact ht.apply_mem f x h
  | unit =>
    have hmem := ht.apply_mem f x (isFinite_of_contains_unit h)
    cases f with
    | sin => exact hmem
    | cos => exact ⟨hmem, ht.cos_pos x h.1 h.2⟩
  | positive =>
    have hmem := ht.apply_mem f x (isFinite_of_contains_unit h.1)
    cases f with
    | sin => exact ⟨hmem, ht.sin_pos x h.2 h.1.2⟩
    | cos => exact ⟨hmem, ht.cos_pos x h.1.1 h.1.2⟩
  | unreal => exact ht.isNaN_apply f x h
  | nan => exact ht.isNaN_apply f x (Single.isFinite_eq_false_of_isNaN h)

theorem contains_exec {e : Extent} {r : Registers} (h : e.Contains r.r0) (s : Step) :
    (e.exec s).Contains (r.exec t s).r0 := by
  obtain ⟨guard, f⟩ := s
  cases guard with
  | always => exact contains_apply ht f h
  | greater a b =>
    -- The guard depends on the inputs, so the extent has to hold on both of its sides.
    cases hpass : r.passes (.greater a b) with
    | false => rwa [Registers.exec_of_not_passes hpass]
    | true =>
      rw [Registers.exec_of_passes hpass]
      exact (contains_apply ht f h).of_apply

theorem contains_foldl_exec (steps : List Step) {e : Extent} {r : Registers}
    (h : e.Contains r.r0) :
    (steps.foldl exec e).Contains (steps.foldl (Registers.exec t) r).r0 := by
  induction steps generalizing e r with
  | nil => exact h
  | cons s steps ih => exact ih (contains_exec ht h s)

theorem contains_run (steps : List Step) {e : Extent} {x0 : Float32} (x1 : Float32)
    (h : e.Contains x0) : (steps.foldl exec e).Contains (run t steps x0 x1) :=
  contains_foldl_exec ht steps h

end Extent

/-! ## The five programs -/

namespace ProgramId

theorem foldl_exec_real : ∀ p : ProgramId, p.steps.foldl Extent.exec .real = .positive := by
  decide +kernel

theorem foldl_exec_unreal : ∀ p : ProgramId, p.steps.foldl Extent.exec .unreal = .nan := by
  decide +kernel

theorem contains_evaluate_of_isFinite {t : Trig} (ht : t.Positive) (p : ProgramId) {x0 : Float32}
    (x1 : Float32) (h : x0.isFinite = true) : Extent.positive.Contains (p.evaluate t x0 x1) := by
  have hrun := Extent.contains_run ht p.steps (e := .real) x1 h
  rwa [foldl_exec_real] at hrun

theorem isNaN_evaluate_of_not_isFinite {t : Trig} (ht : t.Positive) (p : ProgramId) {x0 : Float32}
    (x1 : Float32) (h : x0.isFinite = false) : (p.evaluate t x0 x1).isNaN = true := by
  have hrun := Extent.contains_run ht p.steps (e := .unreal) x1 h
  rwa [foldl_exec_unreal] at hrun

/-- The programs are constant as classifiers: every point with a real `x0` is of class `1`, and
every other point makes `NaN` and is of class `0`. -/
theorem evaluate_mem_or_isNaN {t : Trig} (ht : t.Positive) (p : ProgramId) (x0 x1 : Float32) :
    (x0.isFinite = true →
      (p.evaluate t x0 x1).isFinite = true ∧ 0 < p.evaluate t x0 x1 ∧
        p.evaluate t x0 x1 ≤ 1 ∧ classify (p.evaluate t x0 x1) = 1) ∧
    (x0.isFinite = false →
      (p.evaluate t x0 x1).isNaN = true ∧ classify (p.evaluate t x0 x1) = 0) := by
  constructor
  · intro h
    obtain ⟨hmem, hpos⟩ := contains_evaluate_of_isFinite ht p x1 h
    exact ⟨Extent.isFinite_of_contains_unit hmem, hpos, hmem.2, classify_of_pos hpos⟩
  · intro h
    have hnan := isNaN_evaluate_of_not_isFinite ht p x1 h
    exact ⟨hnan, classify_of_isNaN hnan⟩

theorem evaluate_mem_or_isNaN_platform :
    (0 < evaluate Trig.platform 2 6.5 Single.infinity ∧
      evaluate Trig.platform 2 6.5 Single.infinity ≤ 1) ∧
    (evaluate Trig.platform 4 Single.infinity 0.25).isNaN = true := by
  have ht := Trig.lawful_platform.positive
  obtain ⟨-, hpos, hle, -⟩ :=
    (evaluate_mem_or_isNaN ht 2 6.5 Single.infinity).1 (by decide)
  exact ⟨⟨hpos, hle⟩, ((evaluate_mem_or_isNaN ht 4 Single.infinity 0.25).2 (by decide)).1⟩

end ProgramId

end TwoSpirals
