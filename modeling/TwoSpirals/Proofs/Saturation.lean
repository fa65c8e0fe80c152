import TwoSpirals.Proofs.Guard
import TwoSpirals.Proofs.Lockstep
import TwoSpirals.Proofs.Single.Order
import TwoSpirals.Proofs.Trig

/-!
# Saturation in the second input

The second input is only ever compared: `r1` and `x1` hold it from the first step to the last.
Where it lies beyond `x0`, beyond all numbers of the steps and beyond the range of the two
functions, each of its comparisons comes out by the side it lies on (`Side.Clears.lt_iff`), so
evaluations with two such inputs run in lockstep (`coupling_saturated`) and end alike
(`shown_entries_of_saturates`, `run_of_saturates`).
-/

namespace TwoSpirals

/-! ## Numbers beyond others -/

/-- A side of the numbers. -/
inductive Side where
  | above
  | below
deriving DecidableEq

namespace Side

/-- `a` is beyond `y` on a side. -/
def Beyond : Side → Float32 → Float32 → Prop
  | above, a, y => y < a
  | below, a, y => a < y

/-- The end of `[-1, 1]` on a side. -/
def bound : Side → Float32
  | above => 1
  | below => -1

/-- `a` is beyond `y`, if `y` is a number. -/
def Clears (side : Side) (a y : Float32) : Prop := y.isNaN = false → side.Beyond a y

variable {side : Side} {a y : Float32}

theorem beyond_of_mem (ha : side.Beyond a side.bound) (hy : -1 ≤ y ∧ y ≤ 1) : side.Beyond a y := by
  cases side with
  | above => exact Single.lt_of_le_of_lt hy.2 ha
  | below => exact Single.lt_of_lt_of_le ha hy.1

/-- On which side of a cleared number `a` is does not depend on either. -/
theorem Clears.lt_iff (h : side.Clears a y) :
    (y < a ↔ side = above ∧ y.isNaN = false) ∧ (a < y ↔ side = below ∧ y.isNaN = false) := by
  cases hnan : y.isNaN with
  | true =>
    exact ⟨iff_of_false (Single.not_lt_of_isNaN (.inl hnan)) (Bool.noConfusion ·.2),
      iff_of_false (Single.not_lt_of_isNaN (.inr hnan)) (Bool.noConfusion ·.2)⟩
  | false =>
    cases side with
    | above =>
      have hlt : y < a := h hnan
      simp [hlt, Single.lt_asymm hlt]
    | below =>
      have hlt : a < y := h hnan
      simp [hlt, Single.lt_asymm hlt]

end Side

/-! ## Values of two evaluations -/

/-- Values of one operand in two evaluations, whose second inputs are `a` and `b`: these inputs, or
one number that both of them clear. -/
def Alike (side : Side) (a b y y' : Float32) : Prop :=
  (y = a ∧ y' = b) ∨ (y = y' ∧ side.Clears a y ∧ side.Clears b y)

theorem Alike.lt_iff {side : Side} {a b y y' z z' : Float32} (hy : Alike side a b y y')
    (hz : Alike side a b z z') : y < z ↔ y' < z' := by
  rcases hy with ⟨rfl, rfl⟩ | ⟨rfl, hya, hyb⟩ <;> rcases hz with ⟨rfl, rfl⟩ | ⟨rfl, hza, hzb⟩
  · simp only [Single.lt_irrefl]
  · rw [hza.lt_iff.2, hzb.lt_iff.2]
  · rw [hya.lt_iff.1, hyb.lt_iff.1]
  · rfl

/-! ## Numbers of a step -/

/-- The number that an operand is, if it is one. -/
def Operand.literal? : Operand → Option Float32
  | literal value => some value
  | _ => none

/-- The numbers that stand in a step. -/
def Step.literals (s : Step) : List Float32 := s.guard.operands.filterMap Operand.literal?

/-- The second input is beyond `[-1, 1]`, beyond the first one and beyond the numbers in the
steps. -/
structure Saturates (side : Side) (steps : List Step) (x0 x1 : Float32) : Prop where
  bound : side.Beyond x1 side.bound
  input : side.Clears x1 x0
  literals : ∀ s ∈ steps, ∀ y ∈ s.literals, side.Clears x1 y

/-! ## Evaluations in lockstep -/

section

variable {side : Side} {a b : Float32}

/-- The registers hold the same `r0`, and every operand has alike values in them. -/
structure AlikeRegisters (side : Side) (a b : Float32) (r r' : Registers) : Prop where
  r0_eq : r.r0 = r'.r0
  r0 : Alike side a b r.r0 r'.r0
  r1 : Alike side a b r.r1 r'.r1
  x0 : Alike side a b r.x0 r'.x0
  x1 : Alike side a b r.x1 r'.x1

/-- The steps are the same, and both inputs clear the numbers in them. -/
def AlikeSteps (side : Side) (a b : Float32) (s s' : Step) : Prop :=
  s = s' ∧ ∀ y ∈ s.literals, side.Clears a y ∧ side.Clears b y

theorem AlikeRegisters.resolve {r r' : Registers} (h : AlikeRegisters side a b r r') {o : Operand}
    (ho : ∀ y ∈ o.literal?, side.Clears a y ∧ side.Clears b y) :
    Alike side a b (r.resolve o) (r'.resolve o) := by
  cases o with
  | r0 => exact h.r0
  | r1 => exact h.r1
  | x0 => exact h.x0
  | x1 => exact h.x1
  | literal value => exact .inr ⟨rfl, ho value rfl⟩

theorem AlikeRegisters.passes {r r' : Registers} (h : AlikeRegisters side a b r r') {s : Step}
    (hs : ∀ y ∈ s.literals, side.Clears a y ∧ side.Clears b y) :
    r.passes s.guard = r'.passes s.guard := by
  obtain ⟨guard, f⟩ := s
  cases guard with
  | always => rfl
  | greater o o' =>
    have hresolve : ∀ o₁ ∈ [o, o'], Alike side a b (r.resolve o₁) (r'.resolve o₁) :=
      fun o₁ ho => h.resolve fun y hy => hs y (List.mem_filterMap.2 ⟨o₁, ho, hy⟩)
    have hlt := (hresolve o' (by simp)).lt_iff (hresolve o (by simp))
    exact decide_eq_decide.2 hlt

/-- What a transform makes is `NaN` or a number that both inputs clear. -/
theorem clears_apply {t : Trig} (ht : t.Ranged) (ha : side.Beyond a side.bound) (f : Transform)
    (x : Float32) : side.Clears a (f.apply t x) := by
  intro hnan
  cases hx : x.isFinite with
  | true => exact Side.beyond_of_mem ha (ht.apply_mem f x hx)
  | false => exact absurd (ht.isNaN_apply f x hx) (Bool.eq_false_iff.1 hnan)

theorem coupling_saturated {t : Trig} (ht : t.Ranged) (ha : side.Beyond a side.bound)
    (hb : side.Beyond b side.bound) :
    Coupling t (AlikeRegisters side a b) (AlikeSteps side a b) where
  passes := by
    rintro r r' s _ hr ⟨rfl, hs⟩
    exact hr.passes hs
  act := by
    rintro r r' s _ hr ⟨rfl, -⟩
    have hr0 : s.transform.apply t r.r0 = s.transform.apply t r'.r0 := by rw [hr.r0_eq]
    refine ⟨hr0, .inr ⟨hr0, ?_, ?_⟩, hr.r1, hr.x0, hr.x1⟩
    · exact clears_apply ht ha s.transform r.r0
    · exact clears_apply ht hb s.transform r.r0

end

/-! ## Saturated evaluations -/

/-- What a trace shows of a step besides the second input. -/
def Trace.Entry.shown (e : Trace.Entry) : Nat × Step × Bool × Float32 :=
  (e.index, e.step, e.fired, e.registers.r0)

section

variable {t : Trig} (ht : t.Ranged) {side : Side} {steps : List Step} {x0 a b : Float32}
  (ha : Saturates side steps x0 a) (hb : Saturates side steps x0 b)
include ha hb

theorem alikeRegisters_init : AlikeRegisters side a b (.init x0 a) (.init x0 b) where
  r0_eq := rfl
  r0 := .inr ⟨rfl, ha.input, hb.input⟩
  r1 := .inl ⟨rfl, rfl⟩
  x0 := .inr ⟨rfl, ha.input, hb.input⟩
  x1 := .inl ⟨rfl, rfl⟩

theorem forall₂_alikeSteps : List.Forall₂ (AlikeSteps side a b) steps steps := by
  rw [List.forall₂_same]
  exact fun s hs => ⟨rfl, fun y hy => ⟨ha.literals s hs y hy, hb.literals s hs y hy⟩⟩

include ht

theorem shown_entries_of_saturates :
    ((Trace.start steps x0 a).entries t).map Trace.Entry.shown =
      ((Trace.start steps x0 b).entries t).map Trace.Entry.shown := by
  have hentries := (coupling_saturated ht ha.bound hb.bound).entriesFrom (forall₂_alikeSteps ha hb)
    (alikeRegisters_init ha hb) 0
  rw [← List.forall₂_eq_eq_eq, List.forall₂_map_left_iff, List.forall₂_map_right_iff]
  refine hentries.imp fun e e' h => ?_
  rw [Trace.Entry.shown, Trace.Entry.shown, h.index, h.step.1, h.fired, h.registers.r0_eq]

theorem run_of_saturates : run t steps x0 a = run t steps x0 b :=
  ((coupling_saturated ht ha.bound hb.bound).foldl_exec (forall₂_alikeSteps ha hb)
    (alikeRegisters_init ha hb)).r0_eq

end

/-! ## The five programs -/

namespace ProgramId

theorem literals_mem : ∀ p : ProgramId, ∀ s ∈ p.steps, ∀ y ∈ s.literals, 1 ≤ y ∧ y ≤ 9 := by
  decide +kernel

variable (p : ProgramId) {x0 x1 : Float32}

theorem saturates_above (h : 9 < x1) (hinput : x0.isNaN = false → x0 < x1) :
    Saturates .above p.steps x0 x1 where
  bound := Single.lt_of_le_of_lt (show (1 : Float32) ≤ 9 by decide) h
  input := hinput
  literals s hs y hy _ := Single.lt_of_le_of_lt (p.literals_mem s hs y hy).2 h

theorem saturates_below (h : x1 < -1) (hinput : x0.isNaN = false → x1 < x0) :
    Saturates .below p.steps x0 x1 where
  bound := h
  input := hinput
  literals s hs y hy _ :=
    have hone : x1 < 1 := Single.lt_of_lt_of_le h (by decide)
    Single.lt_of_lt_of_le hone (p.literals_mem s hs y hy).1

end ProgramId

/-- Second inputs that are beyond everything on the same side make the same trace, but for the
registers that hold them, and the same result.  The numbers of the five programs are in `[1, 9]`, so
the programs do not tell two inputs above `9` and `x0`, or two inputs below `-1` and `x0`, apart. -/
theorem evaluate_eq_of_beyond {t : Trig} (ht : t.Ranged) :
    (∀ (side : Side) (steps : List Step) (x0 a b : Float32),
      Saturates side steps x0 a → Saturates side steps x0 b →
      ((Trace.start steps x0 a).entries t).map Trace.Entry.shown =
        ((Trace.start steps x0 b).entries t).map Trace.Entry.shown ∧
      run t steps x0 a = run t steps x0 b) ∧
    (∀ p : ProgramId, ∀ s ∈ p.steps, ∀ y ∈ s.literals, 1 ≤ y ∧ y ≤ 9) ∧
    ∀ (p : ProgramId) (x0 a b : Float32),
      (9 < a ∧ (x0.isNaN = false → x0 < a) → 9 < b ∧ (x0.isNaN = false → x0 < b) →
        p.evaluate t x0 a = p.evaluate t x0 b) ∧
      (a < -1 ∧ (x0.isNaN = false → a < x0) → b < -1 ∧ (x0.isNaN = false → b < x0) →
        p.evaluate t x0 a = p.evaluate t x0 b) := by
  refine ⟨fun side steps x0 a b ha hb => ?_, ProgramId.literals_mem, fun p x0 a b => ⟨?_, ?_⟩⟩
  · exact ⟨shown_entries_of_saturates ht ha hb, run_of_saturates ht ha hb⟩
  · rintro ⟨ha, ha'⟩ ⟨hb, hb'⟩
    exact run_of_saturates ht (p.saturates_above ha ha') (p.saturates_above hb hb')
  · rintro ⟨ha, ha'⟩ ⟨hb, hb'⟩
    exact run_of_saturates ht (p.saturates_below ha ha') (p.saturates_below hb hb')

theorem evaluate_eq_of_beyond_infinite :
    let steps : List Step := [.greater .x1 .r0 .cos, .greater (.literal 5) .r1 .sin,
      .greater .r1 (.literal Single.nan) .cos, .greater .x0 .r0 .sin]
    (run Trig.platform steps 2 6 = run Trig.platform steps 2 Single.infinity) ∧
    ProgramId.evaluate Trig.platform 3 9.5 10 =
      ProgramId.evaluate Trig.platform 3 9.5 Single.infinity ∧
    ProgramId.evaluate Trig.platform 0 (-1.25) (-1.5) =
      ProgramId.evaluate Trig.platform 0 (-1.25) (-Single.infinity) := by
  intro steps
  obtain ⟨hsteps, -, hprograms⟩ := evaluate_eq_of_beyond Trig.lawful_platform.ranged
  have hsaturates : ∀ x1 : Float32, 5 < x1 → Saturates .above steps 2 x1 := by
    intro x1 h
    refine ⟨Single.lt_of_le_of_lt (by decide) h, fun _ => Single.lt_of_le_of_lt (by decide) h, ?_⟩
    have hliterals : ∀ s ∈ steps, ∀ y ∈ s.literals, y.isNaN = false → y ≤ 5 := by decide +kernel
    exact fun s hs y hy hnan => Single.lt_of_le_of_lt (hliterals s hs y hy hnan) h
  refine ⟨(hsteps .above steps 2 6 Single.infinity (hsaturates 6 (by decide))
    (hsaturates _ (by decide))).2, ?_, ?_⟩
  · exact (hprograms 3 9.5 10 Single.infinity).1 (by decide) (by decide)
  · exact (hprograms 0 (-1.25) (-1.5) (-Single.infinity)).2 (by decide) (by decide)

end TwoSpirals
