import TwoSpirals.Proofs.Guard
import TwoSpirals.Proofs.Lockstep
import TwoSpirals.Proofs.Single.Order
import TwoSpirals.Proofs.Trig

/-!
# The sign of zero

Two evaluations whose inputs and literals differ in the sign of zero at most run in lockstep: no
comparison tells the zeros apart, and the sine and the cosine of one zero are those of the other up
to that sign (`coupling_upToZeroSign`).  A cosine that acts makes `1` of either zero.  From there on
the two evaluations hold the very same `r0`, as they do from the first step on if it starts the
same (`r0_eq_of_firesCos`).  Each of the five programs has a cosine that always acts.
-/

namespace TwoSpirals

open Single (IsZero UpToZeroSign)

/-! ## Related operands and registers -/

/-- The same operand, or two literals that differ in the sign of zero at most. -/
inductive Operand.UpToZeroSign : Operand → Operand → Prop
  | same (o : Operand) : UpToZeroSign o o
  | literal {x y : Float32} : Single.UpToZeroSign x y → UpToZeroSign (.literal x) (.literal y)

/-- The values of all registers differ in the sign of zero at most. -/
structure Registers.UpToZeroSign (r r' : Registers) : Prop where
  r0 : Single.UpToZeroSign r.r0 r'.r0
  r1 : Single.UpToZeroSign r.r1 r'.r1
  x0 : Single.UpToZeroSign r.x0 r'.x0
  x1 : Single.UpToZeroSign r.x1 r'.x1

/-- The same step, but perhaps for the sign of zero in its literals. -/
abbrev Step.UpToZeroSign : Step → Step → Prop := Step.Matches Operand.UpToZeroSign

theorem Registers.UpToZeroSign.resolve {r r' : Registers} (h : r.UpToZeroSign r') {o o' : Operand}
    (ho : o.UpToZeroSign o') : Single.UpToZeroSign (r.resolve o) (r'.resolve o') := by
  cases ho with
  | literal hvalue => exact hvalue
  | same =>
    cases o with
    | r0 => exact h.r0
    | r1 => exact h.r1
    | x0 => exact h.x0
    | x1 => exact h.x1
    | literal value => exact .inl rfl

/-! ## The transforms at the zeros -/

namespace Trig.ExactAtZero

variable {t : Trig} (ht : t.ExactAtZero)
include ht

theorem sin_of_isZero {x : Float32} (h : IsZero x) : t.sin x = x := by
  rcases h with rfl | rfl
  · exact ht.sin_zero
  · exact ht.sin_neg_zero

theorem cos_of_isZero {x : Float32} (h : IsZero x) : t.cos x = 1 := by
  rcases h with rfl | rfl
  · exact ht.cos_zero
  · exact ht.cos_neg_zero

theorem cos_eq {x y : Float32} (h : UpToZeroSign x y) : t.cos x = t.cos y := by
  rcases h with rfl | ⟨hx, hy⟩
  · rfl
  · rw [ht.cos_of_isZero hx, ht.cos_of_isZero hy]

theorem apply (f : Transform) {x y : Float32} (h : UpToZeroSign x y) :
    UpToZeroSign (f.apply t x) (f.apply t y) := by
  cases f with
  | cos => exact .inl (ht.cos_eq h)
  | sin =>
    rcases h with rfl | ⟨hx, hy⟩
    · exact .inl rfl
    · show UpToZeroSign (t.sin x) (t.sin y)
      rw [ht.sin_of_isZero hx, ht.sin_of_isZero hy]
      exact .inr ⟨hx, hy⟩

end Trig.ExactAtZero

/-! ## Evaluations in lockstep -/

section

variable {t : Trig} (ht : t.ExactAtZero)
include ht

theorem coupling_upToZeroSign : Coupling t Registers.UpToZeroSign Step.UpToZeroSign where
  passes hr hs := hs.guard.passes_eq UpToZeroSign.lt_iff hr.resolve
  act := by
    intro r r' s s' hr hs
    refine ⟨?_, hr.r1, hr.x0, hr.x1⟩
    show UpToZeroSign (s.transform.apply t r.r0) (s'.transform.apply t r'.r0)
    rw [hs.transform]
    exact ht.apply s'.transform hr.r0

/-- Registers that hold the very same `r0` go on doing so. -/
theorem coupling_upToZeroSign_r0_eq :
    Coupling t (fun r r' => r.UpToZeroSign r' ∧ r.r0 = r'.r0) Step.UpToZeroSign where
  passes hr hs := (coupling_upToZeroSign ht).passes hr.1 hs
  act := by
    intro r r' s s' ⟨hr, hr0⟩ hs
    refine ⟨(coupling_upToZeroSign ht).act hr hs, ?_⟩
    show s.transform.apply t r.r0 = s'.transform.apply t r'.r0
    rw [hs.transform, hr0]

/-- A cosine that acts leaves the very same `r0` behind. -/
theorem r0_exec_cos_eq {r r' : Registers} (hr : r.UpToZeroSign r') {s s' : Step}
    (hs : s.UpToZeroSign s') (hpass : r.passes s.guard = true) (hcos : s.transform = .cos) :
    (r.exec t s).r0 = (r'.exec t s').r0 := by
  have hpass' : r'.passes s'.guard = true :=
    ((coupling_upToZeroSign ht).passes hr hs).symm.trans hpass
  rw [Registers.exec_of_passes hpass, Registers.exec_of_passes hpass', ← hs.transform, hcos]
  exact ht.cos_eq hr.r0

end

/-- What two steps did is the same but for the sign of zero. -/
structure Trace.Entry.UpToZeroSign (e e' : Trace.Entry) : Prop where
  index : e.index = e'.index
  fired : e.fired = e'.fired
  /-- The values of `r0` are equal as numbers, or both `NaN`. -/
  r0_beq : (e.registers.r0 == e'.registers.r0) = true ∨
    e.registers.r0.isNaN = true ∧ e'.registers.r0.isNaN = true
  /-- They are the same up to the sign of zero. -/
  r0 : Single.UpToZeroSign e.registers.r0 e'.registers.r0

/-- The step was a cosine and acted. -/
def Trace.Entry.FiresCos (e : Trace.Entry) : Prop := e.fired = true ∧ e.step.transform = .cos

section

variable {t : Trig} (ht : t.ExactAtZero) {steps steps' : List Step} {x0 x1 x0' x1' : Float32}
  (hs : List.Forall₂ Step.UpToZeroSign steps steps') (h0 : UpToZeroSign x0 x0')
  (h1 : UpToZeroSign x1 x1')
include ht hs h0 h1

theorem entries_upToZeroSign :
    List.Forall₂ Trace.Entry.UpToZeroSign ((Trace.start steps x0 x1).entries t)
      ((Trace.start steps' x0' x1').entries t) := by
  refine ((coupling_upToZeroSign ht).entriesFrom hs ⟨h0, h1, h0, h1⟩ 0).imp fun e e' h => ?_
  exact ⟨h.index, h.fired, h.registers.r0.beq_or_isNaN, h.registers.r0⟩

theorem registersAfter_upToZeroSign (k : Nat) :
    (registersAfter t steps x0 x1 k).UpToZeroSign (registersAfter t steps' x0' x1' k) :=
  (coupling_upToZeroSign ht).registersAfter hs (Nat.zero_le k) ⟨h0, h1, h0, h1⟩

/-- If `r0` starts the same, it stays the same, and it becomes the same by a cosine that acts. -/
theorem r0_eq_of_firesCos {m : Nat}
    (h : x0 = x0' ∨ ∃ c ∈ (Trace.start steps x0 x1).entries t, c.index < m ∧ c.FiresCos) :
    (registersAfter t steps x0 x1 m).r0 = (registersAfter t steps' x0' x1' m).r0 := by
  have hrelated := registersAfter_upToZeroSign ht hs h0 h1
  have hcoupling := coupling_upToZeroSign_r0_eq ht
  rcases h with rfl | ⟨c, hc, hlt, hfired, hcos⟩
  · exact (hcoupling.registersAfter hs (Nat.zero_le m) ⟨hrelated 0, rfl⟩).2
  · obtain ⟨k, hk, rfl⟩ := Trace.mem_entries_start_iff.1 hc
    have hk' : k < steps'.length := hs.length_eq ▸ hk
    -- The cosine makes the two `r0` the same, and the coupling keeps them so.
    have hr0 : (registersAfter t steps x0 x1 (k + 1)).r0 =
        (registersAfter t steps' x0' x1' (k + 1)).r0 := by
      rw [registersAfter_succ hk, registersAfter_succ hk']
      exact r0_exec_cos_eq ht (hrelated k) (hs.get hk hk') hfired hcos
    exact (hcoupling.registersAfter hs hlt ⟨hrelated (k + 1), hr0⟩).2

theorem run_eq_of_firesCos
    (h : x0 = x0' ∨ ∃ c ∈ (Trace.start steps x0 x1).entries t, c.FiresCos) :
    run t steps x0 x1 = run t steps' x0' x1' := by
  rw [← r0_registersAfter_length, ← r0_registersAfter_length, ← hs.length_eq]
  refine r0_eq_of_firesCos ht hs h0 h1 (h.imp_right ?_)
  rintro ⟨c, hc, hcos⟩
  obtain ⟨k, hk, rfl⟩ := Trace.mem_entries_start_iff.1 hc
  exact ⟨_, hc, hk, hcos⟩

end

/-! ## The five programs -/

theorem Step.UpToZeroSign.refl (s : Step) : s.UpToZeroSign s := by
  obtain ⟨guard, f⟩ := s
  cases guard with
  | always => exact ⟨.always, rfl⟩
  | greater a b => exact ⟨.greater (.same a) (.same b), rfl⟩

/-- A step that always acts does so in every evaluation. -/
theorem exists_mem_entries_always {t : Trig} {steps : List Step} {f : Transform}
    (h : Step.always f ∈ steps) (x0 x1 : Float32) :
    ∃ e ∈ (Trace.start steps x0 x1).entries t, e.fired = true ∧ e.step.transform = f := by
  obtain ⟨k, hk, hstep⟩ := List.getElem_of_mem h
  refine ⟨_, Trace.entryAt_mem_entries hk, ?_, ?_⟩
  · show (registersAfter t steps x0 x1 k).passes steps[k].guard = true
    rw [hstep]
    rfl
  · show steps[k].transform = f
    rw [hstep]
    rfl

theorem ProgramId.always_cos_mem_steps : ∀ p : ProgramId, Step.always .cos ∈ p.steps := by
  decide +kernel

/-- The sign of zero steers no evaluation.  Evaluations whose inputs and literals differ in it at
most act at the same steps and hold the same `r0` after each of them up to that sign; the very same
one from the first cosine that acts on, and throughout if the first inputs are the same.  The five
programs do not tell the zeros apart at either input. -/
theorem evaluate_eq_of_upToZeroSign {t : Trig} (ht : t.ExactAtZero) :
    (∀ (steps steps' : List Step) (x0 x1 x0' x1' : Float32),
      List.Forall₂ Step.UpToZeroSign steps steps' →
      Single.UpToZeroSign x0 x0' → Single.UpToZeroSign x1 x1' →
      List.Forall₂ Trace.Entry.UpToZeroSign ((Trace.start steps x0 x1).entries t)
        ((Trace.start steps' x0' x1').entries t) ∧
      ∀ e ∈ (Trace.start steps x0 x1).entries t,
        ∀ e' ∈ (Trace.start steps' x0' x1').entries t, e.index = e'.index →
        (x0 = x0' ∨ ∃ c ∈ (Trace.start steps x0 x1).entries t,
          c.index ≤ e.index ∧ c.FiresCos) →
        e.registers.r0 = e'.registers.r0) ∧
    ∀ p : ProgramId,
      (∀ x1 : Float32, p.evaluate t 0 x1 = p.evaluate t (-0) x1) ∧
      (∀ x0 : Float32, p.evaluate t x0 0 = p.evaluate t x0 (-0)) := by
  have hzeros : UpToZeroSign 0 (-0) := .inr ⟨.inl rfl, .inr rfl⟩
  have hsteps (p : ProgramId) : List.Forall₂ Step.UpToZeroSign p.steps p.steps :=
    List.forall₂_same.2 fun s _ => .refl s
  refine ⟨fun steps steps' x0 x1 x0' x1' hs h0 h1 => ⟨entries_upToZeroSign ht hs h0 h1, ?_⟩,
    fun p => ⟨fun x1 => ?_, fun x0 => ?_⟩⟩
  · intro e he e' he' hindex h
    rw [Trace.registers_of_mem_entries he, Trace.registers_of_mem_entries he', ← hindex]
    refine r0_eq_of_firesCos ht hs h0 h1 (h.imp_right ?_)
    rintro ⟨c, hc, hle, hcos⟩
    exact ⟨c, hc, Nat.lt_succ_of_le hle, hcos⟩
  · exact run_eq_of_firesCos ht (hsteps p) hzeros (.inl rfl)
      (.inr (exists_mem_entries_always p.always_cos_mem_steps 0 x1))
  · exact run_eq_of_firesCos ht (hsteps p) (.inl rfl) hzeros (.inl rfl)

theorem evaluate_eq_of_upToZeroSign_origin :
    let steps : List Step := [.greater .x1 (.literal 0) .sin, .always .cos]
    let steps' : List Step := [.greater .x1 (.literal (-0)) .sin, .always .cos]
    (Trace.entryAt Trig.platform steps 0 2 1 (by decide)).registers.r0 =
      (Trace.entryAt Trig.platform steps' (-0) 2 1 (by decide)).registers.r0 ∧
    ProgramId.evaluate Trig.platform 0 0 6.5 = ProgramId.evaluate Trig.platform 0 (-0) 6.5 ∧
    ProgramId.evaluate Trig.platform 3 0.5 0 = ProgramId.evaluate Trig.platform 3 0.5 (-0) := by
  intro steps steps'
  obtain ⟨hsteps, hprograms⟩ := evaluate_eq_of_upToZeroSign Trig.lawful_platform.exactAtZero
  have hzeros : UpToZeroSign 0 (-0) := .inr ⟨.inl rfl, .inr rfl⟩
  have hs : List.Forall₂ Step.UpToZeroSign steps steps' :=
    .cons ⟨.greater (.same .x1) (.literal hzeros), rfl⟩ (.cons ⟨.always, rfl⟩ .nil)
  have hcos : (Trace.entryAt Trig.platform steps 0 2 1 (by decide)).FiresCos := ⟨rfl, rfl⟩
  refine ⟨?_, (hprograms 0).1 6.5, (hprograms 3).2 0.5⟩
  exact (hsteps steps steps' 0 2 (-0) 2 hs hzeros (.inl rfl)).2 _
    (Trace.entryAt_mem_entries (by decide)) _ (Trace.entryAt_mem_entries (by decide)) rfl
    (.inr ⟨_, Trace.entryAt_mem_entries (by decide), Nat.le_refl 1, hcos⟩)

end TwoSpirals
