import TwoSpirals.Proofs.Guard
import TwoSpirals.Proofs.Lockstep

/-!
# Registers that no step writes

A step writes `r0` alone, so the other registers hold the two inputs from the first step to the last
(`Registers.Frozen`).  In particular `r1` and `x1` are two names of one number: a guard may be
written with either of them, and evaluations of steps that differ in this choice coincide
(`coupling_twin`).
-/

namespace TwoSpirals

/-! ## What the registers hold -/

/-- The registers other than `r0` hold the two inputs. -/
structure Registers.Frozen (x0 x1 : Float32) (r : Registers) : Prop where
  resolve_r1 : r.resolve .r1 = x1
  resolve_x0 : r.resolve .x0 = x0
  resolve_x1 : r.resolve .x1 = x1

namespace Registers

variable {x0 x1 : Float32} {r : Registers}

theorem frozen_init (x0 x1 : Float32) : (init x0 x1).Frozen x0 x1 := ⟨rfl, rfl, rfl⟩

theorem Frozen.exec (t : Trig) (s : Step) (h : r.Frozen x0 x1) : (r.exec t s).Frozen x0 x1 where
  resolve_r1 := (r1_exec t r s).trans h.resolve_r1
  resolve_x0 := (x0_exec t r s).trans h.resolve_x0
  resolve_x1 := (x1_exec t r s).trans h.resolve_x1

end Registers

section

variable (t : Trig) (steps : List Step) (x0 x1 : Float32)

theorem frozen_registersAfter (k : Nat) : (registersAfter t steps x0 x1 k).Frozen x0 x1 :=
  registersAfter_of_exec (fun _ s h => h.exec t s) (Nat.zero_le k) (Registers.frozen_init x0 x1)

theorem frozen_registers_of_mem_entries {e : Trace.Entry}
    (he : e ∈ (Trace.start steps x0 x1).entries t) : e.registers.Frozen x0 x1 := by
  rw [Trace.registers_of_mem_entries he]
  exact frozen_registersAfter t steps x0 x1 _

theorem frozen_registers_askAll (queries : List Trace.Query) :
    ((Trace.start steps x0 x1).askAll t queries).2.registers.Frozen x0 x1 := by
  have hstate : ((Trace.start steps x0 x1).askAll t queries).2 =
      Trace.after t steps x0 x1 (queries.foldl (Trace.Query.advance steps.length) 0) :=
    Trace.askAll_after queries (Nat.zero_le steps.length)
  rw [hstate]
  exact frozen_registersAfter t steps x0 x1 _

end

/-! ## Two names of one register -/

/-- The same operand, or one of `r1` and `x1` for the other. -/
inductive Operand.Twin : Operand → Operand → Prop
  | same (o : Operand) : Twin o o
  | r1_x1 : Twin .r1 .x1
  | x1_r1 : Twin .x1 .r1

theorem Operand.Twin.resolve_eq {o o' : Operand} (h : o.Twin o') {x0 x1 : Float32} {r : Registers}
    (hr : r.Frozen x0 x1) : r.resolve o = r.resolve o' := by
  cases h with
  | same => rfl
  | r1_x1 => exact hr.resolve_r1.trans hr.resolve_x1.symm
  | x1_r1 => exact hr.resolve_x1.trans hr.resolve_r1.symm

/-- Steps that differ in the name of a frozen register do the same. -/
theorem coupling_twin (t : Trig) (x0 x1 : Float32) :
    Coupling t (fun r r' => r = r' ∧ r.Frozen x0 x1) (Step.Matches Operand.Twin) where
  passes := by
    rintro r _ s s' ⟨rfl, hr⟩ hs
    refine hs.guard.passes_eq (V := Eq) ?_ fun ho => ho.resolve_eq hr
    rintro x _ y _ rfl rfl
    rfl
  act := by
    rintro r _ s s' ⟨rfl, hr⟩ hs
    rw [hs.transform]
    exact ⟨rfl, hr.resolve_r1, hr.resolve_x0, hr.resolve_x1⟩

/-- No evaluation writes a register other than `r0`, wherever it stands and however it got there.
So `r1` and `x1` may stand for each other in any place of any guard: the evaluation acts at the same
steps, has the same registers after each of them and the same result. -/
theorem frozen_and_entries_eq_of_twin (t : Trig) (steps : List Step) (x0 x1 : Float32) :
    (∀ k, (registersAfter t steps x0 x1 k).Frozen x0 x1) ∧
    (∀ e ∈ (Trace.start steps x0 x1).entries t, e.registers.Frozen x0 x1) ∧
    (∀ queries : List Trace.Query,
      ((Trace.start steps x0 x1).askAll t queries).2.registers.Frozen x0 x1) ∧
    ∀ steps' : List Step, List.Forall₂ (Step.Matches Operand.Twin) steps steps' →
      ((Trace.start steps x0 x1).entries t).map (fun e => (e.index, e.fired, e.registers)) =
        ((Trace.start steps' x0 x1).entries t).map (fun e => (e.index, e.fired, e.registers)) ∧
      run t steps x0 x1 = run t steps' x0 x1 := by
  refine ⟨frozen_registersAfter t steps x0 x1,
    fun e => frozen_registers_of_mem_entries t steps x0 x1,
    frozen_registers_askAll t steps x0 x1, fun steps' hs => ⟨?_, ?_⟩⟩
  · rw [← List.forall₂_eq_eq_eq, List.forall₂_map_left_iff, List.forall₂_map_right_iff]
    refine ((coupling_twin t x0 x1).entriesFrom hs ⟨rfl, Registers.frozen_init x0 x1⟩ 0).imp ?_
    intro e e' h
    rw [h.index, h.fired, h.registers.1]
  · have hregisters := (coupling_twin t x0 x1).foldl_exec hs ⟨rfl, Registers.frozen_init x0 x1⟩
    exact congrArg Registers.r0 hregisters.1

theorem frozen_and_entries_eq_of_twin_both_ways :
    let steps : List Step := [.greater .r1 .x0 .cos, .greater .x1 .r0 .sin, .greater .r1 .r1 .cos]
    let steps' : List Step := [.greater .x1 .x0 .cos, .greater .r1 .r0 .sin, .greater .x1 .r1 .cos]
    (registersAfter Trig.platform steps 0.5 2 2).resolve .r1 = 2 ∧
    run Trig.platform steps 0.5 2 = run Trig.platform steps' 0.5 2 := by
  intro steps steps'
  obtain ⟨hfrozen, -, -, htwin⟩ := frozen_and_entries_eq_of_twin Trig.platform steps 0.5 2
  have hs : List.Forall₂ (Step.Matches Operand.Twin) steps steps' :=
    .cons ⟨.greater .r1_x1 (.same .x0), rfl⟩ (.cons ⟨.greater .x1_r1 (.same .r0), rfl⟩
      (.cons ⟨.greater .r1_x1 (.same .r1), rfl⟩ .nil))
  exact ⟨(hfrozen 2).resolve_r1, (htwin steps' hs).2⟩

end TwoSpirals
