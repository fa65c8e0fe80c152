import Mathlib.Data.List.Forall2
import TwoSpirals.Proofs.Trace

/-!
# Two evaluations in lockstep

A `Coupling` relates the registers of two evaluations and the steps that they take.  Related steps
are guarded alike in related registers, and acting keeps the registers related.  So the two
evaluations act at the same steps, and their registers are related after each of them
(`Coupling.entriesFrom`) and at the end (`Coupling.foldl_exec`).  A relation that holds at some
place only holds from there on (`Coupling.registersAfter`).
-/

namespace TwoSpirals

/-- Two evaluations that take related steps from related registers stay related. -/
structure Coupling (t : Trig) (R : Registers → Registers → Prop) (S : Step → Step → Prop) :
    Prop where
  passes : ∀ {r r' s s'}, R r r' → S s s' → r.passes s.guard = r'.passes s'.guard
  act : ∀ {r r' s s'}, R r r' → S s s' →
    R { r with r0 := s.transform.apply t r.r0 } { r' with r0 := s'.transform.apply t r'.r0 }

/-- What two steps did is the same but for the registers, which are related, and so are the
steps. -/
structure Trace.Entry.Coupled (R : Registers → Registers → Prop) (S : Step → Step → Prop)
    (e e' : Trace.Entry) : Prop where
  index : e.index = e'.index
  step : S e.step e'.step
  fired : e.fired = e'.fired
  registers : R e.registers e'.registers

namespace Coupling

variable {t : Trig} {R : Registers → Registers → Prop} {S : Step → Step → Prop}
  (h : Coupling t R S)
include h

theorem exec {r r' : Registers} {s s' : Step} (hr : R r r') (hs : S s s') :
    R (r.exec t s) (r'.exec t s') := by
  have hpass := h.passes hr hs
  cases hfired : r.passes s.guard with
  | true =>
    rw [Registers.exec_of_passes hfired, Registers.exec_of_passes (hpass.symm.trans hfired)]
    exact h.act hr hs
  | false =>
    rwa [Registers.exec_of_not_passes hfired, Registers.exec_of_not_passes (hpass.symm.trans hfired)]

theorem foldl_exec {steps steps' : List Step} (hs : List.Forall₂ S steps steps') {r r' : Registers}
    (hr : R r r') :
    R (steps.foldl (Registers.exec t) r) (steps'.foldl (Registers.exec t) r') := by
  induction hs generalizing r r' with
  | nil => exact hr
  | cons hs _ ih => exact ih (h.exec hr hs)

theorem entriesFrom {steps steps' : List Step} (hs : List.Forall₂ S steps steps')
    {r r' : Registers} (hr : R r r') (i : Nat) :
    List.Forall₂ (Trace.Entry.Coupled R S) (Trace.entriesFrom t i r steps)
      (Trace.entriesFrom t i r' steps') := by
  induction hs generalizing r r' i with
  | nil => exact .nil
  | cons hs _ ih =>
    have hexec := h.exec hr hs
    exact .cons ⟨rfl, hs, h.passes hr hs, hexec⟩ (ih hexec (i + 1))

/-- Evaluations that are related at some place are related from there on. -/
theorem registersAfter {steps steps' : List Step} (hs : List.Forall₂ S steps steps')
    {x0 x1 x0' x1' : Float32} {k m : Nat} (hkm : k ≤ m)
    (hk : R (registersAfter t steps x0 x1 k) (registersAfter t steps' x0' x1' k)) :
    R (registersAfter t steps x0 x1 m) (registersAfter t steps' x0' x1' m) := by
  induction hkm with
  | refl => exact hk
  | @step m _ ih =>
    have hlength := hs.length_eq
    rcases Nat.lt_or_ge m steps.length with hlt | hge
    · rw [registersAfter_succ hlt, registersAfter_succ (hlength ▸ hlt)]
      exact h.exec ih (hs.get hlt (hlength ▸ hlt))
    · rwa [registersAfter_succ_of_le hge, registersAfter_succ_of_le (hlength ▸ hge)]

end Coupling

end TwoSpirals
