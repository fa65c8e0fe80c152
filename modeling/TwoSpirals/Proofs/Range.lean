import TwoSpirals.Proofs.Idle
import TwoSpirals.Proofs.Trig

/-!
# The range of the register

Until a step acts `r0` is the first input.  A step that acts leaves a number of `[-1, 1]` or `NaN`
there, by whether the first input was a real number (`Settled`), and so does every step after it
(`Settled.exec`).  Neither the second input nor a literal has a part in it.
-/

namespace TwoSpirals

/-- What transforms leave of `x`: a number of `[-1, 1]` if `x` is a real number, `NaN` if not. -/
structure Settled (x y : Float32) : Prop where
  isFinite : x.isFinite = true → y.isFinite = true
  mem : x.isFinite = true → -1 ≤ y ∧ y ≤ 1
  isNaN : x.isFinite = false → y.isNaN = true

theorem Settled.isNaN_iff {x y : Float32} (h : Settled x y) :
    y.isNaN = true ↔ x.isFinite = false := by
  refine ⟨fun hnan => ?_, h.isNaN⟩
  rw [← Bool.not_eq_true]
  intro hx
  have hy := h.isFinite hx
  rw [Single.isFinite_eq_false_of_isNaN hnan] at hy
  cases hy

/-- What holds of `r0` before a step and of its transform holds of `r0` after the step. -/
theorem Registers.r0_exec_of_apply {P : Float32 → Prop} {t : Trig} {r : Registers} {s : Step}
    (h : P r.r0) (happly : P (s.transform.apply t r.r0)) : P (r.exec t s).r0 := by
  unfold exec
  split
  · exact happly
  · exact h

section

variable {t : Trig} (ht : t.Ranged)
include ht

/-! ## Steps -/

theorem settled_apply (f : Transform) (x : Float32) : Settled x (f.apply t x) where
  isFinite h :=
    have hmem := ht.apply_mem f x h
    Single.isFinite_of_le_of_le (by decide) (by decide) hmem.1 hmem.2
  mem := ht.apply_mem f x
  isNaN := ht.isNaN_apply f x

theorem isNaN_apply_of_isNaN (f : Transform) {x : Float32} (h : x.isNaN = true) :
    (f.apply t x).isNaN = true :=
  ht.isNaN_apply f x (Single.isFinite_eq_false_of_isNaN h)

/-- A transform keeps to the side of its argument. -/
theorem Settled.apply {x y : Float32} (h : Settled x y) (f : Transform) :
    Settled x (f.apply t y) where
  isFinite hx := (settled_apply ht f y).isFinite (h.isFinite hx)
  mem hx := ht.apply_mem f y (h.isFinite hx)
  isNaN hx := isNaN_apply_of_isNaN ht f (h.isNaN hx)

theorem settled_apply_of_eq_or {x y : Float32} (h : y = x ∨ Settled x y) (f : Transform) :
    Settled x (f.apply t y) := by
  rcases h with rfl | h
  · exact settled_apply ht f y
  · exact h.apply ht f

theorem Settled.exec {x : Float32} (r : Registers) (s : Step) (h : Settled x r.r0) :
    Settled x (r.exec t s).r0 :=
  Registers.r0_exec_of_apply h (h.apply ht s.transform)

theorem eq_or_settled_exec {x : Float32} (r : Registers) (s : Step)
    (h : r.r0 = x ∨ Settled x r.r0) : (r.exec t s).r0 = x ∨ Settled x (r.exec t s).r0 :=
  Registers.r0_exec_of_apply (P := fun y => y = x ∨ Settled x y) h
    (.inr (settled_apply_of_eq_or ht h s.transform))

theorem isNaN_r0_exec (r : Registers) (s : Step) (h : r.r0.isNaN = true) :
    (r.exec t s).r0.isNaN = true :=
  Registers.r0_exec_of_apply (P := fun y => y.isNaN = true) h
    (isNaN_apply_of_isNaN ht s.transform h)

/-! ## Runs -/

/-- Once a step has acted, the register is settled and stays so. -/
theorem settled_registersAfter {steps : List Step} {x0 x1 : Float32} {m : Nat}
    (h : ∃ e ∈ (Trace.start steps x0 x1).entries t, e.index < m ∧ e.fired = true) :
    Settled x0 (registersAfter t steps x0 x1 m).r0 := by
  obtain ⟨e, he, hlt, hfired⟩ := h
  obtain ⟨k, hk, rfl⟩ := Trace.mem_entries_start_iff.1 he
  -- Whether another step has acted before this one is not known.
  have hbefore : (registersAfter t steps x0 x1 k).r0 = x0 ∨
      Settled x0 (registersAfter t steps x0 x1 k).r0 :=
    registersAfter_of_exec (eq_or_settled_exec ht) (Nat.zero_le k) (.inl rfl)
  have hafter : Settled x0 (registersAfter t steps x0 x1 (k + 1)).r0 := by
    rw [registersAfter_succ hk, Registers.exec_of_passes hfired]
    exact settled_apply_of_eq_or ht hbefore steps[k].transform
  exact registersAfter_of_exec (P := fun r => Settled x0 r.r0) (Settled.exec ht) hlt hafter

variable {steps : List Step} {x0 x1 : Float32} {e : Trace.Entry}
  (he : e ∈ (Trace.start steps x0 x1).entries t)
include he

theorem settled_of_fired
    (h : ∃ d ∈ (Trace.start steps x0 x1).entries t, d.index ≤ e.index ∧ d.fired = true) :
    Settled x0 e.registers.r0 := by
  obtain ⟨d, hd, hle, hfired⟩ := h
  rw [Trace.registers_of_mem_entries he]
  exact settled_registersAfter ht ⟨d, hd, Nat.lt_succ_of_le hle, hfired⟩

/-- The register is `NaN` by the first input, or by a transform of one that is not a real number. -/
theorem isNaN_r0_iff : e.registers.r0.isNaN = true ↔ x0.isNaN = true ∨ x0.isFinite = false ∧
    ∃ d ∈ (Trace.start steps x0 x1).entries t, d.index ≤ e.index ∧ d.fired = true := by
  by_cases hfired : ∃ d ∈ (Trace.start steps x0 x1).entries t, d.index ≤ e.index ∧ d.fired = true
  · rw [(settled_of_fired ht he hfired).isNaN_iff]
    refine ⟨fun h => .inr ⟨h, hfired⟩, ?_⟩
    rintro (h | h)
    · exact Single.isFinite_eq_false_of_isNaN h
    · exact h.1
  · have hidle : ∀ d ∈ (Trace.start steps x0 x1).entries t, d.index ≤ e.index →
        d.fired = false := by
      intro d hd hle
      rw [← Bool.not_eq_true]
      exact fun h => hfired ⟨d, hd, hle, h⟩
    rw [Trace.r0_of_not_fired he hidle, or_iff_left fun h => hfired h.2]

end

/-- The register is the first input until a step acts.  After that it is a number of `[-1, 1]` if
the first input was a real number, and `NaN` if not.  A register that is `NaN` stays so, and no guard
that reads `NaN` passes.  Whether the register is `NaN` is a matter of the first input and of the
steps that have acted, whatever the second input and the literals are. -/
theorem r0_of_entries {t : Trig} (ht : t.Ranged) (steps : List Step) (x0 x1 : Float32) :
    let entries := (Trace.start steps x0 x1).entries t
    (∀ e ∈ entries,
      ((∀ d ∈ entries, d.index ≤ e.index → d.fired = false) → e.registers.r0 = x0) ∧
      ((∃ d ∈ entries, d.index ≤ e.index ∧ d.fired = true) → Settled x0 e.registers.r0)) ∧
    (∀ k, (registersAfter t steps x0 x1 k).r0.isNaN = true →
      (∀ m, k ≤ m → (registersAfter t steps x0 x1 m).r0.isNaN = true) ∧
      ∀ e ∈ entries, k ≤ e.index → .r0 ∈ e.step.guard.operands → e.fired = false) ∧
    (∀ e ∈ entries, ∀ o ∈ e.step.guard.operands,
      ((registersAfter t steps x0 x1 e.index).resolve o).isNaN = true → e.fired = false) ∧
    ∀ e ∈ entries, e.registers.r0.isNaN = true ↔ x0.isNaN = true ∨
      x0.isFinite = false ∧ ∃ d ∈ entries, d.index ≤ e.index ∧ d.fired = true := by
  intro entries
  refine ⟨fun e he => ⟨Trace.r0_of_not_fired he, settled_of_fired ht he⟩, fun k hk => ?_,
    fun e he o => Trace.fired_eq_false_of_isNaN he, fun e he => isNaN_r0_iff ht he⟩
  have hnan : ∀ m, k ≤ m → (registersAfter t steps x0 x1 m).r0.isNaN = true :=
    fun m hkm => registersAfter_of_exec (isNaN_r0_exec ht) hkm hk
  exact ⟨hnan, fun e he hle hr0 => Trace.fired_eq_false_of_isNaN he hr0 (hnan e.index hle)⟩

theorem r0_of_entries_infinite :
    let steps : List Step := [.greater .x1 .r0 .cos, .always .sin, .greater .r0 (.literal 1) .cos]
    (Trace.entryAt Trig.platform steps Single.infinity 2 0 (by decide)).registers.r0 =
      Single.infinity ∧
    (Trace.entryAt Trig.platform steps Single.infinity 2 2 (by decide)).registers.r0.isNaN = true ∧
    (Trace.entryAt Trig.platform steps Single.infinity 2 2 (by decide)).fired = false ∧
    -1 ≤ (Trace.entryAt Trig.platform steps 0.5 Single.nan 2 (by decide)).registers.r0 := by
  intro steps
  have ht := Trig.lawful_platform.ranged
  obtain ⟨hinfinite, hsticky, -, -⟩ := r0_of_entries ht steps Single.infinity 2
  obtain ⟨hfinite, -, -, -⟩ := r0_of_entries ht steps 0.5 Single.nan
  have hnan : (Trace.entryAt Trig.platform steps Single.infinity 2 1 (by decide)).registers.r0.isNaN
      = true :=
    ((hinfinite _ (Trace.entryAt_mem_entries (by decide))).2
      ⟨_, Trace.entryAt_mem_entries (by decide), Nat.le_refl 1, rfl⟩).isNaN (by decide)
  refine ⟨?_, (hsticky 2 hnan).1 3 (by decide), ?_, ?_⟩
  · exact (hinfinite _ (Trace.entryAt_mem_entries (by decide))).1 (by decide)
  · exact (hsticky 2 hnan).2 _ (Trace.entryAt_mem_entries (by decide)) (Nat.le_refl 2) (by decide)
  · exact (((hfinite _ (Trace.entryAt_mem_entries (by decide))).2
      ⟨_, Trace.entryAt_mem_entries (by decide), Nat.le_succ 1, rfl⟩).mem (by decide)).1

end TwoSpirals
