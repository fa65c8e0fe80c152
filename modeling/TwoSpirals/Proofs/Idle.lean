import TwoSpirals.Proofs.Frozen
import TwoSpirals.Proofs.Single.Order

/-!
# Steps that do not act

A step that does not act leaves the registers as they were, so an evaluation may do without it: the
steps that are kept do what they did (`effect_entriesFrom_filter`) and the registers end the same
(`foldl_exec_filter`).  Where only the steps that act are kept nothing depends on a guard any more,
and the result is what their transforms make of the first input (`r0_foldl_exec`).
-/

namespace TwoSpirals

/-- Some transforms one after the other. -/
def Transform.applyAll (t : Trig) (fs : List Transform) (x : Float32) : Float32 :=
  fs.foldl (fun x f => f.apply t x) x

namespace Trace

/-- What a step did, wherever it stands in a list. -/
def Entry.effect (e : Entry) : Step × Bool × Registers := (e.step, e.fired, e.registers)

/-- The steps of the entries that are kept. -/
def keptSteps (keep : Entry → Bool) (entries : List Entry) : List Step :=
  (entries.filter keep).map Entry.step

/-- The transforms of the steps that acted. -/
def applied (entries : List Entry) : List Transform :=
  (entries.filter Entry.fired).map fun e => e.step.transform

variable {t : Trig} {steps : List Step} {x0 x1 : Float32}

/-! ## Comparisons that never pass -/

/-- A number is not greater than itself, under whichever name. -/
theorem fired_eq_false_of_twin {e : Entry} (he : e ∈ (start steps x0 x1).entries t) {a b : Operand}
    (hguard : e.step.guard = .greater a b) (hab : a.Twin b) : e.fired = false := by
  rw [fired_of_mem_entries he, hguard]
  refine decide_eq_false ?_
  rw [hab.resolve_eq (frozen_registersAfter t steps x0 x1 e.index)]
  exact Single.lt_irrefl _

/-- A step that compares with `NaN` does not act. -/
theorem fired_eq_false_of_isNaN {e : Entry} (he : e ∈ (start steps x0 x1).entries t) {o : Operand}
    (ho : o ∈ e.step.guard.operands)
    (h : ((registersAfter t steps x0 x1 e.index).resolve o).isNaN = true) : e.fired = false := by
  rw [fired_of_mem_entries he]
  exact Registers.passes_eq_false_of_isNaN ho h

/-! ## Leaving out steps -/

theorem map_step_entriesFrom (i : Nat) (r : Registers) :
    (entriesFrom t i r steps).map Entry.step = steps := by
  induction steps generalizing i r with
  | nil => rfl
  | cons s rest ih => rw [entriesFrom, List.map_cons, ih]

theorem map_step_entries : ((start steps x0 x1).entries t).map Entry.step = steps :=
  map_step_entriesFrom 0 (.init x0 x1)

section

variable {keep : Entry → Bool}

theorem keptSteps_cons_of_keep {e : Entry} {entries : List Entry} (h : keep e = true) :
    keptSteps keep (e :: entries) = e.step :: keptSteps keep entries := by
  rw [keptSteps, List.filter_cons_of_pos h]
  rfl

theorem keptSteps_cons_of_not_keep {e : Entry} {entries : List Entry} (h : keep e = false) :
    keptSteps keep (e :: entries) = keptSteps keep entries := by
  rw [keptSteps, List.filter_cons_of_neg (Bool.eq_false_iff.1 h)]
  rfl

theorem keptSteps_sublist : (keptSteps keep ((start steps x0 x1).entries t)).Sublist steps := by
  have hsublist := (List.filter_sublist (p := keep) (l := (start steps x0 x1).entries t)).map
    Entry.step
  rwa [map_step_entries] at hsublist

/-- A step that is left out changes nothing. -/
theorem exec_of_not_keep {i : Nat} {r : Registers} {s : Step} {entries : List Entry}
    (hkeep : ∀ e ∈ ⟨i, s, r.passes s.guard, r.exec t s⟩ :: entries, e.fired = true → keep e = true)
    (h : keep ⟨i, s, r.passes s.guard, r.exec t s⟩ = false) : r.exec t s = r := by
  refine Registers.exec_of_not_passes ?_
  rw [← Bool.not_eq_true]
  intro hpass
  rw [hkeep _ List.mem_cons_self hpass] at h
  cases h

/-- The steps that are kept do what they did. -/
theorem effect_entriesFrom_filter (i j : Nat) (r : Registers)
    (hkeep : ∀ e ∈ entriesFrom t i r steps, e.fired = true → keep e = true) :
    (entriesFrom t j r (keptSteps keep (entriesFrom t i r steps))).map Entry.effect =
      ((entriesFrom t i r steps).filter keep).map Entry.effect := by
  -- The indices come apart where a step is left out, so each list has its own.
  induction steps generalizing i j r with
  | nil => rfl
  | cons s rest ih =>
    rw [entriesFrom] at hkeep ⊢
    have hrest := fun e he => hkeep e (List.mem_cons_of_mem _ he)
    cases hhead : keep ⟨i, s, r.passes s.guard, r.exec t s⟩ with
    | true =>
      rw [keptSteps_cons_of_keep hhead, List.filter_cons_of_pos hhead, entriesFrom, List.map_cons,
        List.map_cons, ih (i + 1) (j + 1) (r.exec t s) hrest]
      rfl
    | false =>
      rw [keptSteps_cons_of_not_keep hhead, List.filter_cons_of_neg (Bool.eq_false_iff.1 hhead)]
      rw [exec_of_not_keep hkeep hhead] at hrest ⊢
      exact ih (i + 1) j r hrest

/-- The registers end as they did. -/
theorem foldl_exec_filter (i : Nat) (r : Registers)
    (hkeep : ∀ e ∈ entriesFrom t i r steps, e.fired = true → keep e = true) :
    (keptSteps keep (entriesFrom t i r steps)).foldl (Registers.exec t) r =
      steps.foldl (Registers.exec t) r := by
  induction steps generalizing i r with
  | nil => rfl
  | cons s rest ih =>
    rw [entriesFrom] at hkeep ⊢
    have hrest := fun e he => hkeep e (List.mem_cons_of_mem _ he)
    rw [List.foldl_cons, ← ih (i + 1) (r.exec t s) hrest]
    cases hhead : keep ⟨i, s, r.passes s.guard, r.exec t s⟩ with
    | true => rw [keptSteps_cons_of_keep hhead, List.foldl_cons]
    | false => rw [keptSteps_cons_of_not_keep hhead, exec_of_not_keep hkeep hhead]

variable (hkeep : ∀ e ∈ (start steps x0 x1).entries t, e.fired = true → keep e = true)
include hkeep

theorem effect_entries_filter :
    ((start (keptSteps keep ((start steps x0 x1).entries t)) x0 x1).entries t).map Entry.effect =
      (((start steps x0 x1).entries t).filter keep).map Entry.effect :=
  effect_entriesFrom_filter 0 0 (.init x0 x1) hkeep

theorem run_filter :
    run t (keptSteps keep ((start steps x0 x1).entries t)) x0 x1 = run t steps x0 x1 :=
  congrArg Registers.r0 (foldl_exec_filter 0 (.init x0 x1) hkeep)

end

/-- Where only the steps that act are kept, every step acts. -/
theorem fired_of_mem_entries_filter {e : Entry}
    (he : e ∈ (start (keptSteps Entry.fired ((start steps x0 x1).entries t)) x0 x1).entries t) :
    e.fired = true := by
  have hmem := List.mem_map_of_mem (f := Entry.effect) he
  rw [effect_entries_filter fun _ _ h => h] at hmem
  obtain ⟨d, hd, hde⟩ := List.mem_map.1 hmem
  have hfired : d.fired = e.fired := congrArg (fun effect => effect.2.1) hde
  exact hfired.symm.trans (List.mem_filter.1 hd).2

/-! ## The transforms applied -/

theorem applied_entriesFrom_cons (i : Nat) (r : Registers) (s : Step) :
    applied (entriesFrom t i r (s :: steps)) =
      if r.passes s.guard = true then
        s.transform :: applied (entriesFrom t (i + 1) (r.exec t s) steps)
      else applied (entriesFrom t (i + 1) (r.exec t s) steps) := by
  rw [entriesFrom, applied, List.filter_cons]
  split <;> rfl

/-- The register is what the transforms applied make of what it was. -/
theorem r0_foldl_exec (i : Nat) (r : Registers) :
    (steps.foldl (Registers.exec t) r).r0 =
      Transform.applyAll t (applied (entriesFrom t i r steps)) r.r0 := by
  induction steps generalizing i r with
  | nil => rfl
  | cons s rest ih =>
    rw [List.foldl_cons, ih (i + 1), applied_entriesFrom_cons]
    cases hpass : r.passes s.guard with
    | true =>
      rw [if_pos rfl, Registers.exec_of_passes hpass]
      rfl
    | false => rw [if_neg Bool.false_ne_true, Registers.exec_of_not_passes hpass]

/-- Where no step has acted yet, the registers are those of the start. -/
theorem registersAfter_of_not_fired {k : Nat}
    (h : ∀ e ∈ (start steps x0 x1).entries t, e.index < k → e.fired = false) :
    registersAfter t steps x0 x1 k = .init x0 x1 := by
  induction k with
  | zero => rfl
  | succ k ih =>
    have hinit := ih fun e he hlt => h e he (Nat.lt_succ_of_lt hlt)
    rcases Nat.lt_or_ge k steps.length with hlt | hge
    · have hpass := h _ (entryAt_mem_entries hlt) (Nat.lt_succ_self k)
      rw [registersAfter_succ hlt, Registers.exec_of_not_passes hpass, hinit]
    · rw [registersAfter_succ_of_le hge, hinit]

theorem r0_of_not_fired {e : Entry} (he : e ∈ (start steps x0 x1).entries t)
    (h : ∀ d ∈ (start steps x0 x1).entries t, d.index ≤ e.index → d.fired = false) :
    e.registers.r0 = x0 := by
  rw [registers_of_mem_entries he,
    registersAfter_of_not_fired fun d hd hlt => h d hd (Nat.le_of_lt_succ hlt)]
  rfl

/-- Steps that do not act can be left out, all of them or some, without a change to what the others
do or to the result.  What acts is then left as a row of transforms, applied to the first input.
Among the steps that do not act are those that compare a number with itself or with `NaN`. -/
theorem run_of_kept (t : Trig) (steps : List Step) (x0 x1 : Float32) :
    let entries := (start steps x0 x1).entries t
    let acting := keptSteps Entry.fired entries
    entries.map Entry.step = steps ∧
    (∀ keep : Entry → Bool, (∀ e ∈ entries, e.fired = true → keep e = true) →
      let kept := keptSteps keep entries
      kept.Sublist steps ∧
      ((start kept x0 x1).entries t).map Entry.effect = (entries.filter keep).map Entry.effect ∧
      run t kept x0 x1 = run t steps x0 x1) ∧
    ((∀ e ∈ (start acting x0 x1).entries t, e.fired = true) ∧
      run t acting x0 x1 = Transform.applyAll t (applied entries) x0 ∧
      run t acting x0 x1 = run t steps x0 x1) ∧
    ((∀ e ∈ entries, e.fired = false) → run t steps x0 x1 = x0) ∧
    ∀ e ∈ entries, ∀ a b, e.step.guard = .greater a b →
      a.Twin b ∨ ((registersAfter t steps x0 x1 e.index).resolve a).isNaN = true ∨
        ((registersAfter t steps x0 x1 e.index).resolve b).isNaN = true →
      e.fired = false := by
  intro entries acting
  have hacting : run t acting x0 x1 = run t steps x0 x1 := run_filter fun _ _ h => h
  refine ⟨map_step_entries,
    fun keep h => ⟨keptSteps_sublist, effect_entries_filter h, run_filter h⟩,
    ⟨fun _ => fired_of_mem_entries_filter, ?_, hacting⟩, ?_, ?_⟩
  · exact hacting.trans (r0_foldl_exec 0 (.init x0 x1))
  · intro h
    rw [← r0_registersAfter_length, registersAfter_of_not_fired fun e he _ => h e he]
    rfl
  · intro e he a b hguard hidle
    have hoperands : e.step.guard.operands = [a, b] := congrArg Guard.operands hguard
    rcases hidle with htwin | hnan | hnan
    · exact fired_eq_false_of_twin he hguard htwin
    · exact fired_eq_false_of_isNaN he (by simp [hoperands]) hnan
    · exact fired_eq_false_of_isNaN he (by simp [hoperands]) hnan

theorem run_of_kept_less_one :
    (let steps : List Step := [.greater .r0 .r0 .cos, .always .sin,
        .greater (.literal 2) (.literal 3) .cos, .always .cos]
      let kept : List Step := [.always .sin, .greater (.literal 2) (.literal 3) .cos, .always .cos]
      run Trig.platform kept 0.5 7 = run Trig.platform steps 0.5 7 ∧
      run Trig.platform kept 0.5 7 = Trig.platform.cos (Trig.platform.sin 0.5)) ∧
    run Trig.platform [.greater .x1 .r1 .cos, .greater .x0 (.literal Single.nan) .sin] (-0) 1 =
      -0 := by
  constructor
  · intro steps kept
    obtain ⟨-, hkept, ⟨-, hresult, hacting⟩, -, -⟩ := run_of_kept Trig.platform steps 0.5 7
    have hrun : run Trig.platform kept 0.5 7 = run Trig.platform steps 0.5 7 :=
      (hkept (fun e => e.index != 0) (by decide)).2.2
    have happlied : applied ((start steps 0.5 7).entries Trig.platform) = [.sin, .cos] := by decide
    rw [happlied] at hresult
    exact ⟨hrun, hrun.trans (hacting.symm.trans hresult)⟩
  · exact (run_of_kept Trig.platform _ (-0) 1).2.2.2.1 (by decide)

end Trace

end TwoSpirals
