import TwoSpirals.Trace

/-!
# Traces and runs

A trace carries the steps to come, an index and the registers, and moves all three together.
`Trace.after` is the trace that a fold over the first `k` steps makes, and a query asked of it gives
an answer that is a function of `k` alone and leads to another such trace (`ask_after`).  So
whatever is asked, in any order, a trace stays where the fold is (`askAll_after`), and where it ends
the fold is the run.
-/

namespace TwoSpirals

/-- The registers after the first `k` steps. -/
def registersAfter (t : Trig) (steps : List Step) (x0 x1 : Float32) (k : Nat) : Registers :=
  (steps.take k).foldl (Registers.exec t) (.init x0 x1)

variable {t : Trig} {steps : List Step} {x0 x1 : Float32}

theorem registersAfter_succ {k : Nat} (h : k < steps.length) :
    registersAfter t steps x0 x1 (k + 1) = (registersAfter t steps x0 x1 k).exec t steps[k] := by
  rw [registersAfter, List.take_succ_eq_append_getElem h, List.foldl_append]
  rfl

theorem registersAfter_succ_of_le {k : Nat} (h : steps.length ≤ k) :
    registersAfter t steps x0 x1 (k + 1) = registersAfter t steps x0 x1 k := by
  rw [registersAfter, registersAfter, List.take_of_length_le h,
    List.take_of_length_le (Nat.le_succ_of_le h)]

/-- What every step keeps holds on from wherever it holds. -/
theorem registersAfter_of_exec {P : Registers → Prop}
    (hexec : ∀ (r : Registers) (s : Step), P r → P (r.exec t s)) {k m : Nat} (hkm : k ≤ m)
    (hk : P (registersAfter t steps x0 x1 k)) : P (registersAfter t steps x0 x1 m) := by
  induction hkm with
  | refl => exact hk
  | @step m _ ih =>
    rcases Nat.lt_or_ge m steps.length with hlt | hge
    · rw [registersAfter_succ hlt]
      exact hexec _ _ ih
    · rwa [registersAfter_succ_of_le hge]

theorem r0_registersAfter_length :
    (registersAfter t steps x0 x1 steps.length).r0 = run t steps x0 x1 := by
  rw [registersAfter, List.take_length, run]

namespace Trace

/-- What the step with index `k` does. -/
def entryAt (t : Trig) (steps : List Step) (x0 x1 : Float32) (k : Nat)
    (h : k < steps.length) : Entry where
  index := k
  step := steps[k]
  fired := (registersAfter t steps x0 x1 k).passes steps[k].guard
  registers := registersAfter t steps x0 x1 (k + 1)

/-- What the step with index `k` does, if there is such a step. -/
def entryAt? (t : Trig) (steps : List Step) (x0 x1 : Float32) (k : Nat) : Option Entry :=
  if h : k < steps.length then some (entryAt t steps x0 x1 k h) else none

theorem entryAt?_of_lt {k : Nat} (h : k < steps.length) :
    entryAt? t steps x0 x1 k = some (entryAt t steps x0 x1 k h) := dif_pos h

theorem entryAt?_of_le {k : Nat} (h : steps.length ≤ k) : entryAt? t steps x0 x1 k = none :=
  dif_neg (Nat.not_lt.2 h)

/-- The trace with the first `k` steps taken. -/
def after (t : Trig) (steps : List Step) (x0 x1 : Float32) (k : Nat) : Trace :=
  ⟨k, steps.drop k, registersAfter t steps x0 x1 k⟩

theorem length_after (k : Nat) : (after t steps x0 x1 k).length = steps.length - k :=
  List.length_drop

/-! ## Steps -/

theorem next?_after_of_lt {k : Nat} (h : k < steps.length) :
    (after t steps x0 x1 k).next? t =
      some (entryAt t steps x0 x1 k h, after t steps x0 x1 (k + 1)) := by
  unfold after next?
  rw [List.drop_eq_getElem_cons h]
  simp only [entryAt, registersAfter_succ h]

theorem next?_after_length : (after t steps x0 x1 steps.length).next? t = none := by
  unfold after next?
  rw [List.drop_length]

/-- Leaving steps out goes as far as there are steps. -/
theorem nth?_after (n : Nat) {k : Nat} (h : k ≤ steps.length) :
    (after t steps x0 x1 k).nth? t n =
      (entryAt? t steps x0 x1 (k + n), after t steps x0 x1 (min (k + n + 1) steps.length)) := by
  induction n generalizing k with
  | zero =>
    simp only [Nat.add_zero]
    rcases Nat.lt_or_eq_of_le h with hlt | rfl
    · rw [nth?, next?_after_of_lt hlt, entryAt?_of_lt hlt, Nat.min_eq_left hlt]
    · rw [nth?, next?_after_length, entryAt?_of_le (Nat.le_refl _),
        Nat.min_eq_right (Nat.le_succ _)]
  | succ n ih =>
    rcases Nat.lt_or_eq_of_le h with hlt | rfl
    · rw [nth?, next?_after_of_lt hlt]
      simp only
      rw [ih hlt, show k + 1 + n = k + (n + 1) by omega]
    · rw [nth?, next?_after_length, entryAt?_of_le (by omega), Nat.min_eq_right (by omega)]

/-! ## Entries -/

theorem length_entriesFrom (i : Nat) (r : Registers) :
    (entriesFrom t i r steps).length = steps.length := by
  induction steps generalizing i r with
  | nil => rfl
  | cons s rest ih => rw [entriesFrom, List.length_cons, ih, List.length_cons]

theorem length_entries_after (k : Nat) :
    ((after t steps x0 x1 k).entries t).length = steps.length - k :=
  (length_entriesFrom _ _).trans List.length_drop

/-- The entries of a trace are what its next steps will tell, one after the other. -/
theorem entries_eq_match (tr : Trace) :
    tr.entries t = match tr.next? t with
      | none => []
      | some (e, tr') => e :: tr'.entries t := by
  obtain ⟨i, steps, r⟩ := tr
  cases steps <;> rfl

theorem getElem?_entries_after (i : Nat) {k : Nat} (h : k ≤ steps.length) :
    ((after t steps x0 x1 k).entries t)[i]? = entryAt? t steps x0 x1 (k + i) := by
  induction i generalizing k with
  | zero =>
    rw [entries_eq_match]
    rcases Nat.lt_or_eq_of_le h with hlt | rfl
    · rw [next?_after_of_lt hlt]
      exact (entryAt?_of_lt hlt).symm
    · rw [next?_after_length]
      exact (entryAt?_of_le (Nat.le_refl _)).symm
  | succ i ih =>
    rw [entries_eq_match]
    rcases Nat.lt_or_eq_of_le h with hlt | rfl
    · rw [next?_after_of_lt hlt]
      simp only [List.getElem?_cons_succ]
      rw [ih hlt, show k + 1 + i = k + (i + 1) by omega]
    · rw [next?_after_length]
      exact (entryAt?_of_le (by omega)).symm

theorem mem_entries_start_iff {e : Entry} :
    e ∈ (start steps x0 x1).entries t ↔
      ∃ (k : Nat) (h : k < steps.length), entryAt t steps x0 x1 k h = e := by
  have hget (k : Nat) : ((start steps x0 x1).entries t)[k]? = entryAt? t steps x0 x1 k :=
    (getElem?_entries_after k (Nat.zero_le _)).trans (by rw [Nat.zero_add])
  rw [List.mem_iff_getElem?]
  refine exists_congr fun k => ?_
  rw [hget]
  rcases Nat.lt_or_ge k steps.length with hlt | hge
  · rw [entryAt?_of_lt hlt, Option.some.injEq, exists_prop_of_true hlt]
  · simp [entryAt?_of_le hge, Nat.not_lt.2 hge]

theorem entryAt_mem_entries {k : Nat} (h : k < steps.length) :
    entryAt t steps x0 x1 k h ∈ (start steps x0 x1).entries t :=
  mem_entries_start_iff.2 ⟨k, h, rfl⟩

theorem fired_of_mem_entries {e : Entry} (he : e ∈ (start steps x0 x1).entries t) :
    e.fired = (registersAfter t steps x0 x1 e.index).passes e.step.guard := by
  obtain ⟨k, hk, rfl⟩ := mem_entries_start_iff.1 he
  rfl

theorem registers_of_mem_entries {e : Entry} (he : e ∈ (start steps x0 x1).entries t) :
    e.registers = registersAfter t steps x0 x1 (e.index + 1) := by
  obtain ⟨k, hk, rfl⟩ := mem_entries_start_iff.1 he
  rfl

theorem last?_after {k : Nat} (h : k ≤ steps.length) :
    (after t steps x0 x1 k).last? t =
      if k < steps.length then entryAt? t steps x0 x1 (steps.length - 1) else none := by
  rw [last?, List.getLast?_eq_getElem?, length_entries_after, getElem?_entries_after _ h]
  split
  · congr 1
    omega
  · exact entryAt?_of_le (by omega)

/-! ## Queries -/

/-- The number of steps taken after a query, of `n` steps of which `k` were taken before it. -/
def Query.advance (n k : Nat) : Query → Nat
  | next => min (k + 1) n
  | nth m => min (k + m + 1) n
  | peek | last | length | registers => k

theorem Query.advance_le {n k : Nat} (h : k ≤ n) (q : Query) : q.advance n k ≤ n := by
  cases q with
  | next => exact Nat.min_le_right _ _
  | nth m => exact Nat.min_le_right _ _
  | peek | last | length | registers => exact h

/-- The answer to a query after `k` steps. -/
def Query.answer (t : Trig) (steps : List Step) (x0 x1 : Float32) (k : Nat) :
    Query → Reply
  | next | peek => .entry (entryAt? t steps x0 x1 k)
  | nth m => .entry (entryAt? t steps x0 x1 (k + m))
  | last => .entry (if k < steps.length then entryAt? t steps x0 x1 (steps.length - 1) else none)
  | length => .length (steps.length - k)
  | registers => .registers (registersAfter t steps x0 x1 k)

theorem peek?_after {k : Nat} (h : k ≤ steps.length) :
    (after t steps x0 x1 k).peek? t = entryAt? t steps x0 x1 k := by
  rcases Nat.lt_or_eq_of_le h with hlt | rfl
  · rw [peek?, next?_after_of_lt hlt, entryAt?_of_lt hlt]
    rfl
  · rw [peek?, next?_after_length, entryAt?_of_le (Nat.le_refl _)]
    rfl

/-- A query leads from a trace where the fold is to another one. -/
theorem ask_after {k : Nat} (h : k ≤ steps.length) (q : Query) :
    (after t steps x0 x1 k).ask t q =
      (q.answer t steps x0 x1 k, after t steps x0 x1 (q.advance steps.length k)) := by
  cases q with
  | next => rw [ask, nth?_after 0 h]; rfl
  | nth m => rw [ask, nth?_after m h]; rfl
  | peek => rw [ask, peek?_after h]; rfl
  | last => rw [ask, last?_after h]; rfl
  | length => rw [ask, length_after]; rfl
  | registers => rfl

/-- So do queries one after the other. -/
theorem askAll_after (queries : List Query) {k : Nat} (h : k ≤ steps.length) :
    ((after t steps x0 x1 k).askAll t queries).2 =
      after t steps x0 x1 (queries.foldl (Query.advance steps.length) k) := by
  induction queries generalizing k with
  | nil => rfl
  | cons q queries ih =>
    rw [askAll, ask_after h]
    exact ih (q.advance_le h)

theorem foldl_advance_le (queries : List Query) {n k : Nat} (h : k ≤ n) :
    queries.foldl (Query.advance n) k ≤ n := by
  induction queries generalizing k with
  | nil => exact h
  | cons q queries ih => exact ih (q.advance_le h)

theorem getElem?_askAll_append_cons (tr : Trace) (queries later : List Query) (q : Query) :
    (tr.askAll t (queries ++ q :: later)).1[queries.length]? =
      some ((tr.askAll t queries).2.ask t q).1 := by
  induction queries generalizing tr with
  | nil => rfl
  | cons q' queries ih => exact ih (tr.ask t q').2

/-! ## What a trace tells -/

/-- The answers of a trace with `k` steps taken, and the traces they lead to. -/
structure Follows (t : Trig) (steps : List Step) (x0 x1 : Float32) (k : Nat) (tr : Trace) :
    Prop where
  le_length : k ≤ steps.length
  registers : tr.ask t .registers = (.registers (registersAfter t steps x0 x1 k), tr)
  length : tr.ask t .length = (.length (steps.length - k), tr)
  next_eq_none_iff : (tr.ask t .next).1 = .entry none ↔ k = steps.length
  next : ∀ h : k < steps.length, tr.ask t .next =
    (.entry (some ⟨k, steps[k], (registersAfter t steps x0 x1 k).passes steps[k].guard,
      registersAfter t steps x0 x1 (k + 1)⟩), after t steps x0 x1 (k + 1))
  nth : ∀ (n : Nat) (h : k + n < steps.length), tr.ask t (.nth n) =
    (.entry (some (entryAt t steps x0 x1 (k + n) h)), after t steps x0 x1 (k + n + 1))
  nth_of_le : ∀ n, steps.length ≤ k + n →
    tr.ask t (.nth n) = (.entry none, after t steps x0 x1 steps.length)
  peek : tr.ask t .peek = ((tr.ask t .next).1, tr)
  last : ∀ h : k < steps.length, tr.ask t .last =
    (.entry (some (entryAt t steps x0 x1 (steps.length - 1) (by omega))), tr)
  last_of_eq : k = steps.length → tr.ask t .last = (.entry none, tr)

theorem follows_after {k : Nat} (h : k ≤ steps.length) :
    Follows t steps x0 x1 k (after t steps x0 x1 k) where
  le_length := h
  registers := rfl
  length := ask_after h .length
  next_eq_none_iff := by
    rw [ask_after h]
    rcases Nat.lt_or_eq_of_le h with hlt | rfl
    · simp [Query.answer, entryAt?_of_lt hlt, Nat.ne_of_lt hlt]
    · simp [Query.answer, entryAt?_of_le (Nat.le_refl _)]
  next hlt := by
    rw [ask_after h, Query.answer, entryAt?_of_lt hlt, Query.advance, Nat.min_eq_left hlt]
    rfl
  nth n hlt := by
    rw [ask_after h, Query.answer, entryAt?_of_lt hlt, Query.advance, Nat.min_eq_left hlt]
  nth_of_le n hle := by
    rw [ask_after h, Query.answer, entryAt?_of_le hle, Query.advance,
      Nat.min_eq_right (Nat.le_succ_of_le hle)]
  peek := by rw [ask_after h, ask_after h]; rfl
  last hlt := by
    rw [ask_after h, Query.answer, if_pos hlt, entryAt?_of_lt (by omega)]
    rfl
  last_of_eq he := by
    rw [ask_after h, Query.answer, if_neg (by omega)]
    rfl

/-- After any queries a trace tells of the fold over the steps taken.  Once no step is left its
register is the result of the run, and the last step has left it there. -/
theorem askAll_start (t : Trig) (steps : List Step) (x0 x1 : Float32) (queries : List Query) :
    ∃ k tr, queries.foldl (Query.advance steps.length) 0 = k ∧
      ((start steps x0 x1).askAll t queries).2 = tr ∧
      Follows t steps x0 x1 k tr ∧
      (∀ q later, ((start steps x0 x1).askAll t (queries ++ q :: later)).1[queries.length]? =
        some (tr.ask t q).1) ∧
      (k = steps.length → tr.registers.r0 = run t steps x0 x1 ∧
        ∀ p : ProgramId, steps = p.steps → tr.registers.r0 = p.evaluate t x0 x1) ∧
      ∀ h : 0 < steps.length,
        (entryAt t steps x0 x1 (steps.length - 1) (by omega)).registers.r0 =
          run t steps x0 x1 := by
  have hle := foldl_advance_le queries (Nat.zero_le steps.length)
  have hstate : ((start steps x0 x1).askAll t queries).2 =
      after t steps x0 x1 (queries.foldl (Query.advance steps.length) 0) :=
    askAll_after queries (Nat.zero_le steps.length)
  refine ⟨_, _, rfl, rfl, ?_, fun q later => getElem?_askAll_append_cons _ queries later q, ?_, ?_⟩
  · rw [hstate]
    exact follows_after hle
  · intro hk
    have hr0 : ((start steps x0 x1).askAll t queries).2.registers.r0 = run t steps x0 x1 := by
      rw [hstate, hk]
      exact r0_registersAfter_length
    refine ⟨hr0, ?_⟩
    rintro p rfl
    exact hr0
  · intro h
    rw [entryAt]
    simp only [Nat.sub_add_cancel h]
    exact r0_registersAfter_length

end Trace

theorem Trace.askAll_start_past_the_end :
    ((start (ProgramId.steps 3) 0.5 2).askAll Trig.platform
      [.next, .last, .nth 300]).2.registers.r0 = ProgramId.evaluate Trig.platform 3 0.5 2 ∧
    ((start [.always .cos] 0.5 2).askAll Trig.platform [.peek, .next]).1[1]? =
      some (.entry (some (entryAt Trig.platform [.always .cos] 0.5 2 0 (by decide)))) := by
  constructor
  · obtain ⟨k, tr, hk, rfl, -, -, hend, -⟩ :=
      askAll_start Trig.platform (ProgramId.steps 3) 0.5 2 [.next, .last, .nth 300]
    have hk' : k = (ProgramId.steps 3).length := hk.symm.trans (by decide +kernel)
    exact (hend hk').2 3 rfl
  · obtain ⟨k, tr, hk, -, htr, hreply, -, -⟩ :=
      askAll_start Trig.platform [.always .cos] 0.5 2 [.peek]
    obtain rfl : 0 = k := hk
    refine (hreply .next []).trans ?_
    rw [htr.next (by decide)]
    rfl

end TwoSpirals
