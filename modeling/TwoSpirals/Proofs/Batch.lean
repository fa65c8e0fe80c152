import Mathlib.Data.List.FinRange
import Mathlib.Data.List.OfFn
import Mathlib.Logic.Equiv.Fin.Basic
import TwoSpirals.Batch

/-!
# Evaluation in any order

A schedule is an order of the cells of a batch in which each of them comes exactly once.  The
place `Cell.index` of a cell is its own (`index_injective`), so a later evaluation never overwrites
an earlier one, and after a schedule every cell holds its result (`getElem_cells_evaluateIn`).
Hence all schedules give the same predictions, the two that `Batch.evaluate` uses among them, and
the three ways to look at the predictions agree.
-/

namespace TwoSpirals

/-- Every cell comes exactly once. -/
def IsSchedule {n : Nat} (order : List (Cell n)) : Prop := ∀ c, order.count c = 1

/-! ## Places of cells -/

namespace Cell

theorem index_eq_finProdFinEquiv {n : Nat} (c : Cell n) : c.index = finProdFinEquiv c := by
  apply Fin.ext
  show c.1.val * n + c.2.val = c.2.val + n * c.1.val
  rw [Nat.mul_comm, Nat.add_comm]

theorem index_injective {n : Nat} : Function.Injective (index (n := n)) := by
  intro c d h
  rw [index_eq_finProdFinEquiv, index_eq_finProdFinEquiv] at h
  exact finProdFinEquiv.injective h

theorem index_surjective {n : Nat} : Function.Surjective (index (n := n)) := by
  intro k
  refine ⟨finProdFinEquiv.symm k, ?_⟩
  rw [index_eq_finProdFinEquiv, Equiv.apply_symm_apply]

end Cell

/-! ## Schedules -/

theorem IsSchedule.mem {n : Nat} {order : List (Cell n)} (h : IsSchedule order) (c : Cell n) :
    c ∈ order :=
  List.count_pos_iff.1 (by rw [h c]; exact Nat.one_pos)

theorem isSchedule_of_nodup {n : Nat} {order : List (Cell n)} (hd : order.Nodup)
    (hm : ∀ c, c ∈ order) : IsSchedule order :=
  fun c => List.nodup_iff_count_eq_one.1 hd c (hm c)

theorem ProgramId.mem_all : ∀ p : ProgramId, p ∈ ProgramId.all := by decide

theorem ProgramId.nodup_all : ProgramId.all.Nodup := by decide

namespace Batch

theorem isSchedule_byProgram (n : Nat) : IsSchedule (byProgram n) := by
  apply isSchedule_of_nodup
  · exact List.Nodup.product ProgramId.nodup_all (List.nodup_finRange n)
  · rintro ⟨p, i⟩
    exact List.mem_flatMap.2 ⟨p, p.mem_all, List.mem_map.2 ⟨i, List.mem_finRange i, rfl⟩⟩

theorem isSchedule_bySample (n : Nat) : IsSchedule (bySample n) := by
  apply isSchedule_of_nodup
  · refine List.nodup_flatMap.2 ⟨fun i _ => ?_, ?_⟩
    · exact ProgramId.nodup_all.map fun p q h => congrArg Prod.fst h
    · refine (List.nodup_finRange n).imp fun {i j} hij => ?_
      rintro ⟨p, k⟩ hi hj
      obtain ⟨_, -, hi⟩ := List.mem_map.1 hi
      obtain ⟨_, -, hj⟩ := List.mem_map.1 hj
      exact hij ((congrArg Prod.snd hi).trans (congrArg Prod.snd hj).symm)
  · rintro ⟨p, i⟩
    exact List.mem_flatMap.2 ⟨i, List.mem_finRange i, List.mem_map.2 ⟨p, p.mem_all, rfl⟩⟩

/-! ## Filling the cells -/

/-- A cell holds what was put there if it was visited, and what it held before otherwise. -/
theorem getElem_foldl_set {n : Nat} (f : Cell n → Float32) (order : List (Cell n))
    (cells : Vector Float32 (5 * n)) (c : Cell n) :
    (order.foldl (fun cells c => cells.set c.index (f c)) cells)[c.index] =
      if c ∈ order then f c else cells[c.index] := by
  induction order generalizing cells with
  | nil => simp
  | cons d order ih =>
    rw [List.foldl_cons, ih]
    by_cases hc : c ∈ order
    · rw [if_pos hc, if_pos (List.mem_cons_of_mem d hc)]
    · rw [if_neg hc]
      by_cases hd : c = d
      · subst hd
        rw [if_pos List.mem_cons_self]
        exact Vector.getElem_set_self _
      · have hne : d.index.val ≠ c.index.val := fun e => hd (Cell.index_injective (Fin.ext e)).symm
        rw [if_neg (by simp [hc, hd])]
        exact Vector.getElem_set_ne _ _ hne

variable (t : Trig) (b : Batch)

/-- After a schedule every cell holds its result. -/
theorem getElem_cells_evaluateIn {order : List (Cell b.samples)} (h : IsSchedule order)
    (c : Cell b.samples) : (b.evaluateIn t order).cells[c.index] = b.result t c := by
  refine (getElem_foldl_set (b.result t) order _ c).trans ?_
  rw [if_pos (h.mem c)]

theorem evaluateIn_congr {order order' : List (Cell b.samples)} (h : IsSchedule order)
    (h' : IsSchedule order') : b.evaluateIn t order = b.evaluateIn t order' := by
  have hcells : (b.evaluateIn t order).cells = (b.evaluateIn t order').cells := by
    apply Vector.ext
    intro k hk
    obtain ⟨c, hc⟩ := Cell.index_surjective (⟨k, hk⟩ : Fin (5 * b.samples))
    have hk' : k = c.index.val := (congrArg Fin.val hc).symm
    subst hk'
    exact (getElem_cells_evaluateIn t b h c).trans (getElem_cells_evaluateIn t b h' c).symm
  exact congrArg (Predictions.mk b.samples) hcells

/-- Running in parallel or not makes no difference, and neither does the schedule. -/
theorem evaluate_eq_evaluateIn {order : List (Cell b.samples)} (h : IsSchedule order)
    (parallel : Bool) : b.evaluate t parallel = b.evaluateIn t order := by
  unfold evaluate
  split
  · exact evaluateIn_congr t b (isSchedule_bySample _) h
  · exact evaluateIn_congr t b (isSchedule_byProgram _) h

end Batch

/-! ## Three views of predictions -/

namespace Predictions

variable (preds : Predictions) (p : ProgramId)

theorem get?_of_lt {i : Nat} (h : i < preds.samples) :
    preds.get? p i = some (preds.cells.get (Cell.index (p, ⟨i, h⟩))) :=
  dif_pos h

theorem get?_eq_none_iff {i : Nat} : preds.get? p i = none ↔ preds.samples ≤ i := by
  unfold get?
  split <;> simp <;> omega

theorem length_row : (preds.row p).length = preds.samples := by
  rw [row, List.length_map, List.length_finRange]

theorem getElem?_row (i : Nat) : (preds.row p)[i]? = preds.get? p i := by
  by_cases h : i < preds.samples
  · rw [get?_of_lt preds p h, List.getElem?_eq_getElem (by rwa [length_row])]
    simp only [row, List.getElem_map, List.getElem_finRange]
    rfl
  · rw [(get?_eq_none_iff preds p).2 (by omega), List.getElem?_eq_none (by rw [length_row]; omega)]

theorem length_toFlat : preds.toFlat.length = 5 * preds.samples := Vector.length_toList

theorem getElem?_toFlat {i : Nat} (h : i < preds.samples) :
    preds.toFlat[p.val * preds.samples + i]? = preds.get? p i := by
  have hk := (Cell.index (p, (⟨i, h⟩ : Fin preds.samples))).isLt
  rw [get?_of_lt preds p h, List.getElem?_eq_getElem (by rw [length_toFlat]; exact hk)]
  exact congrArg some (Vector.getElem_toList _)

theorem row_eq_ofFn : preds.row p = List.ofFn fun i => preds.cells[Cell.index (p, i)] :=
  List.ofFn_eq_map.symm

theorem toFlat_eq_flatMap_row : preds.toFlat = ProgramId.all.flatMap preds.row := by
  have hcells : preds.toFlat = List.ofFn fun k : Fin (5 * preds.samples) => preds.cells[k] := by
    apply List.ext_getElem
    · simp [toFlat]
    · intro i h h'
      simp [toFlat]
  rw [hcells, List.ofFn_mul, List.flatMap_def, funext (row_eq_ofFn preds)]
  rfl

/-- The predictions are the results of the programs on the pairs of a buffer. -/
structure Evaluates (t : Trig) (data : List Float32) : Prop where
  length_eq : data.length = 2 * preds.samples
  get?_eq : ∀ (p : ProgramId) (i : Nat) (hi : i < preds.samples),
    preds.get? p i = some (p.evaluate t data[2 * i] data[2 * i + 1])

theorem ext_get? {preds preds' : Predictions} (hn : preds.samples = preds'.samples)
    (h : ∀ p, ∀ i < preds.samples, preds.get? p i = preds'.get? p i) : preds = preds' := by
  obtain ⟨n, cells⟩ := preds
  obtain ⟨n', cells'⟩ := preds'
  obtain rfl : n = n' := hn
  congr 1
  apply Vector.ext
  intro k hk
  obtain ⟨⟨p, i⟩, hc⟩ := Cell.index_surjective (⟨k, hk⟩ : Fin (5 * n))
  obtain rfl : k = (Cell.index (p, i)).val := (congrArg Fin.val hc).symm
  have hget := h p i.val i.isLt
  rw [get?_of_lt _ _ i.isLt, get?_of_lt _ _ i.isLt] at hget
  exact Option.some.inj hget

/-- A buffer and the programs leave one choice for the predictions. -/
theorem Evaluates.unique {preds preds' : Predictions} {t : Trig} {data : List Float32}
    (h : preds.Evaluates t data) (h' : preds'.Evaluates t data) : preds = preds' := by
  have hn : preds.samples = preds'.samples := by
    have := h.length_eq.symm.trans h'.length_eq
    omega
  refine ext_get? hn fun p i hi => ?_
  rw [h.get?_eq p i hi, h'.get?_eq p i (hn ▸ hi)]

end Predictions

/-! ## From a flat buffer to predictions -/

namespace Batch

theorem ofFlat_of_length_ne {data : List Float32} {n : Nat} (h : data.length ≠ 2 * n) :
    ofFlat data n = .error ⟨"input floats", data.length, 2 * n⟩ := by
  rw [ofFlat, dif_neg h, Nat.mul_comm]

theorem ofFlat_of_length {data : List Float32} {n : Nat} (h : data.length = 2 * n) :
    ofFlat data n = .ok ⟨n, ⟨data.toArray, h⟩⟩ := dif_pos h

theorem get?_evaluateIn (t : Trig) (b : Batch) {order : List (Cell b.samples)}
    (h : IsSchedule order) (p : ProgramId) {i : Nat} (hi : i < b.samples) :
    (b.evaluateIn t order).get? p i = some (b.result t (p, ⟨i, hi⟩)) :=
  (Predictions.get?_of_lt _ p hi).trans
    (congrArg some (getElem_cells_evaluateIn t b h (p, ⟨i, hi⟩)))

theorem evaluates_of_ofFlat (t : Trig) {data : List Float32} {n : Nat} {b : Batch}
    (h : ofFlat data n = .ok b) (parallel : Bool) :
    (b.evaluate t parallel).samples = n ∧ (b.evaluate t parallel).Evaluates t data := by
  have hlength : data.length = 2 * n := by
    by_contra hne
    rw [ofFlat_of_length_ne hne] at h
    exact nomatch h
  obtain rfl := Except.ok.inj ((ofFlat_of_length hlength).symm.trans h)
  have hseq := isSchedule_byProgram n
  rw [evaluate_eq_evaluateIn t _ hseq]
  exact ⟨rfl, hlength, fun p i hi => get?_evaluateIn t _ hseq p hi⟩

/-- A buffer makes a batch exactly where it holds two numbers to a sample.  Every schedule, in
parallel or not, then gives the same predictions, in which each program's results on the pairs of
the buffer stand where each of the three views looks for them. -/
theorem evaluateIn_ofFlat (t : Trig) (data : List Float32) (n : Nat) :
    (data.length ≠ 2 * n →
      ofFlat data n = .error ⟨"input floats", data.length, 2 * n⟩) ∧
    ∀ h : data.length = 2 * n, ∃ b preds, ofFlat data n = .ok b ∧
      (∀ order, IsSchedule order → b.evaluateIn t order = preds) ∧
      (∀ parallel, b.evaluate t parallel = preds) ∧
      preds.samples = n ∧ preds.toFlat.length = 5 * n ∧
      (∀ p, (preds.row p).length = n) ∧
      (∀ p i, preds.get? p i = none ↔ n ≤ i) ∧
      ∀ (p : ProgramId) (i : Nat) (hi : i < n),
        preds.get? p i = some (run t p.steps data[2 * i] data[2 * i + 1]) ∧
        (preds.row p)[i]? = some (run t p.steps data[2 * i] data[2 * i + 1]) ∧
        preds.toFlat[p.val * n + i]? = some (run t p.steps data[2 * i] data[2 * i + 1]) := by
  refine ⟨ofFlat_of_length_ne, fun h => ?_⟩
  let b : Batch := ⟨n, ⟨data.toArray, h⟩⟩
  have hseq : IsSchedule (byProgram b.samples) := isSchedule_byProgram n
  let preds := b.evaluateIn t (byProgram b.samples)
  have hget : ∀ (p : ProgramId) (i : Nat) (hi : i < n),
      preds.get? p i = some (run t p.steps data[2 * i] data[2 * i + 1]) :=
    fun p i hi => get?_evaluateIn t b hseq p hi
  refine ⟨b, preds, ofFlat_of_length h, fun order ho => evaluateIn_congr t b ho hseq,
    evaluate_eq_evaluateIn t b hseq, rfl, preds.length_toFlat, preds.length_row,
    fun p i => preds.get?_eq_none_iff p, fun p i hi => ⟨hget p i hi, ?_, ?_⟩⟩
  · rw [preds.getElem?_row, hget p i hi]
  · exact (preds.getElem?_toFlat p hi).trans (hget p i hi)

theorem evaluateIn_ofFlat_two_samples :
    ofFlat [0.5, 1, 2] 2 = .error ⟨"input floats", 3, 4⟩ ∧
    ∃ b preds, ofFlat [0.5, 1, 2, 3] 2 = .ok b ∧
      b.evaluateIn Trig.platform (bySample b.samples) = preds ∧
      preds.toFlat[9]? = some (run Trig.platform Program.table4 2 3) := by
  obtain ⟨b, preds, hb, horder, -, -, -, -, -, hcell⟩ :=
    (evaluateIn_ofFlat Trig.platform [0.5, 1, 2, 3] 2).2 rfl
  exact ⟨(evaluateIn_ofFlat Trig.platform [0.5, 1, 2] 2).1 (by decide), b, preds, hb,
    horder _ (isSchedule_bySample _), (hcell 4 1 (by decide)).2.2⟩

end Batch

end TwoSpirals
