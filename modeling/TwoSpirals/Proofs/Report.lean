import TwoSpirals.Proofs.Batch
import TwoSpirals.Proofs.Extent
import TwoSpirals.Report

/-!
# Reports on the five programs

The programs agree on which predictions are positive and which are `NaN`: it depends on `x0` being a
real number and on nothing else.  So the rows of all programs have one tally, `Batch.confusion`,
which counts samples without evaluating anything, and a report has it five times
(`ofPredictions_evaluate`).
-/

namespace TwoSpirals

/-! ## Classes of samples -/

namespace ProgramId

theorem decide_pos_evaluate {t : Trig} (ht : t.Positive) (p : ProgramId) (x0 x1 : Float32) :
    decide (0 < p.evaluate t x0 x1) = x0.isFinite := by
  cases h : x0.isFinite with
  | true => exact decide_eq_true (contains_evaluate_of_isFinite ht p x1 h).2
  | false =>
    have hnan := isNaN_evaluate_of_not_isFinite ht p x1 h
    exact decide_eq_false (Single.not_lt_of_isNaN (.inr hnan))

theorem isNaN_evaluate {t : Trig} (ht : t.Positive) (p : ProgramId) (x0 x1 : Float32) :
    (p.evaluate t x0 x1).isNaN = !x0.isFinite := by
  cases h : x0.isFinite with
  | true =>
    obtain ⟨hmem, -⟩ := contains_evaluate_of_isFinite ht p x1 h
    exact (Single.isNaN_eq_false_of_le hmem.1).2
  | false => exact isNaN_evaluate_of_not_isFinite ht p x1 h

end ProgramId

namespace Batch

variable (b : Batch) (labels : List Float32)

/-- How often a real `x0` goes with the label `1`, counted over the samples. -/
def confusion (h : labels.length = b.samples) : Confusion where
  tp := (Finset.univ.filter fun i : Fin b.samples =>
    (b.sample i).1.isFinite = true ∧ (labels[i] == 1) = true).card
  tn := (Finset.univ.filter fun i : Fin b.samples =>
    ¬ (b.sample i).1.isFinite = true ∧ ¬ (labels[i] == 1) = true).card
  fp := (Finset.univ.filter fun i : Fin b.samples =>
    (b.sample i).1.isFinite = true ∧ ¬ (labels[i] == 1) = true).card
  fn := (Finset.univ.filter fun i : Fin b.samples =>
    ¬ (b.sample i).1.isFinite = true ∧ (labels[i] == 1) = true).card
  nan := (Finset.univ.filter fun i : Fin b.samples => ¬ (b.sample i).1.isFinite = true).card

theorem sample?_eq_none_iff {i : Nat} : b.sample? i = none ↔ b.samples ≤ i := by
  unfold sample?
  split <;> simp <;> omega

theorem samples_eq_of_fst_eq {b b' : Batch}
    (hfst : ∀ i, (b'.sample? i).map Prod.fst = (b.sample? i).map Prod.fst) :
    b'.samples = b.samples := by
  have hnone : ∀ i, b'.samples ≤ i ↔ b.samples ≤ i := by
    intro i
    rw [← sample?_eq_none_iff, ← sample?_eq_none_iff, ← Option.map_eq_none_iff, hfst,
      Option.map_eq_none_iff]
  exact Nat.le_antisymm ((hnone _).2 (Nat.le_refl _)) ((hnone _).1 (Nat.le_refl _))

/-- The second numbers of the pairs are not counted. -/
theorem confusion_congr {b b' : Batch}
    (hfst : ∀ i, (b'.sample? i).map Prod.fst = (b.sample? i).map Prod.fst)
    (h' : labels.length = b'.samples) (h : labels.length = b.samples) :
    b'.confusion labels h' = b.confusion labels h := by
  have hn := samples_eq_of_fst_eq hfst
  obtain ⟨n, data⟩ := b
  obtain ⟨n', data'⟩ := b'
  obtain rfl : n' = n := hn
  have hsample : ∀ i : Fin n', (sample ⟨n', data'⟩ i).1 = (sample ⟨n', data⟩ i).1 := by
    intro i
    simpa [sample?] using hfst i.val
  simp only [confusion, hsample]

theorem row_evaluate (t : Trig) (parallel : Bool) (p : ProgramId) :
    (b.evaluate t parallel).row p = (List.finRange b.samples).map fun i => b.result t (p, i) := by
  have hseq := isSchedule_byProgram b.samples
  rw [evaluate_eq_evaluateIn t b hseq, Predictions.row]
  exact List.map_congr_left fun i _ => getElem_cells_evaluateIn t b hseq (p, i)

variable {t : Trig} (ht : t.Positive) (parallel : Bool) (p : ProgramId)
include ht

/-- The tally of a program's row is the same for all programs. -/
theorem tally_row_evaluate (h : labels.length = b.samples) :
    Confusion.tally (((b.evaluate t parallel).row p).zip labels) = b.confusion labels h := by
  have hpos : ∀ i : Fin b.samples,
      decide (0 < b.result t (p, i)) = (b.sample i).1.isFinite :=
    fun i => p.decide_pos_evaluate ht _ _
  have hnan : ∀ i : Fin b.samples, (b.result t (p, i)).isNaN = !(b.sample i).1.isFinite :=
    fun i => p.isNaN_evaluate ht _ _
  rw [row_evaluate, zip_map_finRange _ h]
  apply Confusion.ext_fields <;>
    simp only [Confusion.tally, confusion, ← countP_finRange, List.countP_map, Function.comp_def,
      hpos, hnan, decide_not, Bool.decide_and, Bool.decide_eq_true]

theorem score_row_evaluate (h : labels.length = b.samples) :
    score ((b.evaluate t parallel).row p) labels = .ok (b.confusion labels h) := by
  rw [score_of_length_eq ((Predictions.length_row _ p).trans h.symm),
    tally_row_evaluate b labels ht parallel p h]

end Batch

/-! ## Reports -/

namespace Report

variable {preds : Predictions} {labels : List Float32}

theorem ofPredictions_of_entry {f : ProgramId → Entry} (h : ∀ p, entry preds labels p = .ok (f p)) :
    ofPredictions preds labels = .ok ⟨preds.samples, ProgramId.all.map f⟩ := by
  have hentry : entry preds labels = fun p => pure (f p) := funext h
  rw [ofPredictions, hentry, List.mapM_pure]
  rfl

/-- The entry of a program, where there is a label to each sample. -/
def entryOf (preds : Predictions) (labels : List Float32) (p : ProgramId) : Entry :=
  let c := Confusion.tally ((preds.row p).zip labels)
  ⟨p, c.accuracy, c⟩

theorem ofPredictions_of_length (h : labels.length = preds.samples) :
    ofPredictions preds labels = .ok ⟨preds.samples, ProgramId.all.map (entryOf preds labels)⟩ := by
  refine ofPredictions_of_entry fun p => ?_
  rw [entry, score_of_length_eq ((preds.length_row p).trans h.symm)]
  rfl

theorem ofPredictions_of_length_ne (h : labels.length ≠ preds.samples) :
    ofPredictions preds labels = .error ⟨"labels", labels.length, preds.samples⟩ := by
  have hentry : entry preds labels = fun _ => .error ⟨"labels", labels.length, preds.samples⟩ := by
    funext p
    rw [entry, score_of_length_ne (by rw [preds.length_row]; exact h.symm), preds.length_row]
    rfl
  rw [ofPredictions, hentry]
  rfl

theorem ofPredictions_of_length_eq {t : Trig} (ht : t.Positive) (b : Batch) (parallel : Bool)
    (h : labels.length = b.samples) :
    ofPredictions (b.evaluate t parallel) labels =
      .ok ⟨b.samples, ProgramId.all.map fun p =>
        ⟨p, (b.confusion labels h).accuracy, b.confusion labels h⟩⟩ := by
  refine ofPredictions_of_entry fun p => ?_
  rw [entry, b.score_row_evaluate labels ht parallel p h]
  rfl

/-- A report exists exactly where there is a label to each sample.  Its five entries are the same
but for the program they name, and `x1` has no part in it. -/
theorem ofPredictions_evaluate {t : Trig} (ht : t.Positive) (b : Batch) (labels : List Float32)
    (parallel : Bool) :
    (labels.length ≠ b.samples →
      ofPredictions (b.evaluate t parallel) labels =
        .error ⟨"labels", labels.length, b.samples⟩) ∧
    (∀ h : labels.length = b.samples,
      ofPredictions (b.evaluate t parallel) labels =
        .ok ⟨b.samples, ([0, 1, 2, 3, 4] : List ProgramId).map fun p =>
          ⟨p, (b.confusion labels h).accuracy, b.confusion labels h⟩⟩) ∧
    ∀ b' : Batch, (∀ i, (b'.sample? i).map Prod.fst = (b.sample? i).map Prod.fst) →
      ∀ parallel', ofPredictions (b'.evaluate t parallel') labels =
        ofPredictions (b.evaluate t parallel) labels := by
  have herror : ∀ (c : Batch) (parallel : Bool), labels.length ≠ c.samples →
      ofPredictions (c.evaluate t parallel) labels = .error ⟨"labels", labels.length, c.samples⟩ :=
    fun _ _ h => ofPredictions_of_length_ne h
  refine ⟨herror b parallel, ofPredictions_of_length_eq ht b parallel, ?_⟩
  intro b' hfst parallel'
  have hn := Batch.samples_eq_of_fst_eq hfst
  by_cases h : labels.length = b.samples
  · have h' : labels.length = b'.samples := h.trans hn.symm
    rw [ofPredictions_of_length_eq ht b' parallel' h', ofPredictions_of_length_eq ht b parallel h,
      Batch.confusion_congr labels hfst h' h, hn]
  · have h' : labels.length ≠ b'.samples := fun e => h (e.trans hn)
    rw [herror b' parallel' h', herror b parallel h, hn]

theorem ofPredictions_evaluate_one_infinite :
    ∃ b b' : Batch, b.data.toList = [0.5, 1, Single.infinity, 2] ∧
      b'.data.toList = [0.5, 7, Single.infinity, Single.nan] ∧
      ofPredictions (b.evaluate Trig.platform true) [1] = .error ⟨"labels", 1, 2⟩ ∧
      ofPredictions (b.evaluate Trig.platform true) [1, Single.nan] =
        .ok ⟨2, ([0, 1, 2, 3, 4] : List ProgramId).map fun p =>
          ⟨p, Confusion.accuracy ⟨1, 1, 0, 0, 1⟩, ⟨1, 1, 0, 0, 1⟩⟩⟩ ∧
      ofPredictions (b'.evaluate Trig.platform false) [1, Single.nan] =
        ofPredictions (b.evaluate Trig.platform true) [1, Single.nan] := by
  have ht := Trig.lawful_platform.positive
  let b : Batch := ⟨2, #v[0.5, 1, Single.infinity, 2]⟩
  let b' : Batch := ⟨2, #v[0.5, 7, Single.infinity, Single.nan]⟩
  have hcount : b.confusion [1, Single.nan] rfl = ⟨1, 1, 0, 0, 1⟩ := by decide +kernel
  have hfst : ∀ i, (b'.sample? i).map Prod.fst = (b.sample? i).map Prod.fst := by
    rintro (_ | _ | i)
    · simp [b, b', Batch.sample?, Batch.sample]
    · simp [b, b', Batch.sample?, Batch.sample]
    · have hi : 2 ≤ i + 1 + 1 := Nat.le_add_left 2 i
      rw [b.sample?_eq_none_iff.2 hi, b'.sample?_eq_none_iff.2 hi]
  obtain ⟨-, hok, hfree⟩ := ofPredictions_evaluate ht b [1, Single.nan] true
  refine ⟨b, b', rfl, rfl, (ofPredictions_evaluate ht b [1] true).1 (by decide), ?_,
    hfree b' hfst false⟩
  rw [hok rfl, hcount]

end Report

end TwoSpirals
