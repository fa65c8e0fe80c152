import Mathlib.Data.Finset.Card
import Mathlib.Data.Fintype.Basic
import Mathlib.Data.List.FinRange
import TwoSpirals.Proofs.Single.Order
import TwoSpirals.Score

/-!
# Scores as counts

`Confusion.tally` says what each field of a score counts.  Counting one sample more adds the tally
of that sample (`count_eq_add`), so a fold of `Confusion.count` adds the tally of its list and
`score` is the tally of the predictions beside their labels (`score_of_length_eq`).  A tally is a
count over positions, so the order of the samples does not matter to it, and `score_counts` says
with that what a score is and what follows for its fields.
-/

namespace TwoSpirals

/-! ## Counting over all indices -/

theorem zip_map_finRange {α β : Type} {n : Nat} (f : Fin n → α) {l : List β} (h : l.length = n) :
    ((List.finRange n).map f).zip l = (List.finRange n).map fun i => (f i, l[i]) := by
  apply List.ext_getElem
  · simp [h]
  · intro i hi hi'
    simp

theorem countP_finRange {n : Nat} (p : Fin n → Prop) [DecidablePred p] :
    (List.finRange n).countP (fun i => decide (p i)) = (Finset.univ.filter p).card := by
  rw [List.countP_eq_length_filter]
  rfl

/-! ## Classes -/

theorem classify_of_pos {x : Float32} (h : 0 < x) : classify x = 1 := if_pos h

theorem classify_of_not_pos {x : Float32} (h : ¬ 0 < x) : classify x = 0 := if_neg h

theorem classify_of_isNaN {x : Float32} (h : x.isNaN = true) : classify x = 0 :=
  classify_of_not_pos (Single.not_lt_of_isNaN (.inr h))

theorem classify_beq_one (x : Float32) : (classify x == 1) = decide (0 < x) := by
  by_cases h : 0 < x
  · rw [classify_of_pos h, decide_eq_true h]
    rfl
  · rw [classify_of_not_pos h, decide_eq_false h]
    rfl

theorem classify_pos_iff {x : Float32} : 0 < classify x ↔ 0 < x := by
  by_cases h : 0 < x
  · rw [classify_of_pos h]
    exact iff_of_true (by decide) h
  · rw [classify_of_not_pos h]
    exact iff_of_false (by decide) h

theorem isNaN_classify (x : Float32) : (classify x).isNaN = false := by
  unfold classify
  split <;> rfl

/-! ## Tallies -/

namespace Confusion

instance : Add Confusion :=
  ⟨fun c d => ⟨c.tp + d.tp, c.tn + d.tn, c.fp + d.fp, c.fn + d.fn, c.nan + d.nan⟩⟩

/-- What a score counts in predictions that stand beside their labels. -/
def tally (samples : List (Float32 × Float32)) : Confusion where
  tp := samples.countP fun s => decide (0 < s.1) && s.2 == 1
  tn := samples.countP fun s => !decide (0 < s.1) && !(s.2 == 1)
  fp := samples.countP fun s => decide (0 < s.1) && !(s.2 == 1)
  fn := samples.countP fun s => !decide (0 < s.1) && s.2 == 1
  nan := samples.countP fun s => s.1.isNaN

theorem add_def (c d : Confusion) :
    c + d = ⟨c.tp + d.tp, c.tn + d.tn, c.fp + d.fp, c.fn + d.fn, c.nan + d.nan⟩ := rfl

theorem ext_fields {c d : Confusion} (htp : c.tp = d.tp) (htn : c.tn = d.tn) (hfp : c.fp = d.fp)
    (hfn : c.fn = d.fn) (hnan : c.nan = d.nan) : c = d := by
  cases c
  cases d
  simp_all only

theorem zero_add (c : Confusion) : {} + c = c := by
  apply ext_fields <;> exact Nat.zero_add _

theorem add_assoc (c d e : Confusion) : c + d + e = c + (d + e) := by
  apply ext_fields <;> exact Nat.add_assoc _ _ _

theorem tally_append (l l' : List (Float32 × Float32)) : tally (l ++ l') = tally l + tally l' := by
  apply ext_fields <;> exact List.countP_append

theorem total_add (c d : Confusion) : (c + d).total = c.total + d.total := by
  simp only [total, add_def]
  omega

/-- Every sample is counted once. -/
theorem total_tally (samples : List (Float32 × Float32)) :
    (tally samples).total = samples.length := by
  induction samples with
  | nil => rfl
  | cons s samples ih =>
    have hone : (tally [s]).total = 1 := by
      simp only [tally, total, List.countP_singleton]
      cases decide (0 < s.1) <;> cases (s.2 == 1) <;> rfl
    rw [← List.singleton_append, tally_append, total_add, hone, ih]
    exact Nat.add_comm _ _

theorem count_eq_add (c : Confusion) (p l : Float32) : c.count p l = c + tally [(p, l)] := by
  simp only [count, classify_beq_one, tally, add_def, List.countP_singleton]
  generalize decide (0 < p) = positive
  generalize (l == 1) = labelled
  generalize p.isNaN = isNaN
  cases positive <;> cases labelled <;> cases isNaN <;> rfl

theorem foldl_count (samples : List (Float32 × Float32)) (c : Confusion) :
    samples.foldl (fun c (p, l) => c.count p l) c = c + tally samples := by
  induction samples generalizing c with
  | nil => rfl
  | cons s samples ih =>
    calc List.foldl (fun c (p, l) => c.count p l) c (s :: samples)
        = c.count s.1 s.2 + tally samples := ih _
      _ = c + (tally [s] + tally samples) := by rw [count_eq_add, add_assoc]
      _ = c + tally (s :: samples) := by rw [← tally_append, List.singleton_append]

theorem tally_perm {l l' : List (Float32 × Float32)} (h : l.Perm l') : tally l = tally l' := by
  apply ext_fields <;> exact h.countP_eq _

/-- What is `NaN` is not positive. -/
theorem nan_tally_le (samples : List (Float32 × Float32)) :
    (tally samples).nan ≤ (tally samples).tn + (tally samples).fn := by
  induction samples with
  | nil => exact Nat.le_refl 0
  | cons s samples ih =>
    have hone : (tally [s]).nan ≤ (tally [s]).tn + (tally [s]).fn := by
      simp only [tally, List.countP_singleton]
      cases hnan : s.1.isNaN with
      | false => exact Nat.zero_le _
      | true =>
        rw [decide_eq_false (Single.not_lt_of_isNaN (.inr hnan))]
        cases (s.2 == 1) <;> exact Nat.le_refl 1
    rw [← List.singleton_append, tally_append]
    simp only [add_def]
    omega

/-- Only the count of `NaN` tells predictions from their classes. -/
theorem tally_map_classify (samples : List (Float32 × Float32)) :
    tally (samples.map (Prod.map classify id)) = { tally samples with nan := 0 } := by
  simp only [tally, List.countP_map, Function.comp_def, Prod.map_fst, Prod.map_snd, id_eq,
    classify_pos_iff, isNaN_classify, List.countP_false]
  rfl

/-- What a score counts, position by position. -/
def ofPositions (predictions labels : List Float32) (h : predictions.length = labels.length) :
    Confusion where
  tp := (Finset.univ.filter fun i : Fin predictions.length =>
    0 < predictions[i] ∧ (labels[i] == 1) = true).card
  tn := (Finset.univ.filter fun i : Fin predictions.length =>
    ¬ 0 < predictions[i] ∧ ¬ (labels[i] == 1) = true).card
  fp := (Finset.univ.filter fun i : Fin predictions.length =>
    0 < predictions[i] ∧ ¬ (labels[i] == 1) = true).card
  fn := (Finset.univ.filter fun i : Fin predictions.length =>
    ¬ 0 < predictions[i] ∧ (labels[i] == 1) = true).card
  nan := (Finset.univ.filter fun i : Fin predictions.length =>
    predictions[i].isNaN = true).card

variable {predictions labels : List Float32}

theorem zip_eq_map_finRange (h : predictions.length = labels.length) :
    predictions.zip labels =
      (List.finRange predictions.length).map fun i => (predictions[i], labels[i]) := by
  rw [← zip_map_finRange _ h.symm]
  exact congrArg (List.zip · labels) (List.map_getElem_finRange predictions).symm

theorem tally_zip (h : predictions.length = labels.length) :
    tally (predictions.zip labels) = ofPositions predictions labels h := by
  rw [zip_eq_map_finRange h]
  apply ext_fields <;>
    simp only [tally, ofPositions, ← countP_finRange, List.countP_map, Function.comp_def,
      decide_not, Bool.decide_and, Bool.decide_eq_true]

end Confusion

theorem score_of_length_eq {predictions labels : List Float32}
    (h : predictions.length = labels.length) :
    score predictions labels = .ok (Confusion.tally (predictions.zip labels)) := by
  rw [score, if_pos h, Confusion.foldl_count, Confusion.zero_add]

theorem score_of_length_ne {predictions labels : List Float32}
    (h : predictions.length ≠ labels.length) :
    score predictions labels = .error ⟨"labels", labels.length, predictions.length⟩ := if_neg h

section

variable {predictions labels : List Float32} (h : predictions.length = labels.length)
include h

/-- The order of the samples does not matter. -/
theorem score_ofFn_perm (σ : Equiv.Perm (Fin predictions.length)) :
    score (List.ofFn fun i => predictions[σ i]) (List.ofFn fun i => labels[σ i]) =
      score predictions labels := by
  have hzip : (List.ofFn fun i => predictions[σ i]).zip (List.ofFn fun i => labels[σ i]) =
      List.ofFn ((fun i : Fin predictions.length => (predictions[i], labels[i])) ∘ σ) := by
    apply List.ext_getElem
    · simp
    · simp
  have hperm := σ.ofFn_comp_perm fun i : Fin predictions.length => (predictions[i], labels[i])
  rw [score_of_length_eq (by simp), score_of_length_eq h, hzip, Confusion.tally_perm hperm,
    Confusion.zip_eq_map_finRange h, List.ofFn_eq_map]

theorem score_append {predictions' labels' : List Float32}
    (h' : predictions'.length = labels'.length) :
    score (predictions ++ predictions') (labels ++ labels') =
      .ok (Confusion.tally (predictions.zip labels) +
        Confusion.tally (predictions'.zip labels')) := by
  rw [score_of_length_eq (by rw [List.length_append, List.length_append, h, h']),
    List.zip_append h, Confusion.tally_append]

theorem score_map_classify :
    score (predictions.map classify) labels =
      .ok { Confusion.tally (predictions.zip labels) with nan := 0 } := by
  rw [score_of_length_eq (by rw [List.length_map, h]), List.zip_map_left,
    Confusion.tally_map_classify]

end

/-- A score exists exactly where there is a label to each prediction, and then it counts every
position once, whatever their order.  Counts of parts add up, and predictions that are replaced by
their classes lose their `NaN` and nothing else. -/
theorem score_counts (predictions labels : List Float32) :
    (predictions.length ≠ labels.length →
      score predictions labels = .error ⟨"labels", labels.length, predictions.length⟩) ∧
    (∀ h : predictions.length = labels.length, ∃ c,
      score predictions labels = .ok c ∧
      c = Confusion.ofPositions predictions labels h ∧
      c.total = predictions.length ∧ c.nan ≤ c.tn + c.fn ∧
      (∀ σ : Equiv.Perm (Fin predictions.length),
        score (List.ofFn fun i => predictions[σ i]) (List.ofFn fun i => labels[σ i]) = .ok c) ∧
      (∀ predictions' labels' c', score predictions' labels' = .ok c' →
        score (predictions ++ predictions') (labels ++ labels') =
          .ok ⟨c.tp + c'.tp, c.tn + c'.tn, c.fp + c'.fp, c.fn + c'.fn, c.nan + c'.nan⟩) ∧
      score (predictions.map classify) labels = .ok { c with nan := 0 }) ∧
    (∀ x : Float32, x.isNaN = true → ¬ 0 < x ∧ (x == 1) = false) ∧ ¬ (0 : Float32) < -0 := by
  refine ⟨score_of_length_ne, fun h => ?_, fun x hx => ⟨?_, ?_⟩, by decide⟩
  · have hscore := score_of_length_eq h
    refine ⟨_, hscore, Confusion.tally_zip h, ?_, Confusion.nan_tally_le _, ?_, ?_,
      score_map_classify h⟩
    · rw [Confusion.total_tally, List.length_zip, h, Nat.min_self]
    · intro σ
      rw [score_ofFn_perm h σ, hscore]
    · intro predictions' labels' c' hscore'
      by_cases h' : predictions'.length = labels'.length
      · rw [score_of_length_eq h', Except.ok.injEq] at hscore'
        rw [score_append h h', hscore']
        rfl
      · rw [score_of_length_ne h'] at hscore'
        exact nomatch hscore'
  · exact Single.not_lt_of_isNaN (.inr hx)
  · exact Single.beq_eq_false_of_isNaN 1 hx

theorem score_counts_nan_and_zeros :
    score [1] [] = .error ⟨"labels", 0, 1⟩ ∧
    score [0.5, -0, Single.nan, 2] [1, 1, Single.nan, 0] = .ok ⟨1, 1, 1, 1, 1⟩ ∧
    score [2, -0, Single.nan, 0.5] [0, 1, Single.nan, 1] = .ok ⟨1, 1, 1, 1, 1⟩ ∧
    score [0.5, -0, Single.nan, 2, 0] [1, 1, Single.nan, 0, 7] = .ok ⟨1, 2, 1, 1, 1⟩ ∧
    score [1, 0, 0, 1] [1, 1, Single.nan, 0] = .ok ⟨1, 1, 1, 1, 0⟩ := by
  have h := (score_counts [0.5, -0, Single.nan, 2] [1, 1, Single.nan, 0]).2.1 (Eq.refl 4)
  have h' := (score_counts [0] [7]).2.1 (Eq.refl 1)
  obtain ⟨c, hscore, hc, -, -, hperm, hadd, hclassify⟩ := h
  obtain ⟨c', hscore', hc', -⟩ := h'
  have hone : Confusion.ofPositions [0.5, -0, Single.nan, 2] [1, 1, Single.nan, 0] (Eq.refl 4) =
      ⟨1, 1, 1, 1, 1⟩ := by decide +kernel
  have hzero : Confusion.ofPositions [0] [7] (Eq.refl 1) = ⟨0, 1, 0, 0, 0⟩ := by decide +kernel
  have hswap : List.ofFn (fun i => [0.5, -0, Single.nan, 2][Equiv.swap (0 : Fin 4) 3 i]) =
      [2, -0, Single.nan, 0.5] := by decide +kernel
  have hswap' : List.ofFn (fun i => [1, 1, Single.nan, 0][Equiv.swap (0 : Fin 4) 3 i]) =
      [0, 1, Single.nan, 1] := by decide +kernel
  have hclasses : [0.5, -0, Single.nan, 2].map classify = [1, 0, 0, 1] := by decide +kernel
  rw [hc, hone] at hscore hperm hadd hclassify
  rw [hc', hzero] at hscore'
  rw [hclasses] at hclassify
  refine ⟨(score_counts [1] []).1 (by decide), hscore, ?_, hadd _ _ _ hscore', hclassify⟩
  rw [← hswap, ← hswap']
  exact hperm (Equiv.swap 0 3)

end TwoSpirals
