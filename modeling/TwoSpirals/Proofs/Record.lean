import TwoSpirals.Proofs.Report
import TwoSpirals.Proofs.Run
import TwoSpirals.Proofs.Single.Sum

/-!
# What a run notes

A `NaN` in a row makes the mean of the row one, in whichever of the eight sums or in the rest it is
added up (`isNaN_rowSum`).  The other predictions of the five programs lie in `(0, 1]`, and a sum of
such numbers is real for a row of any length (`within_rowSum`).  So the notes on a batch depend on
how many of its samples have an `x0` that is not real, and the programs differ in the values of
their means alone.  `RunLogs` lists what a run has noted at each of its ends, and `runFiles_logs`
says that every run ends so.
-/

namespace TwoSpirals

open Single (Within)

/-! ## Sums of a row -/

section

variable {P Q : Float32 → Prop} {s t : Vector Float32 8} {xs : List Float32}

theorem mem_eight_iff {x a b c d e f g h : Float32} :
    x ∈ a :: b :: c :: d :: e :: f :: g :: h :: xs ↔ x ∈ #v[a, b, c, d, e, f, g, h] ∨ x ∈ xs := by
  simp [or_assoc]

theorem forall_zipWith_add (hadd : ∀ x y, P x → Q y → P (x + y)) (hs : ∀ x ∈ s, P x)
    (ht : ∀ x ∈ t, Q x) : ∀ x ∈ s.zipWith (· + ·) t, P x := by
  intro x hx
  obtain ⟨i, hi, rfl⟩ := Vector.mem_iff_getElem.1 hx
  rw [Vector.getElem_zipWith]
  exact hadd _ _ (hs _ (Vector.getElem_mem hi)) (ht _ (Vector.getElem_mem hi))

/-- What the sums keep when a number is added holds of all of them at the end. -/
theorem forall_addEights (hadd : ∀ x y, P x → Q y → P (x + y)) (hs : ∀ x ∈ s, P x)
    (hxs : ∀ x ∈ xs, Q x) :
    (∀ x ∈ (addEights s xs).1, P x) ∧ ∀ x ∈ (addEights s xs).2, Q x := by
  fun_induction addEights s xs with
  | case1 s a b c d e f g h rest ih =>
    simp only [mem_eight_iff] at hxs
    exact ih (forall_zipWith_add hadd hs fun x hx => hxs x (.inl hx)) fun x hx => hxs x (.inr hx)
  | case2 s xs => exact ⟨hs, hxs⟩

theorem exists_zipWith_add (hleft : ∀ x y, P x → P (x + y)) (hright : ∀ x y, P y → P (x + y))
    (h : (∃ x ∈ s, P x) ∨ ∃ x ∈ t, P x) : ∃ x ∈ s.zipWith (· + ·) t, P x := by
  obtain ⟨i, hi, hP⟩ : ∃ i, ∃ hi : i < 8, P s[i] ∨ P t[i] := by
    rcases h with ⟨x, hx, hP⟩ | ⟨x, hx, hP⟩ <;>
      obtain ⟨i, hi, rfl⟩ := Vector.mem_iff_getElem.1 hx
    · exact ⟨i, hi, .inl hP⟩
    · exact ⟨i, hi, .inr hP⟩
  refine ⟨_, Vector.getElem_mem hi, ?_⟩
  rw [Vector.getElem_zipWith]
  exact hP.elim (hleft _ _) (hright _ _)

/-- What a sum takes over from each of its summands is not lost on the way. -/
theorem exists_addEights (hleft : ∀ x y, P x → P (x + y)) (hright : ∀ x y, P y → P (x + y))
    (h : (∃ x ∈ s, P x) ∨ ∃ x ∈ xs, P x) :
    (∃ x ∈ (addEights s xs).1, P x) ∨ ∃ x ∈ (addEights s xs).2, P x := by
  fun_induction addEights s xs with
  | case1 s a b c d e f g h' rest ih =>
    apply ih
    simp only [mem_eight_iff, or_and_right, exists_or, ← or_assoc] at h
    exact h.imp_left (exists_zipWith_add hleft hright)
  | case2 s xs => exact h

/-- The eight sums, paired off. -/
def pairUp (s : Vector Float32 8) : Float32 :=
  (0 : Float32) + (s.get 0 + s.get 4) + (s.get 1 + s.get 5) + (s.get 2 + s.get 6) +
    (s.get 3 + s.get 7)

theorem rowSum_eq (xs : List Float32) :
    rowSum xs = (addEights (.replicate 8 0) xs).2.foldl (· + ·)
      (pairUp (addEights (.replicate 8 0) xs).1) := rfl

theorem isNaN_pairUp (h : ∃ x ∈ s, x.isNaN = true) : (pairUp s).isNaN = true := by
  obtain ⟨x, hx, hnan⟩ := h
  obtain ⟨i, hi, rfl⟩ := Vector.mem_iff_getElem.1 hx
  have hpairs : pairUp s =
      [s[0] + s[4], s[1] + s[5], s[2] + s[6], s[3] + s[7]].foldl (· + ·) 0 := rfl
  rw [hpairs]
  refine Single.isNaN_foldl_add (.inr ?_)
  simp only [List.exists_mem_cons_iff]
  interval_cases i <;>
    simp only [Single.isNaN_add_left, Single.isNaN_add_right, hnan, true_or, or_true]

theorem within_pairUp (h : ∀ x ∈ s, Within 24 x) : Within 29 (pairUp s) := by
  have hpair : ∀ (i j : Nat) (hi : i < 8) (hj : j < 8), Within 25 (s[i] + s[j]) := fun i j hi hj =>
    (h _ (Vector.getElem_mem hi)).add (h _ (Vector.getElem_mem hj)) (by decide)
  have h₀ := (Single.within_zero 25).add (hpair 0 4 (by decide) (by decide)) (by decide)
  have h₁ := h₀.add ((hpair 1 5 (by decide) (by decide)).mono (by decide)) (by decide)
  have h₂ := h₁.add ((hpair 2 6 (by decide) (by decide)).mono (by decide)) (by decide)
  exact h₂.add ((hpair 3 7 (by decide) (by decide)).mono (by decide)) (by decide)

theorem isNaN_rowSum (h : ∃ x ∈ xs, x.isNaN = true) : (rowSum xs).isNaN = true := by
  rw [rowSum_eq]
  refine Single.isNaN_foldl_add ?_
  have hsums := exists_addEights (P := fun x => x.isNaN = true)
    (fun _ y hx => Single.isNaN_add_left hx y) (fun x _ hy => Single.isNaN_add_right x hy)
    (s := .replicate 8 0) (.inr h)
  exact hsums.imp_left isNaN_pairUp

theorem within_rowSum (h : ∀ x ∈ xs, Within 0 x) : Within 29 (rowSum xs) := by
  have hzero : ∀ x ∈ Vector.replicate 8 (0 : Float32), Within 24 x := fun x hx => by
    rw [(Vector.mem_replicate.1 hx).2]
    exact Single.within_zero 24
  have hadd : ∀ x y, Within 24 x → Within 0 y → Within 24 (x + y) := fun _ _ hx hy =>
    hx.add_one hy (by decide) (by decide)
  obtain ⟨hsums, hrest⟩ := forall_addEights hadd hzero h
  rw [rowSum_eq]
  exact (within_pairUp hsums).foldl_add hrest (by decide) (by decide)

theorem isNaN_rowMean_nil : (rowMean []).isNaN = true := rfl

theorem isNaN_rowMean (h : ∃ x ∈ xs, x.isNaN = true) : (rowMean xs).isNaN = true := by
  obtain ⟨x, hx, -⟩ := id h
  rw [rowMean, List.isEmpty_eq_false_iff.2 (List.ne_nil_of_mem hx)]
  exact Single.isNaN_div_left (isNaN_rowSum h) _

theorem isFinite_rowMean (hne : xs ≠ []) (h : ∀ x ∈ xs, Within 0 x) :
    (rowMean xs).isFinite = true := by
  rw [rowMean, List.isEmpty_eq_false_iff.2 hne]
  exact (within_rowSum h).isFinite_div_ofNat (by decide) (List.length_pos_iff.2 hne)

end

/-! ## Notes on a batch -/

/-- A line of a log: its level, the program it is about, and its text. -/
abbrev LogLine := Level × Option ProgramId × String

/-- The line that a record makes. -/
def Record.line (r : Record) : LogLine := (r.level, r.program?, r.message)

/-- The lines on all programs in order. -/
def Predictions.log (p : Predictions) : List LogLine := p.records.map Record.line

namespace Batch

variable (b : Batch)

/-- The number of samples whose `x0` is infinite or `NaN`. -/
def unrealCount : Nat :=
  (Finset.univ.filter fun i : Fin b.samples => ¬ (b.sample i).1.isFinite = true).card

/-- The lines on a program whose predictions have the given mean. -/
def linesOn (p : ProgramId) (mean : Float32) : List LogLine :=
  (if 0 < b.unrealCount then
    [(.warn, some p, s!"{b.unrealCount} of {b.samples} predictions are NaN")] else []) ++
      [(.debug, some p, "mean prediction " ++ Single.text mean)]

variable {b} in
theorem unrealCount_pos_iff :
    0 < b.unrealCount ↔ ∃ i : Fin b.samples, (b.sample i).1.isFinite = false := by
  rw [unrealCount, Finset.card_pos]
  simp [Finset.Nonempty]

variable {t : Trig} (ht : t.Positive) (parallel : Bool) (p : ProgramId)
include ht

theorem nanCount_evaluate : (b.evaluate t parallel).nanCount p = b.unrealCount := by
  have hnan : ∀ i : Fin b.samples, (b.result t (p, i)).isNaN = !(b.sample i).1.isFinite :=
    fun i => p.isNaN_evaluate ht _ _
  rw [Predictions.nanCount, row_evaluate, unrealCount, ← countP_finRange, List.countP_map]
  simp only [Function.comp_def, hnan, decide_not, Bool.decide_eq_true]

theorem log_evaluate :
    (b.evaluate t parallel).log = ProgramId.all.flatMap fun p =>
      b.linesOn p (rowMean ((b.evaluate t parallel).row p)) := by
  rw [Predictions.log, Predictions.records, List.map_flatMap]
  congr 1
  funext p
  rw [Predictions.recordsOf, b.nanCount_evaluate ht, linesOn, List.map_append]
  split <;> rfl

theorem within_of_mem_row (h : b.unrealCount = 0) :
    ∀ x ∈ (b.evaluate t parallel).row p, Within 0 x := by
  intro x hx
  rw [row_evaluate] at hx
  obtain ⟨i, -, rfl⟩ := List.mem_map.1 hx
  have hreal : (b.sample i).1.isFinite = true := by
    by_contra hi
    exact (unrealCount_pos_iff.2 ⟨i, Bool.eq_false_iff.2 hi⟩).ne' h
  obtain ⟨hmem, hpos⟩ := p.contains_evaluate_of_isFinite ht _ hreal
  exact Single.within_of_pos hpos hmem.2

theorem exists_isNaN_of_unrealCount_pos (h : 0 < b.unrealCount) :
    ∃ x ∈ (b.evaluate t parallel).row p, x.isNaN = true := by
  obtain ⟨i, hi⟩ := unrealCount_pos_iff.1 h
  refine ⟨b.result t (p, i), ?_, ?_⟩
  · rw [row_evaluate]
    exact List.mem_map.2 ⟨i, List.mem_finRange i, rfl⟩
  · exact p.isNaN_evaluate_of_not_isFinite ht _ hi

theorem isNaN_rowMean_row (h : b.samples = 0 ∨ 0 < b.unrealCount) :
    (rowMean ((b.evaluate t parallel).row p)).isNaN = true := by
  rcases h with hzero | hpos
  · have hnil : (b.evaluate t parallel).row p = [] :=
      List.eq_nil_of_length_eq_zero ((Predictions.length_row _ p).trans hzero)
    rw [hnil]
    exact isNaN_rowMean_nil
  · exact isNaN_rowMean (b.exists_isNaN_of_unrealCount_pos ht parallel p hpos)

theorem isFinite_rowMean_row (h : ¬ (b.samples = 0 ∨ 0 < b.unrealCount)) :
    (rowMean ((b.evaluate t parallel).row p)).isFinite = true := by
  obtain ⟨hne, hzero⟩ := not_or.1 h
  refine isFinite_rowMean ?_ (b.within_of_mem_row ht parallel p (Nat.eq_zero_of_not_pos hzero))
  exact List.ne_nil_of_length_pos
    (Nat.pos_of_ne_zero fun hn => hne ((Predictions.length_row _ p).symm.trans hn))

theorem isNaN_rowMean_row_iff :
    (rowMean ((b.evaluate t parallel).row p)).isNaN = true ↔
      b.samples = 0 ∨ 0 < b.unrealCount := by
  refine ⟨fun hnan => ?_, b.isNaN_rowMean_row ht parallel p⟩
  by_contra h
  have hreal := b.isFinite_rowMean_row ht parallel p h
  rw [Single.isFinite_eq_false_of_isNaN hnan] at hreal
  exact nomatch hreal

end Batch

/-! ## Notes on a run -/

/-- The file under a path is a batch of `n` samples. -/
def Disk.HoldsBatch (d : Disk) (path : String) (n : Nat) (b : Batch) : Prop :=
  ∃ bytes, d.read path = .ok bytes ∧ bytes.length = 8 * n ∧
    Batch.ofFlat (Single.decode bytes) n = .ok b

theorem Disk.HoldsBatch.unique {d : Disk} {path : String} {n : Nat} {b b' : Batch}
    (h : d.HoldsBatch path n b) (h' : d.HoldsBatch path n b') : b = b' := by
  obtain ⟨bytes, hread, -, hb⟩ := h
  obtain ⟨bytes', hread', -, hb'⟩ := h'
  obtain rfl := Except.ok.inj (hread.symm.trans hread')
  exact Except.ok.inj (hb.symm.trans hb')

/-- What a run over the disk `d` has logged at each of its ends.  Without a batch it has nothing to
log.  With one it logs first that it was read, then the lines on its predictions, and then that
these were written, if they were. -/
inductive RunLogs (t : Trig) (s : Settings) (d : Disk) (input : String) :
    Option String → List LogLine → Except RunError Predictions → Disk → Prop
  | unread {output : Option String} {e : RunError}
    (hbatch : ∀ b, ¬ d.HoldsBatch input s.samples b) :
    RunLogs t s d input output [] (.error e) d
  | returned {b : Batch} {preds : Predictions} (hbatch : d.HoldsBatch input s.samples b)
    (hpreds : preds = b.evaluate t s.parallel) :
    RunLogs t s d input none
      ((.info, none, s!"read {s.samples} samples from " ++ input) :: preds.log) (.ok preds) d
  | unwritten {path : String} {b : Batch} {preds : Predictions} {cause : FileError}
    (hbatch : d.HoldsBatch input s.samples b) (hpreds : preds = b.evaluate t s.parallel)
    (htarget : d.target path.toList = .error cause) :
    RunLogs t s d input (some path)
      ((.info, none, s!"read {s.samples} samples from " ++ input) :: preds.log)
      (.error (.file path cause)) d
  | written {path : String} {b : Batch} {preds : Predictions} {d' : Disk}
    (hbatch : d.HoldsBatch input s.samples b) (hpreds : preds = b.evaluate t s.parallel)
    (hstores : d.Stores path (Single.encode preds.toFlat) d') :
    RunLogs t s d input (some path)
      ((.info, none, s!"read {s.samples} samples from " ++ input) ::
        (preds.log ++ [(.info, none, s!"wrote {5 * s.samples} predictions to " ++ path)]))
      (.ok preds) d'

theorem exists_runLogs (t : Trig) (s : Settings) (d : Disk) (input : String)
    (output : Option String) :
    ∃ records result d',
      (runFiles t s input output : StateM Disk _).run d = ((records, result), d') ∧
      RunLogs t s d input output (records.map Record.line) result d' := by
  rcases d.lacksBatch_or_exists_read input s.samples with ⟨e, hinput⟩ | ⟨bytes, hread, hlength⟩
  · refine ⟨_, _, _, run_runFiles_of_error t (run_readBatch_of_lacksBatch s hinput), .unread ?_⟩
    rintro b ⟨bytes, hread, hlength, -⟩
    exact hinput.length_ne hread hlength
  obtain ⟨b, hb, hrun⟩ := run_readBatch_of_length s hread hlength
  have hbatch : d.HoldsBatch input s.samples b := ⟨bytes, hread, hlength, hb⟩
  have hsamples : (b.evaluate t s.parallel).samples = s.samples :=
    (Batch.evaluates_of_ofFlat t hb s.parallel).1
  have hline : (Record.read b.samples input).line =
      (.info, none, s!"read {s.samples} samples from " ++ input) := by
    rw [← hsamples]
    rfl
  cases output with
  | none =>
    refine ⟨_, _, _, run_runFiles_none t hrun, ?_⟩
    rw [List.map_cons, hline]
    exact .returned hbatch rfl
  | some path =>
    rcases htarget : d.target path.toList with cause | l
    · refine ⟨_, _, _, run_runFiles_of_target_error t hrun htarget, ?_⟩
      rw [List.map_cons, hline]
      exact .unwritten hbatch rfl htarget
    · refine ⟨_, _, _, run_runFiles_of_target t hrun htarget, ?_⟩
      rw [List.cons_append, List.map_cons, hline, List.map_append, hsamples, Nat.mul_comm]
      exact .written hbatch rfl (Disk.stores_put _ htarget)

/-- The log of a batch has a line for each program on the number of `NaN` among its predictions,
where there are any, and another on their mean.  The predictions that are `NaN` are those of samples
with an `x0` that is not real, so all programs have equally many.  The mean is `NaN` where there is
such a sample or no sample at all, and real for every other batch, however large it is.  A run logs
that the batch was read before all this, and that the predictions were written after it, and neither
where it was not done. -/
theorem runFiles_logs {t : Trig} (ht : t.Positive) :
    (∀ (b : Batch) (parallel : Bool),
      (b.evaluate t parallel).log = ([0, 1, 2, 3, 4] : List ProgramId).flatMap (fun p =>
        b.linesOn p (rowMean ((b.evaluate t parallel).row p))) ∧
      ∀ p, ((rowMean ((b.evaluate t parallel).row p)).isNaN = true ↔
          b.samples = 0 ∨ 0 < b.unrealCount) ∧
        (¬ (b.samples = 0 ∨ 0 < b.unrealCount) →
          (rowMean ((b.evaluate t parallel).row p)).isFinite = true)) ∧
    ∀ (s : Settings) (d : Disk) (input : String) (output : Option String),
      ∃ records result d',
        (runFiles t s input output : StateM Disk _).run d = ((records, result), d') ∧
        RunLogs t s d input output (records.map Record.line) result d' := by
  refine ⟨fun b parallel => ⟨b.log_evaluate ht parallel, fun p => ?_⟩, exists_runLogs t⟩
  exact ⟨b.isNaN_rowMean_row_iff ht parallel p, b.isFinite_rowMean_row ht parallel p⟩

theorem runFiles_logs_one_infinite :
    let d : Disk :=
      { nodes := [(["xs".toList], .file (Single.encode [0.5, 1, Single.infinity, 2]))] }
    ∃ records preds d',
      (runFiles Trig.platform { samples := 2 } "xs" (some "out") : StateM Disk _).run d =
        ((records, .ok preds), d') ∧
      records.map Record.line =
        (.info, none, "read 2 samples from xs") ::
          (([0, 1, 2, 3, 4] : List ProgramId).flatMap (fun p =>
            [(.warn, some p, "1 of 2 predictions are NaN"),
              (.debug, some p, "mean prediction NaN")]) ++
            [(.info, none, "wrote 10 predictions to out")]) := by
  intro d
  obtain ⟨hlog, hrun⟩ := runFiles_logs Trig.lawful_platform.positive
  have hlines : ∀ p, Batch.linesOn ⟨2, #v[0.5, 1, Single.infinity, 2]⟩ p Single.nan =
      [(.warn, some p, "1 of 2 predictions are NaN"),
        (.debug, some p, "mean prediction NaN")] := by decide +kernel
  obtain ⟨hlog, hmean⟩ := hlog ⟨2, #v[0.5, 1, Single.infinity, 2]⟩ true
  have hnan := fun p => Single.eq_nan_of_isNaN ((hmean p).1.2 (.inr (by decide +kernel)))
  simp only [hnan, hlines] at hlog
  have hxs : d.read "xs" = .ok (Single.encode [0.5, 1, Single.infinity, 2]) := by decide +kernel
  have hbatch : d.HoldsBatch "xs" 2 ⟨2, #v[0.5, 1, Single.infinity, 2]⟩ := by
    refine ⟨_, hxs, rfl, ?_⟩
    rw [Single.decode_encode]
    exact Batch.ofFlat_of_length (Eq.refl 4)
  have htarget : d.target "out".toList = .ok ["out".toList] := by decide +kernel
  obtain ⟨records, result, d', hrun, hlogs⟩ := hrun { samples := 2 } d "xs" (some "out")
  generalize hrecords : records.map Record.line = lines at hlogs
  cases hlogs with
  | unread hnone => exact absurd hbatch (hnone _)
  | unwritten _ _ htarget' => exact nomatch htarget.symm.trans htarget'
  | written hbatch' hpreds hstores =>
    obtain rfl := hbatch'.unique hbatch
    subst hpreds
    refine ⟨records, _, d', hrun, hrecords.trans ?_⟩
    rw [← hlog]
    rfl

end TwoSpirals
