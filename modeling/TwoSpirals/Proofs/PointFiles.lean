import TwoSpirals.Command.Evaluate
import TwoSpirals.PointFiles
import TwoSpirals.Proofs.Report
import TwoSpirals.Proofs.Run

/-!
# Labelled points through files

Inputs and labels that go to two files come back as they were (`read_put_put`), so a run over the
first file and a report with the labels of the second say what a report made in memory says.
-/

namespace TwoSpirals

/-! ## Buffers of points -/

theorem features_cons (p : LabeledPoint) (points : List LabeledPoint) :
    features (p :: points) = p.features.1 :: p.features.2 :: features points := rfl

theorem length_features (points : List LabeledPoint) :
    (features points).length = 2 * points.length := by
  induction points with
  | nil => rfl
  | cons p points ih =>
    rw [features_cons, List.length_cons, List.length_cons, ih, List.length_cons]
    omega

theorem length_labels (points : List LabeledPoint) : (labels points).length = points.length :=
  List.length_map _

theorem getElem?_features (points : List LabeledPoint) (i : Nat) (h : i < points.length) :
    (features points)[2 * i]? = some points[i].features.1 ∧
      (features points)[2 * i + 1]? = some points[i].features.2 := by
  induction points generalizing i with
  | nil => exact absurd h (Nat.not_lt_zero i)
  | cons p points ih =>
    cases i with
    | zero => exact ⟨rfl, rfl⟩
    | succ i => exact ih i (Nat.lt_of_succ_lt_succ h)

/-! ## Two files -/

variable {d : Disk} {featuresPath labelsPath : String} {l l' : Location}

theorem run_writeFeatures (points : List LabeledPoint) (h : d.target featuresPath.toList = .ok l) :
    (writeFeatures featuresPath points : StateM Disk _).run d =
      (.ok (), d.put l (.file (Single.encode (features points)))) :=
  run_write_of_target h

theorem run_writeLabels (points : List LabeledPoint) (h : d.target labelsPath.toList = .ok l) :
    (writeLabels labelsPath points : StateM Disk _).run d =
      (.ok (), d.put l (.file (Single.encode (labels points)))) :=
  run_write_of_target h

/-- Of two files that are written one after the other, each holds its own bytes. -/
theorem read_put_put {p q : String} (hp : d.target p.toList = .ok l)
    (hq : d.target q.toList = .ok l') (hne : l ≠ l') (content content' : List UInt8) :
    ((d.put l (.file content)).put l' (.file content')).read p = .ok content ∧
      ((d.put l (.file content)).put l' (.file content')).read q = .ok content' := by
  have hq' : (d.put l (.file content)).target q.toList = .ok l' := Disk.target_put content hp hq
  have hstores := Disk.stores_put content' hq'
  refine ⟨hstores.read_of_ne p content (Disk.stores_put content hp).read ?_, hstores.read⟩
  rw [(Disk.locate_put_self content hp).1, hq']
  exact fun h => hne (Except.ok.inj h)

/-! ## Two routes to a report -/

theorem Report.ofPoints_eq {t : Trig} {points : List LabeledPoint} {preds : Predictions}
    (hpreds : preds.Evaluates t (features points)) (parallel : Bool) :
    Report.ofPoints t parallel points =
      (Report.ofPredictions preds (labels points)).mapError SizeMismatch.message := by
  have hb := Batch.ofFlat_of_length (length_features points)
  have hunique := (Batch.evaluates_of_ofFlat t hb parallel).2.unique hpreds
  unfold Report.ofPoints
  rw [hb]
  show (Report.ofPredictions _ (labels points)).mapError _ = _
  rw [hunique]

/-- Where the inputs and the labels of points go to two files, a run over the first and the labels
in the second make the report that is made of the points in memory. -/
theorem runFiles_writeFeatures (t : Trig) (points : List LabeledPoint) (s : Settings)
    (hs : s.samples = points.length) (d : Disk) {featuresPath labelsPath : String}
    {l l' : Location} (hfeatures : d.target featuresPath.toList = .ok l)
    (hlabels : d.target labelsPath.toList = .ok l') (hne : l ≠ l') :
    ∃ d₁ d₂,
      (writeFeatures featuresPath points : StateM Disk _).run d = (.ok (), d₁) ∧
      (writeLabels labelsPath points : StateM Disk _).run d₁ = (.ok (), d₂) ∧
      (readSingles featuresPath (2 * points.length) : StateM Disk _).run d₂ =
        (.ok (features points), d₂) ∧
      (readSingles labelsPath points.length : StateM Disk _).run d₂ = (.ok (labels points), d₂) ∧
      ∀ output : Option String, (∀ path ∈ output, ∃ l, d₂.target path.toList = .ok l) →
        ∃ records preds d₃ report,
          (runFiles t s featuresPath output : StateM Disk _).run d₂ = ((records, .ok preds), d₃) ∧
          preds.samples = points.length ∧
          (∀ (p : ProgramId) (i : Nat) (hi : i < points.length),
            preds.get? p i = some (p.evaluate t points[i].features.1 points[i].features.2)) ∧
          Report.ofPredictions preds (labels points) = .ok report ∧
          ∀ parallel, Report.ofPoints t parallel points = .ok report := by
  have hlabels' := Disk.target_put (Single.encode (features points)) hfeatures hlabels
  obtain ⟨hread, hread'⟩ := read_put_put hfeatures hlabels hne
    (Single.encode (features points)) (Single.encode (labels points))
  refine ⟨_, _, run_writeFeatures points hfeatures, run_writeLabels points hlabels',
    run_readSingles_encode hread (length_features points),
    run_readSingles_encode hread' (length_labels points), ?_⟩
  intro output houtput
  obtain ⟨records, result, d₃, hrun, hends⟩ := exists_runEnds t s _ featuresPath output
  have hlength : (Single.encode (features points)).length = 8 * s.samples := by
    rw [Single.length_encode, length_features, hs]
    omega
  obtain ⟨preds, rfl, hsamples, hpreds⟩ := hends.eq_ok hread hlength houtput
  rw [Single.decode_encode] at hpreds
  have hn : preds.samples = points.length := hsamples.trans hs
  have hreport := Report.ofPredictions_of_length ((length_labels points).trans hn.symm)
  refine ⟨records, preds, d₃, _, hrun, hn, fun p i hi => ?_, hreport, fun parallel => ?_⟩
  · obtain ⟨hfst, hsnd⟩ := getElem?_features points i hi
    rw [hpreds.get?_eq p i (hn ▸ hi), (List.getElem_eq_iff _).2 hfst,
      (List.getElem_eq_iff _).2 hsnd]
  · rw [Report.ofPoints_eq hpreds parallel, hreport]
    rfl

theorem runFiles_writeFeatures_over_old_files :
    let d : Disk :=
      { nodes := [(["out".toList], .directory), (["out".toList, "x".toList], .file [1, 2, 3])] }
    let points : List LabeledPoint := [⟨1, 2, 1⟩, ⟨-3, 0.5, 0⟩]
    ∃ d₁ d₂,
      (writeFeatures "out/x" points : StateM Disk _).run d = (.ok (), d₁) ∧
      (writeLabels "out/../y" points : StateM Disk _).run d₁ = (.ok (), d₂) ∧
      (readSingles "out/x" 4 : StateM Disk _).run d₂ = (.ok (features points), d₂) ∧
      (readSingles "out/../y" 2 : StateM Disk _).run d₂ = (.ok (labels points), d₂) ∧
      ∃ records preds report,
        (runFiles Trig.platform { samples := 2 } "out/x" none : StateM Disk _).run d₂ =
          ((records, .ok preds), d₂) ∧
        Report.ofPredictions preds (labels points) = .ok report ∧
        Report.ofPoints Trig.platform false points = .ok report := by
  intro d points
  have hx : d.target "out/x".toList = .ok ["out".toList, "x".toList] := by decide +kernel
  have hy : d.target "out/../y".toList = .ok ["y".toList] := by decide +kernel
  obtain ⟨d₁, d₂, hfeatures, hlabels, hread, hread', hrun⟩ :=
    runFiles_writeFeatures Trig.platform points { samples := 2 } rfl d hx hy (by decide)
  obtain ⟨records, preds, d₃, report, hrun, -, -, hreport, hpoints⟩ := hrun none nofun
  have hd : d₃ = d₂ := by
    obtain ⟨_, _, _, hrun', hends⟩ := exists_runEnds Trig.platform { samples := 2 } d₂ "out/x" none
    rw [hrun] at hrun'
    obtain ⟨⟨-, rfl⟩, rfl⟩ := hrun'
    cases hends with
    | returned => rfl
  exact ⟨d₁, d₂, hfeatures, hlabels, hread, hread', records, preds, report, hd ▸ hrun, hreport,
    hpoints false⟩

/-- Two paths can be names of one file, which then holds what is written last. -/
theorem readSingles_two_names_of_a_file :
    let points : List LabeledPoint := [⟨1, 2, 1⟩]
    ∃ d₁ d₂ : Disk, "x" ≠ "./x" ∧
      (writeFeatures "x" points : StateM Disk _).run {} = (.ok (), d₁) ∧
      (writeLabels "./x" points : StateM Disk _).run d₁ = (.ok (), d₂) ∧
      (readSingles "x" 2 : StateM Disk _).run d₂ =
        (.error (.shape ⟨"input bytes", 4, 8⟩), d₂) := by
  intro points
  have hx : Disk.target {} "x".toList = .ok ["x".toList] := by decide +kernel
  have hx' : Disk.target {} "./x".toList = .ok ["x".toList] := by decide +kernel
  have hlabels := Disk.target_put (Single.encode (features points)) hx hx'
  have hread := (Disk.stores_put (Single.encode (labels points))
    (Disk.target_put (Single.encode (features points)) hx hx)).read
  have hlength : (Single.encode (labels points)).length = 4 := by
    rw [Single.length_encode, length_labels]
    rfl
  have hends := Disk.length_of_read hread
  rw [hlength] at hends
  exact ⟨_, _, by decide, run_writeFeatures points hx, run_writeLabels points hlabels,
    run_readSingles_of_length_ne hends (by decide)⟩

end TwoSpirals
