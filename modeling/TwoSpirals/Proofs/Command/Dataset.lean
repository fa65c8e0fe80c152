import TwoSpirals.Command.Dataset
import TwoSpirals.Proofs.PointFiles
import TwoSpirals.Proofs.Spiral

/-!
# Ends of making the data set

`dataset` prints the samples whatever becomes of its files: `datasetOn_eq` gives its end and the
disk it leaves by those of `writeDataset`.  `DatasetEnds` lists its ends by which of the two paths
can be written.  A write opens and closes no path for another one, so the disk before the first
write tells which end it will be, and `dataset_ends` says that it is always one of them.
-/

namespace TwoSpirals.Command

variable {d : Disk} {args : List String} {command featuresPath labelsPath : String} {l : Location}
  {cause : FileError}

/-- The command with its arguments: its end and the disk it leaves. -/
def datasetOn (command : String) (d : Disk) (args : List String) : Outcome × Disk :=
  (dataset command args : StateM Disk Outcome).run d

/-- The end of the command by what it printed and by how writing the files ended. -/
def datasetOutcome (stdout : String) : Except String Unit → Outcome
  | .ok () => .success stdout
  | .error line => { Outcome.failure 1 line with stdout }

theorem datasetOn_eq (h : args.length ≤ 2) :
    datasetOn command d args =
      let (result, d') := (writeDataset (Spiral.samples {}) args : StateM Disk _).run d
      (datasetOutcome (pointsText (Spiral.samples {})) result, d') := by
  rw [datasetOn, dataset, if_neg (Nat.not_lt.2 h)]
  generalize Spiral.samples {} = points
  rw [run_bind]
  rcases (writeDataset points args : StateM Disk _).run d with ⟨_ | _, d'⟩ <;> rfl

theorem code_datasetOutcome_le (stdout : String) (result : Except String Unit) :
    (datasetOutcome stdout result).code ≤ 1 := by
  cases result with
  | ok => exact Nat.zero_le 1
  | error line => exact Nat.le_refl 1

/-! ## The two files -/

section

variable (points : List LabeledPoint) {rest : List String}

theorem run_writeDataset_of_target_error (h : d.target featuresPath.toList = .error cause) :
    (writeDataset points (featuresPath :: rest) : StateM Disk _).run d =
      (.error ("Error writing features to " ++ featuresPath ++ ": " ++ cause.message), d) := by
  rw [writeDataset.eq_def]
  dsimp only
  rw [run_bind, writeFeatures, run_write_of_target_error h]
  rfl

theorem run_writeDataset_of_target (h : d.target featuresPath.toList = .ok l) :
    (writeDataset points [featuresPath] : StateM Disk _).run d =
      (.ok (), d.put l (.file (Single.encode (features points)))) := by
  rw [writeDataset, run_bind, run_writeFeatures points h]
  rfl

theorem run_writeDataset_of_labels_error (h : d.target featuresPath.toList = .ok l)
    (h' : (d.put l (.file (Single.encode (features points)))).target labelsPath.toList =
      .error cause) :
    (writeDataset points (featuresPath :: labelsPath :: rest) : StateM Disk _).run d =
      (.error ("Error writing labels to " ++ labelsPath ++ ": " ++ cause.message),
        d.put l (.file (Single.encode (features points)))) := by
  rw [writeDataset, run_bind, run_writeFeatures points h]
  dsimp only
  rw [run_bind, writeLabels, run_write_of_target_error h']
  rfl

theorem run_writeDataset_of_targets {l' : Location} (h : d.target featuresPath.toList = .ok l)
    (h' : d.target labelsPath.toList = .ok l') :
    (writeDataset points (featuresPath :: labelsPath :: rest) : StateM Disk _).run d =
      (.ok (), (d.put l (.file (Single.encode (features points)))).put l'
        (.file (Single.encode (labels points)))) := by
  rw [writeDataset, run_bind, run_writeFeatures points h]
  dsimp only
  rw [run_bind, run_writeLabels points (Disk.target_put _ h h')]
  rfl

end

/-! ## Ends -/

/-- The ways in which the command ends that prints `points`: what it printed and the code, and the
disk it leaves of the disk `d`.  Two paths are equal if they name one place, whether they are
written alike or not, and the labels then stand where the features stood. -/
inductive DatasetEnds (points : List LabeledPoint) (d : Disk) : List String → Outcome → Disk → Prop
  | printed : DatasetEnds points d [] ⟨0, pointsText points, ""⟩ d
  | featuresUnwritable {featuresPath : String} {rest : List String} {cause : FileError}
    (hfeatures : d.target featuresPath.toList = .error cause) :
    DatasetEnds points d (featuresPath :: rest)
      ⟨1, pointsText points,
        "Error writing features to " ++ featuresPath ++ ": " ++ cause.message ++ "\n"⟩ d
  | featuresWritten {featuresPath : String} {l : Location} {d' : Disk}
    (hfeatures : d.target featuresPath.toList = .ok l)
    (hstores : d.Stores featuresPath (Single.encode (features points)) d') :
    DatasetEnds points d [featuresPath] ⟨0, pointsText points, ""⟩ d'
  | labelsUnwritable {featuresPath labelsPath : String} {l : Location} {cause : FileError}
    {d' : Disk} (hfeatures : d.target featuresPath.toList = .ok l)
    (hlabels : ∀ l', d.target labelsPath.toList ≠ .ok l')
    (hcause : d'.target labelsPath.toList = .error cause)
    (hstores : d.Stores featuresPath (Single.encode (features points)) d') :
    DatasetEnds points d [featuresPath, labelsPath]
      ⟨1, pointsText points,
        "Error writing labels to " ++ labelsPath ++ ": " ++ cause.message ++ "\n"⟩ d'
  | bothWritten {featuresPath labelsPath : String} {l l' : Location} {d' : Disk}
    (hfeatures : d.target featuresPath.toList = .ok l)
    (hlabels : d.target labelsPath.toList = .ok l')
    (hread : d'.read featuresPath =
      .ok (Single.encode (if l = l' then labels points else features points)))
    (hread' : d'.read labelsPath = .ok (Single.encode (labels points)))
    (hframe : ∀ k, k ≠ l → k ≠ l' → d'.node? k = d.node? k) :
    DatasetEnds points d [featuresPath, labelsPath] ⟨0, pointsText points, ""⟩ d'

theorem bothWritten_put (points : List LabeledPoint) {l' : Location}
    (h : d.target featuresPath.toList = .ok l) (h' : d.target labelsPath.toList = .ok l') :
    DatasetEnds points d [featuresPath, labelsPath] ⟨0, pointsText points, ""⟩
      ((d.put l (.file (Single.encode (features points)))).put l'
        (.file (Single.encode (labels points)))) := by
  have hlabels := Disk.stores_put (Single.encode (labels points))
    (Disk.target_put (Single.encode (features points)) h h')
  refine .bothWritten h h' ?_ hlabels.read ?_
  · split_ifs with hl
    · subst hl
      exact (Disk.stores_put _ (Disk.target_put _ h h)).read
    · exact (read_put_put h h' hl _ _).1
  · intro k hl hl'
    rw [Disk.node?_put_of_ne _ _ hl', Disk.node?_put_of_ne _ _ hl]

theorem exists_datasetEnds (command : String) (d : Disk) (h : args.length ≤ 2) :
    ∃ outcome d', datasetOn command d args = (outcome, d') ∧
      DatasetEnds (Spiral.samples {}) d args outcome d' := by
  rw [datasetOn_eq h]
  generalize Spiral.samples {} = points
  match args with
  | [] => exact ⟨_, _, rfl, .printed⟩
  | featuresPath :: rest =>
    rcases hfeatures : d.target featuresPath.toList with cause | l
    · rw [run_writeDataset_of_target_error points hfeatures]
      exact ⟨_, _, rfl, .featuresUnwritable hfeatures⟩
    have hstores := Disk.stores_put (Single.encode (features points)) hfeatures
    match rest with
    | [] =>
      rw [run_writeDataset_of_target points hfeatures]
      exact ⟨_, _, rfl, .featuresWritten hfeatures hstores⟩
    | [labelsPath] =>
      rcases hlabels : d.target labelsPath.toList with _ | l'
      · rcases hcause : (d.put l (.file (Single.encode (features points)))).target
          labelsPath.toList with cause | l'
        · rw [run_writeDataset_of_labels_error points hfeatures hcause]
          exact ⟨_, _, rfl, .labelsUnwritable hfeatures
            (fun _ h => nomatch hlabels.symm.trans h) hcause hstores⟩
        · -- The labels could not be written before the features were, so they cannot be now.
          have hopen := (Disk.target_put_eq_ok_iff _ hfeatures).1 hcause
          exact nomatch hlabels.symm.trans hopen
      · rw [run_writeDataset_of_targets points hfeatures hlabels]
        exact ⟨_, _, rfl, bothWritten_put points hfeatures hlabels⟩

namespace DatasetEnds

variable {points : List LabeledPoint} {outcome : Outcome} {d' : Disk}
  (h : DatasetEnds points d args outcome d')
include h

theorem stdout_eq : outcome.stdout = pointsText points := by cases h <;> rfl

theorem node?_of_ne (l : Location) (hl : ∀ path ∈ args, d.target path.toList ≠ .ok l) :
    d'.node? l = d.node? l := by
  cases h with
  | printed | featuresUnwritable => rfl
  | featuresWritten _ hstores | labelsUnwritable _ _ _ hstores =>
    exact hstores.node?_of_ne l (hl _ List.mem_cons_self)
  | bothWritten hfeatures hlabels _ _ hframe =>
    simp only [List.forall_mem_cons, hfeatures, hlabels, ne_eq, Except.ok.injEq] at hl
    exact hframe l (Ne.symm hl.1) (Ne.symm hl.2.1)

end DatasetEnds

/-- The command ends in one of the ways of `DatasetEnds`.  All samples are printed whatever becomes
of the files, of which no other is changed than those that are named, and a sample takes eight bytes
in the first and four in the second. -/
theorem dataset_ends (command : String) (d : Disk) {args : List String} (h : args.length ≤ 2) :
    ∃ outcome d', datasetOn command d args = (outcome, d') ∧
      DatasetEnds (Spiral.samples {}) d args outcome d' ∧
      outcome.stdout = pointsText (Spiral.samples {}) ∧
      (∀ l, (∀ path ∈ args, d.target path.toList ≠ .ok l) → d'.node? l = d.node? l) ∧
      (Spiral.samples {}).length = 194 ∧
      (Single.encode (features (Spiral.samples {}))).length = 8 * (Spiral.samples {}).length ∧
      (Single.encode (labels (Spiral.samples {}))).length = 4 * (Spiral.samples {}).length := by
  obtain ⟨outcome, d', hrun, hends⟩ := exists_datasetEnds command d h
  refine ⟨outcome, d', hrun, hends, hends.stdout_eq, hends.node?_of_ne,
    Spiral.length_samples {}, ?_, ?_⟩
  · rw [Single.length_encode, length_features]
    omega
  · rw [Single.length_encode, length_labels]

theorem dataset_ends_over_old_file :
    let d : Disk := { nodes := [(["x".toList], .file [1, 2, 3])] }
    (∃ outcome d', datasetOn "mkspiral" d ["x", "no/y"] = (outcome, d') ∧ outcome.code = 1 ∧
      outcome.stdout = pointsText (Spiral.samples {}) ∧
      d'.read "x" = .ok (Single.encode (features (Spiral.samples {})))) ∧
    ∃ outcome d', datasetOn "mkspiral" d ["x", "x"] = (outcome, d') ∧ outcome.code = 0 ∧
      outcome.stdout = pointsText (Spiral.samples {}) ∧
      d'.read "x" = .ok (Single.encode (labels (Spiral.samples {}))) := by
  intro d
  have hx : d.target "x".toList = .ok ["x".toList] := by decide +kernel
  have hy : d.target "no/y".toList = .error .notFound := by decide +kernel
  constructor
  · obtain ⟨outcome, d', hrun, hends, hstdout, -⟩ :=
      @dataset_ends "mkspiral" d ["x", "no/y"] (by decide)
    cases hends with
    | featuresUnwritable hfeatures => exact nomatch hx.symm.trans hfeatures
    | labelsUnwritable _ _ _ hstores => exact ⟨_, d', hrun, rfl, hstdout, hstores.read⟩
    | bothWritten _ hlabels => exact nomatch hy.symm.trans hlabels
  · obtain ⟨outcome, d', hrun, hends, hstdout, -⟩ :=
      @dataset_ends "mkspiral" d ["x", "x"] (by decide)
    cases hends with
    | featuresUnwritable hfeatures => exact nomatch hx.symm.trans hfeatures
    | labelsUnwritable _ hlabels => exact absurd hx (hlabels _)
    | bothWritten _ _ _ hread => exact ⟨_, d', hrun, rfl, hstdout, hread⟩

end TwoSpirals.Command
