import TwoSpirals.Proofs.Batch
import TwoSpirals.Proofs.Files
import TwoSpirals.Run

/-!
# Runs over a disk

`Disk.LacksBatch` lists why an input is refused: it cannot be opened, it has the wrong length, or it
cannot be read, which are looked at in this order.  `RunEnds` lists the ways in which a run can end,
each with what the disk must hold for it and with the disk that is left.  They exclude each other,
and `runFiles_ends` says that every run ends in one of them: nothing is written before the whole
input is read, and then one file at most.
-/

namespace TwoSpirals

variable {d d' : Disk} {path input : String} {bytes : List UInt8} {cause : FileError}

/-! ## The batch in a file -/

/-- Why there is no batch of `n` samples under a path.  The length is looked at before anything is
read. -/
inductive Disk.LacksBatch (d : Disk) (input : String) (n : Nat) : RunError → Prop
  | unopened {cause : FileError} (hlength : d.length input = .error cause) :
    Disk.LacksBatch d input n (.file input cause)
  | misshapen {got : Nat} (hlength : d.length input = .ok got) (hgot : got ≠ 8 * n) :
    Disk.LacksBatch d input n (.shape ⟨"input bytes", got, 8 * n⟩)
  | unreadable {cause : FileError} (hlength : d.length input = .ok (8 * n))
    (hread : d.read input = .error cause) : Disk.LacksBatch d input n (.file input cause)

namespace Disk

/-- A directory is refused for the length that it is given, unless that happens to be the right one.
It is opened then, and cannot be read. -/
theorem lacksBatch_of_directory {l : Location} (h : d.locate input.toList = .ok l)
    (hnode : d.node? l = some .directory) (n : Nat) :
    d.LacksBatch input n (if d.directoryLength d.nodes l = 8 * n then .file input .isDirectory
      else .shape ⟨"input bytes", d.directoryLength d.nodes l, 8 * n⟩) := by
  obtain ⟨hlength, hread⟩ := length_and_read_of_directory h hnode
  split_ifs with hn
  · exact .unreadable (hlength.trans (congrArg _ hn)) hread
  · exact .misshapen hlength hn

theorem LacksBatch.length_ne {n : Nat} {e : RunError} (h : d.LacksBatch input n e)
    (hread : d.read input = .ok bytes) : bytes.length ≠ 8 * n := by
  have hbytes := length_of_read hread
  cases h with
  | unopened hlength => exact nomatch hbytes.symm.trans hlength
  | misshapen hlength hgot =>
    obtain rfl := Except.ok.inj (hbytes.symm.trans hlength)
    exact hgot
  | unreadable _ hread' => exact nomatch hread.symm.trans hread'

theorem lacksBatch_or_exists_read (d : Disk) (input : String) (n : Nat) :
    (∃ e, d.LacksBatch input n e) ∨ ∃ bytes, d.read input = .ok bytes ∧ bytes.length = 8 * n := by
  rcases hlength : d.length input with cause | got
  · exact .inl ⟨_, .unopened hlength⟩
  by_cases hgot : got = 8 * n
  · subst hgot
    rcases hread : d.read input with cause | bytes
    · exact .inl ⟨_, .unreadable hlength hread⟩
    · exact .inr ⟨bytes, rfl, Except.ok.inj ((length_of_read hread).symm.trans hlength)⟩
  · exact .inl ⟨_, .misshapen hlength hgot⟩

end Disk

section

variable (s : Settings)

theorem four_mul_inputLength : 4 * s.inputLength = 8 * s.samples := by
  unfold Settings.inputLength
  omega

theorem run_readBatch_of_lacksBatch {e : RunError} (h : d.LacksBatch input s.samples e) :
    (readBatch s input : StateM Disk _).run d = (.error e, d) := by
  have hread : (readSingles input s.inputLength : StateM Disk _).run d = (.error e, d) := by
    cases h with
    | unopened hlength => exact run_readSingles_of_length_error hlength _
    | misshapen hlength hgot =>
      rw [← four_mul_inputLength] at hgot ⊢
      exact run_readSingles_of_length_ne hlength hgot
    | unreadable hlength hread =>
      have hpos : 0 < s.inputLength := by
        have := s.samples_pos
        unfold Settings.inputLength
        omega
      rw [← four_mul_inputLength] at hlength
      exact run_readSingles_of_read_error hpos hlength hread
  rw [readBatch, run_bind, hread]
  rfl

/-- A directory as the input of ten samples, and of as many as its length would do for. -/
example :
    let d : Disk := { nodes := [(["out".toList], .directory)] }
    (readBatch { samples := 10 } "out" : StateM Disk _).run d =
        (.error (.shape ⟨"input bytes", 4096, 80⟩), d) ∧
      (readBatch { samples := 512 } "out" : StateM Disk _).run d =
        (.error (.file "out" .isDirectory), d) := ⟨rfl, rfl⟩

theorem run_readBatch_of_length (h : d.read input = .ok bytes)
    (hlen : bytes.length = 8 * s.samples) :
    ∃ b, Batch.ofFlat (Single.decode bytes) s.samples = .ok b ∧
      (readBatch s input : StateM Disk _).run d = (.ok b, d) := by
  have hdata : (Single.decode bytes).length = 2 * s.samples := by
    rw [Single.length_decode]
    omega
  refine ⟨_, Batch.ofFlat_of_length hdata, ?_⟩
  rw [← four_mul_inputLength] at hlen
  rw [readBatch, run_bind, run_readSingles_of_length h hlen]
  dsimp only
  rw [Batch.ofFlat_of_length hdata]
  rfl

end

/-! ## Runs -/

/-- The ways in which a run ends: what it returns, and the disk it leaves of the disk `d`. -/
inductive RunEnds (t : Trig) (s : Settings) (d : Disk) (input : String) :
    Option String → Except RunError Predictions → Disk → Prop
  | unread {output : Option String} {e : RunError} (hinput : d.LacksBatch input s.samples e) :
    RunEnds t s d input output (.error e) d
  | unwritable {path : String} {bytes : List UInt8} {cause : FileError}
    (hread : d.read input = .ok bytes) (hlength : bytes.length = 8 * s.samples)
    (htarget : d.target path.toList = .error cause) :
    RunEnds t s d input (some path) (.error (.file path cause)) d
  | returned {bytes : List UInt8} {preds : Predictions} (hread : d.read input = .ok bytes)
    (hlength : bytes.length = 8 * s.samples) (hsamples : preds.samples = s.samples)
    (hpreds : preds.Evaluates t (Single.decode bytes)) :
    RunEnds t s d input none (.ok preds) d
  | stored {path : String} {bytes content : List UInt8} {preds : Predictions} {d' : Disk}
    (hread : d.read input = .ok bytes) (hlength : bytes.length = 8 * s.samples)
    (hsamples : preds.samples = s.samples) (hpreds : preds.Evaluates t (Single.decode bytes))
    (hcontent : content = Single.encode (ProgramId.all.flatMap preds.row))
    (hlength' : content.length = 20 * s.samples) (hstores : d.Stores path content d') :
    RunEnds t s d input (some path) (.ok preds) d'

section

variable (t : Trig) {s : Settings} {output : Option String}

theorem run_runFiles_of_error {e : RunError}
    (h : (readBatch s input : StateM Disk _).run d = (.error e, d)) :
    (runFiles t s input output : StateM Disk _).run d = (([], .error e), d) := by
  rw [runFiles, run_bind, h]
  rfl

section

variable {b : Batch} (h : (readBatch s input : StateM Disk _).run d = (.ok b, d))
include h

theorem run_runFiles_none :
    (runFiles t s input none : StateM Disk _).run d =
      ((.read b.samples input :: (b.evaluate t s.parallel).records,
        .ok (b.evaluate t s.parallel)), d) := by
  rw [runFiles, run_bind, h]
  rfl

theorem run_runFiles_of_target {l : Location} (htarget : d.target path.toList = .ok l) :
    (runFiles t s input (some path) : StateM Disk _).run d =
      ((.read b.samples input :: (b.evaluate t s.parallel).records ++
          [.wrote ((b.evaluate t s.parallel).samples * 5) path],
        .ok (b.evaluate t s.parallel)),
        d.put l (.file (Single.encode (b.evaluate t s.parallel).toFlat))) := by
  rw [runFiles, run_bind, h]
  dsimp only
  rw [run_bind, run_writeSingles_of_target _ htarget]
  rfl

theorem run_runFiles_of_target_error (htarget : d.target path.toList = .error cause) :
    (runFiles t s input (some path) : StateM Disk _).run d =
      ((.read b.samples input :: (b.evaluate t s.parallel).records, .error (.file path cause)),
        d) := by
  rw [runFiles, run_bind, h]
  dsimp only
  rw [run_bind, run_writeSingles_of_target_error _ htarget]
  rfl

end

end

/-- An input of the right size has predictions.  They are the same wherever they go, and an output
holds them afterwards or cannot be written. -/
theorem exists_run_runFiles (t : Trig) {s : Settings} (hread : d.read input = .ok bytes)
    (hlength : bytes.length = 8 * s.samples) :
    ∃ preds : Predictions, preds.samples = s.samples ∧ preds.Evaluates t (Single.decode bytes) ∧
      (∃ records, (runFiles t s input none : StateM Disk _).run d = ((records, .ok preds), d)) ∧
      (∀ path cause, d.target path.toList = .error cause →
        ∃ records, (runFiles t s input (some path) : StateM Disk _).run d =
          ((records, .error (.file path cause)), d)) ∧
      ∀ path l, d.target path.toList = .ok l →
        ∃ records d', (runFiles t s input (some path) : StateM Disk _).run d =
            ((records, .ok preds), d') ∧
          d.Stores path (Single.encode (ProgramId.all.flatMap preds.row)) d' := by
  obtain ⟨b, hb, hbatch⟩ := run_readBatch_of_length s hread hlength
  obtain ⟨hsamples, hpreds⟩ := Batch.evaluates_of_ofFlat t hb s.parallel
  refine ⟨b.evaluate t s.parallel, hsamples, hpreds, ⟨_, run_runFiles_none t hbatch⟩, ?_, ?_⟩
  · exact fun path cause htarget => ⟨_, run_runFiles_of_target_error t hbatch htarget⟩
  · intro path l htarget
    refine ⟨_, _, run_runFiles_of_target t hbatch htarget, ?_⟩
    rw [← Predictions.toFlat_eq_flatMap_row]
    exact Disk.stores_put _ htarget

/-- The run ends in one of the ways of `RunEnds`. -/
theorem exists_runEnds (t : Trig) (s : Settings) (d : Disk) (input : String)
    (output : Option String) :
    ∃ records result d',
      (runFiles t s input output : StateM Disk _).run d = ((records, result), d') ∧
      RunEnds t s d input output result d' := by
  rcases d.lacksBatch_or_exists_read input s.samples with ⟨e, hinput⟩ | ⟨bytes, hread, hlength⟩
  · exact ⟨_, _, _, run_runFiles_of_error t (run_readBatch_of_lacksBatch s hinput), .unread hinput⟩
  obtain ⟨preds, hsamples, hpreds, hnone, herror, hok⟩ := exists_run_runFiles t hread hlength
  cases output with
  | none =>
    obtain ⟨records, hrun⟩ := hnone
    exact ⟨_, _, _, hrun, .returned hread hlength hsamples hpreds⟩
  | some path =>
    rcases htarget : d.target path.toList with cause | l
    · obtain ⟨records, hrun⟩ := herror path cause htarget
      exact ⟨_, _, _, hrun, .unwritable hread hlength htarget⟩
    · obtain ⟨records, d', hrun, hstores⟩ := hok path l htarget
      refine ⟨_, _, _, hrun, .stored hread hlength hsamples hpreds rfl ?_ hstores⟩
      rw [← Predictions.toFlat_eq_flatMap_row, Single.length_encode, Predictions.length_toFlat]
      omega

namespace RunEnds

variable {t : Trig} {s : Settings} {output : Option String} {result : Except RunError Predictions}
  (h : RunEnds t s d input output result d')
include h

theorem eq_of_error {e : RunError} (he : result = .error e) : d' = d := by
  cases h with
  | unread | unwritable => rfl
  | returned | stored => exact nomatch he

/-- A file of the right size is never a buffer of a wrong one. -/
theorem ne_inputFloats (got expected : Nat) :
    result ≠ .error (.shape ⟨"input floats", got, expected⟩) := by
  cases h with
  | unread hinput => cases hinput <;> simp
  | unwritable | returned | stored => exact nofun

theorem node?_of_ne (l : Location) (hl : ∀ path ∈ output, d.target path.toList ≠ .ok l) :
    d'.node? l = d.node? l := by
  cases h with
  | unread | unwritable | returned => rfl
  | stored _ _ _ _ _ _ hstores => exact hstores.node?_of_ne l (hl _ rfl)

/-- Nothing else is asked for a run to succeed than an input of the right size and an output that
can be written. -/
theorem eq_ok (hread : d.read input = .ok bytes) (hlength : bytes.length = 8 * s.samples)
    (houtput : ∀ path ∈ output, ∃ l, d.target path.toList = .ok l) :
    ∃ preds, result = .ok preds ∧ preds.samples = s.samples ∧
      preds.Evaluates t (Single.decode bytes) := by
  cases h with
  | unread hinput => exact absurd hlength (hinput.length_ne hread)
  | unwritable _ _ htarget =>
    obtain ⟨l, hl⟩ := houtput _ rfl
    exact nomatch hl.symm.trans htarget
  | returned hread' _ hsamples hpreds | stored hread' _ hsamples hpreds =>
    obtain rfl := Except.ok.inj (hread.symm.trans hread')
    exact ⟨_, rfl, hsamples, hpreds⟩

end RunEnds

/-- Every run ends in one of the ways of `RunEnds`.  It changes nothing where it fails, and never
more than the file named for the output. -/
theorem runFiles_ends (t : Trig) (s : Settings) (d : Disk) (input : String)
    (output : Option String) :
    ∃ records result d',
      (runFiles t s input output : StateM Disk _).run d = ((records, result), d') ∧
      RunEnds t s d input output result d' ∧
      (∀ e, result = .error e → d' = d) ∧
      (∀ got expected, result ≠ .error (.shape ⟨"input floats", got, expected⟩)) ∧
      ∀ l, (∀ path ∈ output, d.target path.toList ≠ .ok l) → d'.node? l = d.node? l := by
  obtain ⟨records, result, d', hrun, hends⟩ := exists_runEnds t s d input output
  exact ⟨records, result, d', hrun, hends, fun _ => hends.eq_of_error, hends.ne_inputFloats,
    hends.node?_of_ne⟩

theorem runFiles_ends_over_its_input :
    let d : Disk := { nodes := [(["xs".toList], .file (Single.encode [0.5, 2]))] }
    ∃ records preds d',
      (runFiles Trig.platform { samples := 1 } "xs" (some "./xs") : StateM Disk _).run d =
        ((records, .ok preds), d') ∧
      preds.get? 3 0 = some (ProgramId.evaluate Trig.platform 3 0.5 2) ∧
      d'.read "./xs" = .ok (Single.encode (ProgramId.all.flatMap preds.row)) := by
  intro d
  have hxs : d.read "xs" = .ok (Single.encode [0.5, 2]) := by decide +kernel
  have htarget : d.target "./xs".toList = .ok ["xs".toList] := by decide +kernel
  obtain ⟨records, result, d', hrun, hends, -⟩ :=
    runFiles_ends Trig.platform { samples := 1 } d "xs" (some "./xs")
  cases hends with
  | unread hinput => exact absurd rfl (hinput.length_ne hxs)
  | unwritable hread hlength htarget' => exact nomatch htarget.symm.trans htarget'
  | @stored _ _ _ preds _ hread hlength hsamples hpreds hcontent hlength' hstores =>
    obtain rfl := Except.ok.inj (hxs.symm.trans hread)
    subst hcontent
    rw [Single.decode_encode] at hpreds
    have hpos : 0 < preds.samples := by
      rw [hsamples]
      decide
    exact ⟨records, preds, d', hrun, hpreds.get?_eq 3 0 hpos, hstores.read⟩

end TwoSpirals
