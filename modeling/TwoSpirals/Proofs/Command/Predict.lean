import TwoSpirals.Command.Predict
import TwoSpirals.Proofs.Run
import TwoSpirals.Proofs.Single.Text
import TwoSpirals.Proofs.Text.Lines

/-!
# Printed and written predictions

`Predictions.ShownBy` says what it means for a text to show predictions, and `Predictions.text` does
so (`shownBy_text`).  `predict_ends` says how the command ends, with an output and without one: what
it prints reads as the numbers that it writes, and whatever fails is reported with nothing printed
and nothing changed.
-/

namespace TwoSpirals

/-! ## Lines of predictions -/

namespace Predictions

/-- The text has a line for each program in order.  A line holds the number of its program and then,
with a blank between two, as many numbers as there are samples, which read as the predictions. -/
def ShownBy (preds : Predictions) (text : String) : Prop :=
  ∃ body : ProgramId → List Char,
    text.toList.splitOn '\n' =
      (ProgramId.all.map fun p => p.chars ++ ':' :: ' ' :: body p) ++ [[]] ∧
    ∀ p, ((body p).splitOn ' ').length = preds.samples ∧
      ((body p).splitOn ' ').map Single.ofChars? = (preds.row p).map some

variable (preds : Predictions)

/-- The numbers of a line. -/
def body (p : ProgramId) : List Char := [' '].intercalate ((preds.row p).map Single.chars)

theorem splitOn_body (h : 0 < preds.samples) (p : ProgramId) :
    (preds.body p).splitOn ' ' = (preds.row p).map Single.chars := by
  apply List.splitOn_intercalate
  · intro token htoken
    obtain ⟨x, -, rfl⟩ := List.mem_map.1 htoken
    exact Single.not_mem_chars rfl (by decide) x
  · rw [ne_eq, ← List.length_eq_zero_iff, List.length_map, length_row]
    omega

theorem not_mem_intercalate {c : Char} (hc : c ≠ ' ') {tokens : List (List Char)}
    (h : ∀ token ∈ tokens, c ∉ token) : c ∉ [' '].intercalate tokens := by
  induction tokens with
  | nil => exact List.not_mem_nil
  | cons token tokens ih =>
    rw [List.forall_mem_cons] at h
    cases tokens with
    | nil => simpa using h.1
    | cons token' tokens => simpa [hc, h.1] using ih h.2

theorem newline_not_mem_line (p : ProgramId) : '\n' ∉ p.chars ++ ':' :: ' ' :: preds.body p := by
  have hbody : '\n' ∉ preds.body p := by
    apply not_mem_intercalate (by decide)
    intro token htoken
    obtain ⟨x, -, rfl⟩ := List.mem_map.1 htoken
    exact Single.not_mem_chars rfl (by decide) x
  have hchars : '\n' ∉ p.chars := not_mem_toDigits (by decide) p.val
  simp [hchars, hbody]

theorem line_eq (p : ProgramId) :
    preds.line p = (p.chars ++ ':' :: ' ' :: preds.body p) ++ ['\n'] := by
  rw [line, body, List.append_assoc]
  rfl

theorem shownBy_text (h : 0 < preds.samples) : preds.ShownBy preds.text := by
  refine ⟨preds.body, ?_, fun p => ⟨?_, ?_⟩⟩
  · rw [text, String.toList_ofList,
      ← Text.splitOn_flatMap_lines _ fun p _ => preds.newline_not_mem_line p]
    congr 2
    funext p
    exact preds.line_eq p
  · rw [splitOn_body preds h, List.length_map, length_row]
  · rw [splitOn_body preds h, List.map_map]
    exact List.map_congr_left fun x _ => Single.ofChars?_chars x

end Predictions

namespace Command

/-- The end of the command where a run fails. -/
def runFailure (e : RunError) : Outcome := .failure 1 ("Error running batch: " ++ e.message)

/-- The end of the command by how the run ended.  Predictions that were written are not printed. -/
def predictOutcome (output : Option String) : Except RunError Predictions → Outcome
  | .error e => runFailure e
  | .ok preds => .success (output.elim preds.text fun _ => "")

theorem code_predictOutcome_le (output : Option String) (result : Except RunError Predictions) :
    (predictOutcome output result).code ≤ 1 := by
  cases result with
  | error e => exact Nat.le_refl 1
  | ok preds => exact Nat.zero_le 1

/-! ## Runs of the command -/

section

variable (t : Trig) {env : Environment} {s : Settings} {command input : String} {d d' : Disk}

/-- Settings that cannot be read are reported with no file touched, whatever holds the files. -/
theorem predict_of_invalid {m : Type → Type} [Monad m] [LawfulMonad m] [Files m]
    {e : Settings.Error} (h : Settings.ofEnvironment env = .error e) (output : Option String) :
    (predict t env command (input :: output.toList) : m Outcome) =
      pure (runFailure (.invalidSettings e.message)) := by
  have hfile : ∀ output, (predictFile t env input output : m _) =
      pure (.error (.invalidSettings e.message)) := by
    intro output
    rw [predictFile, h]
  cases output with
  | none =>
    show (predictFile t env input none >>= _) = _
    rw [hfile, pure_bind]
    rfl
  | some path =>
    show (predictFile t env input (some path) >>= _) = _
    rw [hfile, pure_bind]
    rfl

theorem run_predictFile (hs : Settings.ofEnvironment env = .ok s) {output : Option String}
    {records : List Record} {result : Except RunError Predictions}
    (hrun : (runFiles t s input output : StateM Disk _).run d = ((records, result), d')) :
    (predictFile t env input output : StateM Disk _).run d = (result, d') := by
  rw [predictFile, hs]
  dsimp only
  rw [run_bind, hrun]
  rfl

/-- Where the settings are read, the command ends by the end of the run. -/
theorem run_predict (hs : Settings.ofEnvironment env = .ok s) {output : Option String}
    {records : List Record} {result : Except RunError Predictions}
    (hrun : (runFiles t s input output : StateM Disk _).run d = ((records, result), d')) :
    (predict t env command (input :: output.toList) : StateM Disk _).run d =
      (predictOutcome output result, d') := by
  have hfile := run_predictFile t hs hrun
  cases output with
  | none =>
    show (predict t env command [input] : StateM Disk _).run d = _
    rw [predict, run_bind, hfile]
    cases result <;> rfl
  | some path =>
    show (predict t env command [input, path] : StateM Disk _).run d = _
    rw [predict, run_bind, hfile]
    cases result <;> rfl

end

/-! ## The command on a disk -/

/-- The command with an input and, where it is given, an output: its end and the disk it leaves. -/
def predictOn (t : Trig) (env : Environment) (command : String) (d : Disk) (input : String)
    (output : Option String) : Outcome × Disk :=
  (predict t env command (input :: output.toList) : StateM Disk Outcome).run d

section

variable (t : Trig) {env : Environment} {s : Settings} {command input : String} {d : Disk}
  {preds : Predictions}

theorem samples_eq_of_run (h : ((runFiles t s input none : StateM Disk _).run d).1.2 = .ok preds) :
    preds.samples = s.samples := by
  obtain ⟨records, result, d', hrun, hends⟩ := exists_runEnds t s d input none
  rw [hrun] at h
  obtain rfl : result = .ok preds := h
  cases hends with
  | returned _ _ hsamples => exact hsamples

/-- Without an output the command prints the predictions, and with one it writes them. -/
theorem predictOn_of_ok (hs : Settings.ofEnvironment env = .ok s)
    (h : ((runFiles t s input none : StateM Disk _).run d).1.2 = .ok preds) :
    predictOn t env command d input none = (.success preds.text, d) ∧
      ∀ path l, d.target path.toList = .ok l →
        ∃ d', predictOn t env command d input (some path) = (.success "", d') ∧
          d'.read path = .ok (Single.encode (ProgramId.all.flatMap preds.row)) := by
  obtain ⟨records, result, d', hrun, hends⟩ := exists_runEnds t s d input none
  rw [hrun] at h
  obtain rfl : result = .ok preds := h
  cases hends with
  | returned hread hlength =>
    refine ⟨run_predict t hs hrun, fun path l htarget => ?_⟩
    obtain ⟨preds', -, -, ⟨records', hnone⟩, -, hsome⟩ := exists_run_runFiles t hread hlength
    -- The run without an output makes the same predictions.
    obtain rfl : preds = preds' := by
      rw [hrun] at hnone
      exact Except.ok.inj (congrArg (fun r => r.1.2) hnone)
    obtain ⟨_, d', hwrite, hstores⟩ := hsome path l htarget
    exact ⟨d', run_predict t hs hwrite, hstores.read⟩

theorem code_predictOn_none (hs : Settings.ofEnvironment env = .ok s) :
    (predictOn t env command d input none).1.code = 0 ↔
      ∃ preds, ((runFiles t s input none : StateM Disk _).run d).1.2 = .ok preds := by
  obtain ⟨records, result, d', hrun, -⟩ := exists_runEnds t s d input none
  rw [hrun, predictOn, run_predict t hs hrun]
  cases result with
  | error e => simp [predictOutcome, runFailure, Outcome.failure]
  | ok preds => simp [predictOutcome, Outcome.success]

theorem predictOn_of_lacksBatch (hs : Settings.ofEnvironment env = .ok s) (output : Option String)
    {e : RunError} (h : d.LacksBatch input s.samples e) :
    predictOn t env command d input output = (runFailure e, d) :=
  run_predict t hs (run_runFiles_of_error t (run_readBatch_of_lacksBatch s h))

/-- An output that cannot be written makes the command fail, and it is the reason where the input is
not one. -/
theorem predictOn_unwritable (hs : Settings.ofEnvironment env = .ok s) {path : String}
    {cause : FileError} (htarget : d.target path.toList = .error cause) :
    ∃ e, predictOn t env command d input (some path) = (runFailure e, d) ∧
      ∀ bytes, d.read input = .ok bytes → bytes.length = 8 * s.samples → e = .file path cause := by
  rcases d.lacksBatch_or_exists_read input s.samples with ⟨e, hinput⟩ | ⟨bytes, hread, hlength⟩
  · exact ⟨e, predictOn_of_lacksBatch t hs _ hinput,
      fun _ hread hlength => absurd hlength (hinput.length_ne hread)⟩
  · obtain ⟨_, -, -, -, herror, -⟩ := exists_run_runFiles t hread hlength
    obtain ⟨records, hrun⟩ := herror path cause htarget
    exact ⟨_, run_predict t hs hrun, fun _ _ _ => rfl⟩

end

/-- How the command ends.  Without an output it succeeds exactly where the settings are read and the
run succeeds, and it prints what shows the predictions; an output that can be written holds the same
numbers in the same order then, and nothing is printed.  An input that is refused and an output that
cannot be written are reported, and settings that cannot be read are before any file is touched. -/
theorem predict_ends (t : Trig) (env : Environment) (command : String) (d : Disk)
    (input : String) :
    ((predictOn t env command d input none).1.code = 0 ↔
      ∃ s preds, Settings.ofEnvironment env = .ok s ∧
        ((runFiles t s input none : StateM Disk _).run d).1.2 = .ok preds) ∧
    (∀ s preds, Settings.ofEnvironment env = .ok s →
      ((runFiles t s input none : StateM Disk _).run d).1.2 = .ok preds →
      preds.samples = s.samples ∧
      (∃ stdout, predictOn t env command d input none = (.success stdout, d) ∧
        preds.ShownBy stdout) ∧
      ∀ path l, d.target path.toList = .ok l →
        ∃ d', predictOn t env command d input (some path) = (.success "", d') ∧
          d'.read path = .ok (Single.encode (ProgramId.all.flatMap preds.row))) ∧
    (∀ s, Settings.ofEnvironment env = .ok s →
      (∀ output e, d.LacksBatch input s.samples e →
        predictOn t env command d input output = (runFailure e, d)) ∧
      ∀ path cause, d.target path.toList = .error cause →
        ∃ e, predictOn t env command d input (some path) = (runFailure e, d) ∧
          ∀ bytes, d.read input = .ok bytes → bytes.length = 8 * s.samples →
            e = .file path cause) ∧
    ∀ e, Settings.ofEnvironment env = .error e →
      ∀ (output : Option String) {m : Type → Type} [Monad m] [LawfulMonad m] [Files m],
        (predict t env command (input :: output.toList) : m Outcome) =
          pure (runFailure (.invalidSettings e.message)) := by
  cases hs : Settings.ofEnvironment env with
  | error e =>
    have hend : ∀ {m : Type → Type} [Monad m] [LawfulMonad m] [Files m] (output : Option String),
        (predict t env command (input :: output.toList) : m Outcome) =
          pure (runFailure (.invalidSettings e.message)) := predict_of_invalid t hs
    refine ⟨⟨fun h => ?_, fun h => ?_⟩, fun s preds h => ?_, fun s h => ?_, ?_⟩
    · rw [predictOn, hend] at h
      exact nomatch h
    · obtain ⟨s, preds, h, -⟩ := h
      exact nomatch h
    · exact nomatch h
    · exact nomatch h
    · intro e' he output m _ _ _
      obtain rfl := Except.error.inj he
      exact hend output
  | ok s =>
    refine ⟨?_, ?_, ?_, fun e h => ?_⟩
    · rw [code_predictOn_none t hs]
      constructor
      · rintro ⟨preds, h⟩
        exact ⟨s, preds, rfl, h⟩
      · rintro ⟨s', preds, h, h'⟩
        obtain rfl := Except.ok.inj h
        exact ⟨preds, h'⟩
    · intro s' preds h hrun
      obtain rfl := Except.ok.inj h
      have hsamples := samples_eq_of_run t hrun
      obtain ⟨hprint, hwrite⟩ := predictOn_of_ok t hs hrun
      exact ⟨hsamples, ⟨_, hprint, preds.shownBy_text (hsamples ▸ s.samples_pos)⟩, hwrite⟩
    · intro s' h
      obtain rfl := Except.ok.inj h
      exact ⟨fun output _ => predictOn_of_lacksBatch t hs output,
        fun _ _ => predictOn_unwritable t hs⟩
    · exact nomatch h

/-- Numbers that are not real ones are printed and written like others.  Words that are no settings
are reported. -/
theorem predict_ends_not_real :
    let env : Environment := { samples := some " 2 ", parallel := some "No" }
    let d : Disk :=
      { nodes := [(["xs".toList], .file (Single.encode [0.5, 2, Single.infinity, Single.nan]))] }
    ∃ preds stdout d',
      Settings.ofEnvironment env = .ok { samples := 2, parallel := false } ∧
      ((runFiles Trig.platform { samples := 2, parallel := false } "xs" none :
        StateM Disk _).run d).1.2 = .ok preds ∧
      predictOn Trig.platform env "driver" d "xs" none = (.success stdout, d) ∧
      preds.ShownBy stdout ∧
      d.target "ys".toList = .ok ["ys".toList] ∧
      predictOn Trig.platform env "driver" d "xs" (some "ys") = (.success "", d') ∧
      d'.read "ys" = .ok (Single.encode (ProgramId.all.flatMap preds.row)) ∧
      Settings.ofEnvironment { samples := some "zero" } = .error (.samples "zero" .invalidDigit) ∧
      predictOn Trig.platform { samples := some "zero" } "driver" d "xs" none =
        (.failure 1 ("Error running batch: " ++
          "invalid config: SAMPLES=zero: invalid digit found in string"), d) := by
  intro env d
  have hs : Settings.ofEnvironment env = .ok { samples := 2, parallel := false } := by
    decide +kernel
  have hbad : Settings.ofEnvironment { samples := some "zero" } =
      .error (.samples "zero" .invalidDigit) := by decide +kernel
  have hread : d.read "xs" = .ok (Single.encode [0.5, 2, Single.infinity, Single.nan]) := by
    decide +kernel
  have htarget : d.target "ys".toList = .ok ["ys".toList] := by decide +kernel
  obtain ⟨preds, -, -, ⟨records, hrun⟩, -⟩ :=
    exists_run_runFiles Trig.platform (s := { samples := 2, parallel := false }) hread rfl
  have hok := congrArg (fun r => r.1.2) hrun
  obtain ⟨-, hsuccess, -, -⟩ := predict_ends Trig.platform env "driver" d "xs"
  obtain ⟨-, ⟨stdout, hprint, hshown⟩, hwrite⟩ := hsuccess _ preds hs hok
  obtain ⟨d', hwritten, hback⟩ := hwrite "ys" _ htarget
  obtain ⟨-, -, -, hinvalid⟩ :=
    predict_ends Trig.platform { samples := some "zero" } "driver" d "xs"
  have hreport := hinvalid _ hbad none (m := StateM Disk)
  have hline : runFailure (.invalidSettings (Settings.Error.samples "zero" .invalidDigit).message) =
      .failure 1 ("Error running batch: " ++
        "invalid config: SAMPLES=zero: invalid digit found in string") := by decide +kernel
  refine ⟨preds, stdout, d', hs, hok, hprint, hshown, htarget, hwritten, hback, hbad, ?_⟩
  rw [predictOn, hreport, hline]
  rfl

end Command

end TwoSpirals
