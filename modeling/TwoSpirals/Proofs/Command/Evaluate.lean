import TwoSpirals.Proofs.PointFiles
import TwoSpirals.Proofs.Settings

/-!
# One report for all environments

The report on the two spirals exists, and it is the same whether it is made in parallel or not.  So
`evaluate` has one text to print or to write in every environment that can be read, and
`evaluate_ends` says how it ends in the others and where the text cannot be written.
-/

namespace TwoSpirals

theorem Report.exists_ofPoints (t : Trig) (points : List LabeledPoint) :
    ∃ report, ∀ parallel, Report.ofPoints t parallel points = .ok report := by
  have hbatch := Batch.ofFlat_of_length (length_features points)
  obtain ⟨hsamples, hpreds⟩ := Batch.evaluates_of_ofFlat t hbatch true
  obtain ⟨report, hreport⟩ : ∃ report, Report.ofPredictions _ (labels points) = .ok report :=
    ⟨_, Report.ofPredictions_of_length ((length_labels points).trans hsamples.symm)⟩
  refine ⟨report, fun parallel => ?_⟩
  rw [Report.ofPoints_eq hpreds parallel, hreport]
  rfl

namespace Command

/-! ## Texts -/

section

variable {t : Trig} {env : Environment} {report : Report}
  (hreport : ∀ parallel, Report.ofPoints t parallel (Spiral.samples {}) = .ok report)

include hreport in
theorem reportText_of_readable (h : env.Readable) : reportText t env = .ok report.text := by
  obtain ⟨s, hs⟩ := Settings.exists_ofEnvironment_iff.2 h
  refine bind_eq_ok_iff.2 ⟨s, ?_, bind_eq_ok_iff.2 ⟨report, hreport s.parallel, rfl⟩⟩
  rw [hs]
  rfl

theorem reportText_of_not_readable (t : Trig) (h : ¬ env.Readable) :
    ∃ line, reportText t env = .error line := by
  obtain ⟨e, he⟩ := Settings.exists_error_of_not_readable h
  rw [reportText, he]
  exact ⟨_, rfl⟩

end

/-! ## The command on a disk -/

/-- The command with its arguments: its end and the disk it leaves. -/
def evaluateOn (t : Trig) (env : Environment) (command : String) (d : Disk) (args : List String) :
    Outcome × Disk :=
  (evaluate t env command args : StateM Disk Outcome).run d

/-- The end of the command where the report cannot be written. -/
def reportFailure (path : String) (e : FileError) : Outcome :=
  .failure 1 ("Error: writing report to " ++ path ++ "\n\nCaused by:\n    " ++ e.message)

/-- The end of the command by how writing the report ended. -/
def writeOutcome (path : String) : Except FileError Unit → Outcome
  | .ok () => .success ""
  | .error e => reportFailure path e

theorem code_writeOutcome_le (path : String) (result : Except FileError Unit) :
    (writeOutcome path result).code ≤ 1 := by
  cases result with
  | ok => exact Nat.zero_le 1
  | error e => exact Nat.le_refl 1

section

variable (t : Trig) {env : Environment} {d : Disk} {command text line path : String}

theorem evaluateOn_of_usage {args : List String} (h : 1 < args.length) :
    evaluateOn t env command d args =
      (.failure 1 ("Error: Usage: " ++ command ++ " [report_path]"), d) := by
  rw [evaluateOn, evaluate, if_pos h]
  rfl

theorem evaluateOn_of_error {args : List String} (h : args.length ≤ 1)
    (htext : reportText t env = .error line) :
    evaluateOn t env command d args = (.failure 1 ("Error: " ++ line), d) := by
  rw [evaluateOn, evaluate, if_neg (Nat.not_lt.2 h), htext]
  rfl

theorem evaluateOn_nil (htext : reportText t env = .ok text) :
    evaluateOn t env command d [] = (.success (text ++ "\n"), d) := by
  rw [evaluateOn, evaluate, htext]
  rfl

theorem evaluateOn_path (htext : reportText t env = .ok text) :
    evaluateOn t env command d [path] =
      let (result, d') := (Files.write path text.toUTF8.toList : StateM Disk _).run d
      (writeOutcome path result, d') := by
  rw [evaluateOn, evaluate, htext]
  show (Files.write path text.toUTF8.toList >>= _ : StateM Disk Outcome).run d = _
  rw [run_bind]
  rcases (Files.write path text.toUTF8.toList : StateM Disk _).run d with ⟨_ | _, d'⟩ <;> rfl

theorem evaluateOn_of_target {l : Location} (htext : reportText t env = .ok text)
    (htarget : d.target path.toList = .ok l) :
    evaluateOn t env command d [path] = (.success "", d.put l (.file text.toUTF8.toList)) := by
  rw [evaluateOn_path t htext, run_write_of_target htarget]
  rfl

theorem evaluateOn_of_target_error {cause : FileError} (htext : reportText t env = .ok text)
    (htarget : d.target path.toList = .error cause) :
    evaluateOn t env command d [path] = (reportFailure path cause, d) := by
  rw [evaluateOn_path t htext, run_write_of_target_error htarget]
  rfl

/-- An environment that cannot be read makes the command fail, whatever its arguments are. -/
theorem evaluateOn_of_not_readable (h : ¬ env.Readable) (args : List String) :
    ∃ line, evaluateOn t env command d args = (.failure 1 line, d) := by
  by_cases hargs : 1 < args.length
  · exact ⟨_, evaluateOn_of_usage t hargs⟩
  · obtain ⟨line, hline⟩ := reportText_of_not_readable t h
    exact ⟨_, evaluateOn_of_error t (Nat.not_lt.1 hargs) hline⟩

end

/-- There is one report, and every environment that can be read makes the command print it or, with
a path, write it without the end of the line and print nothing.  In the other environments, and
where the path cannot be written, the command fails with nothing printed and nothing changed. -/
theorem evaluate_ends (t : Trig) :
    ∃ report, (∀ parallel, Report.ofPoints t parallel (Spiral.samples {}) = .ok report) ∧
      (∀ env : Environment, env.Readable → ∀ command d,
        evaluateOn t env command d [] = (.success (report.text ++ "\n"), d) ∧
        (∀ path l, d.target path.toList = .ok l →
          ∃ d', evaluateOn t env command d [path] = (.success "", d') ∧
            d.Stores path report.text.toUTF8.toList d') ∧
        ∀ path cause, d.target path.toList = .error cause →
          evaluateOn t env command d [path] = (reportFailure path cause, d)) ∧
      ∀ env : Environment, ¬ env.Readable → ∀ command d args,
        ∃ line, evaluateOn t env command d args = (.failure 1 line, d) := by
  obtain ⟨report, hreport⟩ := Report.exists_ofPoints t (Spiral.samples {})
  refine ⟨report, hreport, fun env henv command d => ?_, fun env henv command d => ?_⟩
  · have htext := reportText_of_readable hreport henv
    refine ⟨evaluateOn_nil t htext, fun path l htarget => ?_, fun path cause htarget => ?_⟩
    · exact ⟨_, evaluateOn_of_target t htext htarget, Disk.stores_put _ htarget⟩
    · exact evaluateOn_of_target_error t htext htarget
  · exact evaluateOn_of_not_readable t henv

theorem evaluate_ends_over_old_report :
    let env : Environment := { samples := some " +7", parallel := some "nO" }
    let d : Disk :=
      { nodes := [(["out".toList], .directory), (["out".toList, "r".toList], .file [1, 2, 3])] }
    ∃ text d', evaluateOn Trig.platform {} "spiral-gp" {} [] = (.success (text ++ "\n"), {}) ∧
      evaluateOn Trig.platform env "spiral-gp" d [] = (.success (text ++ "\n"), d) ∧
      evaluateOn Trig.platform env "spiral-gp" d ["out/./r"] = (.success "", d') ∧
      d'.read "out/./r" = .ok text.toUTF8.toList ∧
      evaluateOn Trig.platform env "spiral-gp" d ["out"] = (reportFailure "out" .isDirectory, d) ∧
      ∃ line, evaluateOn Trig.platform { samples := some "0" } "spiral-gp" d ["out/r"] =
        (.failure 1 line, d) := by
  intro env d
  have henv : env.Readable := Settings.exists_ofEnvironment_iff.1
    ⟨{ samples := 7, parallel := false }, by decide +kernel⟩
  have hunset : Environment.Readable {} := ⟨nofun, nofun⟩
  have hzero : ¬ Environment.Readable { samples := some "0" } := by
    rw [← Settings.exists_ofEnvironment_iff]
    rintro ⟨s, hs⟩
    have herror : Settings.ofEnvironment { samples := some "0" } = .error (.samples "0" .zero) := by
      decide +kernel
    exact nomatch hs.symm.trans herror
  have htarget : d.target "out/./r".toList = .ok ["out".toList, "r".toList] := by decide +kernel
  have hdirectory : d.target "out".toList = .error .isDirectory := by decide +kernel
  obtain ⟨report, -, hread, hunread⟩ := evaluate_ends Trig.platform
  obtain ⟨hprint, hwrite, hfail⟩ := hread env henv "spiral-gp" d
  obtain ⟨d', hwritten, hstores⟩ := hwrite "out/./r" _ htarget
  exact ⟨report.text, d', (hread {} hunset "spiral-gp" {}).1, hprint, hwritten, hstores.read,
    hfail "out" _ hdirectory, hunread _ hzero "spiral-gp" d ["out/r"]⟩

end Command

end TwoSpirals
