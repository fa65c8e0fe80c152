import TwoSpirals.Command.Tool
import TwoSpirals.Proofs.Command.Dataset
import TwoSpirals.Proofs.Command.Evaluate
import TwoSpirals.Proofs.Command.Predict

/-!
# Exit codes of the tools

A tool that is called with a number of arguments it does not take says how it is called, by the name
it was called by, and asks for no file (`Tool.runAs_of_not_accepts`).  Three of the tools end with
the code `2` then; `evaluate` ends with `1`, as it does whenever it fails.  Called as they should be,
`predict`, `dataset` and `evaluate` never end with `2`, whatever the environment and the files are.
-/

namespace TwoSpirals

/-! ## Codes of the commands -/

namespace Command

variable (t : Trig) (env : Environment) (command : String) (d : Disk)

theorem code_predictOn_le (input : String) (output : Option String) :
    (predictOn t env command d input output).1.code ≤ 1 := by
  cases hs : Settings.ofEnvironment env with
  | error e =>
    rw [predictOn, predict_of_invalid t hs]
    exact Nat.le_refl 1
  | ok s =>
    obtain ⟨records, result, d', hrun, -⟩ := exists_runEnds t s d input output
    rw [predictOn, run_predict t hs hrun]
    exact code_predictOutcome_le output result

variable {args : List String}

theorem code_datasetOn_le (h : args.length ≤ 2) : (datasetOn command d args).1.code ≤ 1 := by
  rw [datasetOn_eq h]
  exact code_datasetOutcome_le _ _

theorem code_evaluateOn_le (h : args.length ≤ 1) :
    (evaluateOn t env command d args).1.code ≤ 1 := by
  cases htext : reportText t env with
  | error line =>
    rw [evaluateOn_of_error t h htext]
    exact Nat.le_refl 1
  | ok text =>
    match args with
    | [] =>
      rw [evaluateOn_nil t htext]
      exact Nat.zero_le 1
    | [path] =>
      rw [evaluateOn_path t htext]
      exact code_writeOutcome_le path _

end Command

/-! ## Calls of the tools -/

namespace Tool

/-- The tool can be called with this many arguments. -/
def Accepts : Tool → Nat → Prop
  | inspect, n => n = 1 ∨ n = 3
  | predict, n => n = 1 ∨ n = 2
  | dataset, n => n ≤ 2
  | evaluate, n => n ≤ 1

instance : ∀ (tool : Tool) (n : Nat), Decidable (tool.Accepts n)
  | inspect, n => inferInstanceAs (Decidable (n = 1 ∨ n = 3))
  | predict, n => inferInstanceAs (Decidable (n = 1 ∨ n = 2))
  | dataset, n => inferInstanceAs (Decidable (n ≤ 2))
  | evaluate, n => inferInstanceAs (Decidable (n ≤ 1))

/-- What the tool prints where it is called by the name `command` and cannot be called so. -/
def usage (tool : Tool) (command : String) : String :=
  match tool with
  | inspect => "Usage: " ++ command ++ " <program> [x0 x1]"
  | predict => "usage: " ++ (command ++ " <input_path> [output_path]")
  | dataset => "Usage: " ++ command ++ " [features_path] [labels_path]"
  | evaluate => "Error: Usage: " ++ command ++ " [report_path]"

variable (t : Trig) (env : Environment) {tool : Tool} (command : String) {args : List String}

/-- The tool called by a name and with arguments: its end and the disk it leaves. -/
def runOn (tool : Tool) (command : String) (d : Disk) (args : List String) : Outcome × Disk :=
  (tool.runAs t env command args : StateM Disk Outcome).run d

/-- Wrong calls are answered before anything else is done, whatever holds the files. -/
theorem runAs_of_not_accepts {m : Type → Type} [Monad m] [Files m]
    (h : ¬ tool.Accepts args.length) :
    (tool.runAs t env command args : m Outcome) =
      pure (.failure (if tool = evaluate then 1 else 2) (tool.usage command)) := by
  cases tool with
  | inspect =>
    match args with
    | [] | [_, _] | _ :: _ :: _ :: _ :: _ => rfl
    | [_] => exact absurd (.inl rfl) h
    | [_, _, _] => exact absurd (.inr rfl) h
  | predict =>
    match args with
    | [] | _ :: _ :: _ :: _ => rfl
    | [_] => exact absurd (.inl rfl) h
    | [_, _] => exact absurd (.inr rfl) h
  | dataset => exact if_pos (Nat.not_le.1 h)
  | evaluate => exact if_pos (Nat.not_le.1 h)

theorem code_runOn_le (d : Disk) (htool : tool ≠ inspect) (h : tool.Accepts args.length) :
    (runOn t env tool command d args).1.code ≤ 1 := by
  cases tool with
  | inspect => exact absurd rfl htool
  | predict =>
    match args with
    | [input] => exact Command.code_predictOn_le t env command d input none
    | [input, path] => exact Command.code_predictOn_le t env command d input (some path)
    | [] | _ :: _ :: _ :: _ => exact absurd h (by simp [Accepts])
  | dataset => exact Command.code_datasetOn_le command d h
  | evaluate => exact Command.code_evaluateOn_le t env command d h

/-- A tool that is called with a number of arguments it does not take prints how it is called on the
error stream alone, changes no file and ends with `2`, except that `evaluate` ends with `1`.  Called
with a number it takes, a tool other than `inspect` never ends with `2`. -/
theorem runOn_ends (tool : Tool) (command : String) (d : Disk) (args : List String) :
    (¬ tool.Accepts args.length →
      runOn t env tool command d args =
        (⟨if tool = evaluate then 1 else 2, "", tool.usage command ++ "\n"⟩, d)) ∧
    (tool ≠ inspect → tool.Accepts args.length → (runOn t env tool command d args).1.code ≠ 2) := by
  refine ⟨fun h => ?_, fun htool h => ?_⟩
  · rw [runOn, runAs_of_not_accepts t env command h]
    rfl
  · have := code_runOn_le t env command d htool h
    omega

/-- The report's tool called with two paths, and other calls with and without the right number. -/
theorem runOn_ends_two_paths :
    runOn Trig.platform {} evaluate "spiral-gp" {} ["a", "b"] =
        (⟨1, "", "Error: Usage: spiral-gp [report_path]\n"⟩, {}) ∧
      runOn Trig.platform { samples := some "x" } predict "driver" {} [] =
        (⟨2, "", "usage: driver <input_path> [output_path]\n"⟩, {}) ∧
      (runOn Trig.platform { samples := some "x" } predict "driver" {} ["a", "b"]).1.code ≠ 2 :=
  ⟨(runOn_ends Trig.platform {} evaluate "spiral-gp" {} ["a", "b"]).1 (by decide),
    (runOn_ends Trig.platform _ predict "driver" {} []).1 (by decide),
    (runOn_ends Trig.platform _ predict "driver" {} ["a", "b"]).2 (by decide) (by decide)⟩

/-- Not every wrong call ends with `2`. -/
theorem not_forall_usage_code_two :
    ¬ ∀ (t : Trig) (env : Environment) (tool : Tool) (command : String) (d : Disk)
      (args : List String),
      ¬ tool.Accepts args.length → (runOn t env tool command d args).1.code = 2 := by
  intro h
  exact absurd (h Trig.platform {} evaluate "spiral-gp" {} ["a", "b"] (by decide)) (by decide)

end Tool

end TwoSpirals
