import TwoSpirals.Command.Outcome
import TwoSpirals.Files
import TwoSpirals.Report
import TwoSpirals.Settings
import TwoSpirals.Spiral

/-!
# Scoring the programs

`evaluate` runs the programs on the samples of the two spirals and reports how well they classify
them.
-/

namespace TwoSpirals

/-- The report of the programs on labelled points. -/
def Report.ofPoints (t : Trig) (parallel : Bool) (points : List LabeledPoint) :
    Except String Report := do
  let batch ← (Batch.ofFlat (features points) points.length).mapError ShapeMismatch.message
  (Report.ofPredictions (batch.evaluate t parallel) (labels points)).mapError
    SizeMismatch.message

namespace Command

variable {m : Type → Type} [Monad m] [Files m]

/-- The text of the report on the two spirals, with the settings of an environment. -/
def reportText (t : Trig) (env : Environment) : Except String String := do
  let s ← (Settings.ofEnvironment env).mapError fun e => (RunError.invalidSettings e.message).message
  let report ← Report.ofPoints t s.parallel (Spiral.samples {})
  return report.text

/-- `spiral-gp [report_path]`, called by the name `command`. -/
def evaluate (t : Trig) (env : Environment) (command : String) (args : List String) :
    m Outcome := do
  if 1 < args.length then
    return .failure 1 ("Error: Usage: " ++ command ++ " [report_path]")
  match reportText t env with
  | .error line => return .failure 1 ("Error: " ++ line)
  | .ok text =>
    match args with
    | [] => return .success (text ++ "\n")
    | path :: _ =>
      match ← Files.write path text.toUTF8.toList with
      | .ok () => return .success ""
      | .error e =>
        return .failure 1 ("Error: writing report to " ++ path ++ "\n\nCaused by:\n    " ++ e.message)

end Command

end TwoSpirals
