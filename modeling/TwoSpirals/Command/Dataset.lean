import TwoSpirals.Command.Outcome
import TwoSpirals.PointFiles
import TwoSpirals.Spiral

/-!
# Making the data set

`dataset` prints the samples of the two spirals and can write their inputs and labels to files.
-/

namespace TwoSpirals.Command

variable {m : Type → Type} [Monad m] [Files m]

/-- Writes the inputs and then the labels, each where a path is given.  The first failure ends it,
and says what could not be written where. -/
def writeDataset (points : List LabeledPoint) : List String → m (Except String Unit)
  | [] => return .ok ()
  | featuresPath :: rest => do
    match ← writeFeatures featuresPath points with
    | .error e =>
      return .error ("Error writing features to " ++ featuresPath ++ ": " ++ e.message)
    | .ok () =>
      match rest with
      | [] => return .ok ()
      | labelsPath :: _ =>
        match ← writeLabels labelsPath points with
        | .error e =>
          return .error ("Error writing labels to " ++ labelsPath ++ ": " ++ e.message)
        | .ok () => return .ok ()

/-- `mkspiral [features_path] [labels_path]`, called by the name `command`. -/
def dataset (command : String) (args : List String) : m Outcome := do
  if 2 < args.length then
    return .failure 2 ("Usage: " ++ command ++ " [features_path] [labels_path]")
  let points := Spiral.samples {}
  let stdout := pointsText points
  match ← writeDataset points args with
  | .ok () => return .success stdout
  | .error line => return { Outcome.failure 1 line with stdout }

end TwoSpirals.Command
