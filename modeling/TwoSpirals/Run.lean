import TwoSpirals.Files
import TwoSpirals.Record
import TwoSpirals.Settings

/-!
# Runs over files

`runFiles` evaluates the programs on a file of input pairs and can write the predictions to another
file.  It reads everything before it writes anything, and it returns what it noted on its way also
where it fails.
-/

namespace TwoSpirals

variable {m : Type → Type} [Monad m] [Files m]

/-- The batch in a file, and the note that it was read. -/
def readBatch (s : Settings) (input : String) : m (Except RunError Batch) := do
  match ← readSingles input s.inputLength with
  | .error e => return .error e
  | .ok data => return (Batch.ofFlat data s.samples).mapError .shape

/-- The predictions for the batch in `input`, which `output` holds afterwards where it is given. -/
def runFiles (t : Trig) (s : Settings) (input : String) (output : Option String) :
    m (List Record × Except RunError Predictions) := do
  match ← readBatch s input with
  | .error e => return ([], .error e)
  | .ok batch =>
    let predictions := batch.evaluate t s.parallel
    let records := .read batch.samples input :: predictions.records
    match output with
    | none => return (records, .ok predictions)
    | some path =>
      match ← writeSingles path predictions.toFlat with
      | .error e => return (records, .error e)
      | .ok () => return (records ++ [.wrote (predictions.samples * 5) path], .ok predictions)

end TwoSpirals
