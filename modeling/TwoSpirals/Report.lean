import TwoSpirals.Batch
import TwoSpirals.Json
import TwoSpirals.Score

/-!
# Reports

A `Report` scores the predictions of the five programs against one row of labels, and
`Report.text` writes it down.
-/

namespace TwoSpirals

/-- The score of a program. -/
structure Report.Entry where
  program : ProgramId
  accuracy : Float32
  confusion : Confusion
deriving DecidableEq

/-- The scores of the programs on some samples. -/
structure Report where
  samples : Nat
  entries : List Report.Entry
deriving DecidableEq

namespace Report

/-- The score of a program by its predictions. -/
def entry (p : Predictions) (labels : List Float32) (program : ProgramId) :
    Except SizeMismatch Entry :=
  (score (p.row program) labels).map fun c => ⟨program, c.accuracy, c⟩

/-- The scores of all programs in order. -/
def ofPredictions (p : Predictions) (labels : List Float32) : Except SizeMismatch Report := do
  return ⟨p.samples, ← ProgramId.all.mapM (entry p labels)⟩

/-- The entry as JSON. -/
def Entry.toJson (e : Entry) : Json := .object [
  ("id", .natural e.program.val),
  ("accuracy", .single e.accuracy),
  ("tp", .natural e.confusion.tp),
  ("tn", .natural e.confusion.tn),
  ("fp", .natural e.confusion.fp),
  ("fn", .natural e.confusion.fn),
  ("nan", .natural e.confusion.nan)]

/-- The report as JSON. -/
def toJson (r : Report) : Json := .object [
  ("samples", .natural r.samples),
  ("programs", .array (r.entries.map Entry.toJson))]

/-- The report as text. -/
def text (r : Report) : String := r.toJson.pretty

end Report

end TwoSpirals
