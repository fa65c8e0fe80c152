import TwoSpirals.Json.Reader
import TwoSpirals.Report

/-!
# Reading reports

`Report.ofText?` reads a report from its JSON text.  Every field is there, in the order in which
they are written.
-/

namespace TwoSpirals

/-- The values of an object whose fields have the given names in order. -/
def Json.values? (names : List String) : Json → Option (List Json)
  | object fields => if fields.map Prod.fst = names then some (fields.map Prod.snd) else none
  | _ => none

namespace Report

/-- The entry that a JSON value stands for. -/
def Entry.ofJson? (j : Json) : Option Entry :=
  match j.values? ["id", "accuracy", "tp", "tn", "fp", "fn", "nan"] with
  | some [.natural id, .single accuracy, .natural tp, .natural tn, .natural fp, .natural fn,
      .natural nan] =>
    (ProgramId.ofNat id).toOption.map fun p => ⟨p, accuracy, { tp, tn, fp, fn, nan }⟩
  | _ => none

/-- The report that a JSON value stands for. -/
def ofJson? (j : Json) : Option Report :=
  match j.values? ["samples", "programs"] with
  | some [.natural samples, .array items] => (items.mapM Entry.ofJson?).map (⟨samples, ·⟩)
  | _ => none

/-- The report that a text writes. -/
def ofText? (s : String) : Option Report := (Json.ofText? s).bind ofJson?

end Report

end TwoSpirals
