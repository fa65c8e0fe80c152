import TwoSpirals.Program

/-!
# Batches

A `Batch` is a buffer of input pairs, one pair after the other.  `Batch.evaluate` runs the five
programs on all of them, which makes one cell of `Predictions` for each program and each sample,
the cells of a program in one row.  The cells do not depend on each other: `Batch.evaluateIn` fills
them in any order it is given, and running in parallel is only another order.
-/

namespace TwoSpirals

/-- A buffer of input pairs. -/
structure Batch where
  samples : Nat
  data : Vector Float32 (2 * samples)
deriving DecidableEq

/-- There are `got` of something of which its shape asks for `expected`. -/
structure ShapeMismatch where
  what : String
  got : Nat
  expected : Nat
deriving DecidableEq

namespace Batch

/-- The batch of a buffer, which holds two numbers to a sample. -/
def ofFlat (data : List Float32) (samples : Nat) : Except ShapeMismatch Batch :=
  if h : data.length = 2 * samples then .ok ⟨samples, ⟨data.toArray, h⟩⟩
  else .error ⟨"input floats", data.length, samples * 2⟩

/-- The input pair of a sample. -/
def sample (b : Batch) (i : Fin b.samples) : Float32 × Float32 :=
  (b.data[2 * i.val], b.data[2 * i.val + 1])

/-- The input pair of a sample, if the batch has it. -/
def sample? (b : Batch) (i : Nat) : Option (Float32 × Float32) :=
  if h : i < b.samples then some (b.sample ⟨i, h⟩) else none

end Batch

/-! ## Predictions -/

/-- A program and a sample. -/
abbrev Cell (samples : Nat) := ProgramId × Fin samples

/-- The results of all programs on all samples of a batch, one program after the other. -/
structure Predictions where
  samples : Nat
  cells : Vector Float32 (5 * samples)
deriving DecidableEq

/-- The place of a cell among all cells. -/
def Cell.index {n : Nat} (c : Cell n) : Fin (5 * n) :=
  ⟨c.1.val * n + c.2.val, by
    have h₁ : c.1.val * n ≤ 4 * n := Nat.mul_le_mul_right n (by omega)
    have h₂ := c.2.isLt
    omega⟩

namespace Predictions

/-- The result of a program on a sample, if there is such a sample. -/
def get? (p : Predictions) (program : ProgramId) (i : Nat) : Option Float32 :=
  if h : i < p.samples then some p.cells[Cell.index (program, (⟨i, h⟩ : Fin p.samples))] else none

/-- The results of a program on all samples. -/
def row (p : Predictions) (program : ProgramId) : List Float32 :=
  (List.finRange p.samples).map fun i => p.cells[Cell.index (program, i)]

/-- All results. -/
def toFlat (p : Predictions) : List Float32 := p.cells.toList

end Predictions

/-! ## Evaluation -/

namespace Batch

/-- The result of a program on a sample. -/
def result (t : Trig) (b : Batch) (c : Cell b.samples) : Float32 :=
  c.1.evaluate t (b.sample c.2).1 (b.sample c.2).2

/-- The predictions with the given cells evaluated one after the other and zeros elsewhere. -/
def evaluateIn (t : Trig) (b : Batch) (order : List (Cell b.samples)) : Predictions :=
  ⟨b.samples, order.foldl (fun cells c => cells.set c.index (b.result t c)) (.replicate _ 0)⟩

/-- All cells, one program after the other. -/
def byProgram (samples : Nat) : List (Cell samples) :=
  ProgramId.all.flatMap fun p => (List.finRange samples).map fun i => (p, i)

/-- All cells, one sample after the other. -/
def bySample (samples : Nat) : List (Cell samples) :=
  (List.finRange samples).flatMap fun i => ProgramId.all.map fun p => (p, i)

/-- The predictions of all programs on all samples.  In parallel a sample is the unit of work. -/
def evaluate (t : Trig) (parallel : Bool) (b : Batch) : Predictions :=
  b.evaluateIn t (if parallel then bySample b.samples else byProgram b.samples)

end Batch

end TwoSpirals
