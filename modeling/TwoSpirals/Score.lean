import TwoSpirals.Single.Basic

/-!
# Scores

A prediction stands for the class `1` where it is positive and for `0` otherwise, by `classify`.
`score` holds predictions against labels and counts how often they agree, and `Confusion.accuracy`
is the part of the samples on which they do.
-/

namespace TwoSpirals

/-- The class of a prediction.  `NaN` and the two zeros are not positive. -/
def classify (prediction : Float32) : Float32 := if 0 < prediction then 1 else 0

/-- Counts of predictions by their class and by their label. -/
structure Confusion where
  /-- Positive, and labelled `1`. -/
  tp : Nat := 0
  /-- Not positive, and not labelled `1`. -/
  tn : Nat := 0
  /-- Positive, and not labelled `1`. -/
  fp : Nat := 0
  /-- Not positive, and labelled `1`. -/
  fn : Nat := 0
  /-- `NaN`, whatever the label. -/
  nan : Nat := 0
deriving DecidableEq

namespace Confusion

/-- The number of samples. -/
def total (c : Confusion) : Nat := c.tp + c.tn + c.fp + c.fn

/-- The part of the samples whose class is the label, and `0` where there are none. -/
def accuracy (c : Confusion) : Float32 :=
  if c.total = 0 then 0
  else Single.ofNat (c.tp + c.tn) / Single.ofNat c.total

/-- Counts one more sample. -/
def count (c : Confusion) (prediction label : Float32) : Confusion :=
  let c := if prediction.isNaN then { c with nan := c.nan + 1 } else c
  match classify prediction == 1, label == 1 with
  | true, true => { c with tp := c.tp + 1 }
  | false, false => { c with tn := c.tn + 1 }
  | true, false => { c with fp := c.fp + 1 }
  | false, true => { c with fn := c.fn + 1 }

end Confusion

/-- There are `got` of something of which `expected` were wanted. -/
structure SizeMismatch where
  what : String
  got : Nat
  expected : Nat
deriving DecidableEq

/-- The wording of the error. -/
def SizeMismatch.message (e : SizeMismatch) : String :=
  s!"size mismatch for {e.what}: got {e.got}, expected {e.expected}"

/-- Counts the samples of predictions and their labels. -/
def score (predictions labels : List Float32) : Except SizeMismatch Confusion :=
  if predictions.length = labels.length then
    .ok ((predictions.zip labels).foldl (fun c (p, l) => c.count p l) {})
  else .error ⟨"labels", labels.length, predictions.length⟩

end TwoSpirals
