import TwoSpirals.Batch

/-!
# Log records

What a run notes on its way: the files it read and wrote, and for each program how many predictions
are `NaN` and what their mean is.
-/

namespace TwoSpirals

/-! ## The mean -/

/-- Adds whole groups of eight numbers to eight sums.  What is left over is returned with them. -/
def addEights : Vector Float32 8 → List Float32 → Vector Float32 8 × List Float32
  | s, a :: b :: c :: d :: e :: f :: g :: h :: rest =>
    addEights (s.zipWith (· + ·) #v[a, b, c, d, e, f, g, h]) rest
  | s, rest => (s, rest)

/-- The sum of a row, by eight sums of every eighth number, which are paired off at the end, and
then the numbers left over. -/
def rowSum (xs : List Float32) : Float32 :=
  let (s, rest) := addEights (.replicate 8 0) xs
  rest.foldl (· + ·) ((0 : Float32) + (s[0] + s[4]) + (s[1] + s[5]) + (s[2] + s[6]) + (s[3] + s[7]))

/-- The mean of a row, which is `NaN` where the row is empty. -/
def rowMean (xs : List Float32) : Float32 :=
  if xs.isEmpty then Single.nan else rowSum xs / Single.ofNat xs.length

/-! ## Records -/

/-- How much a record matters. -/
inductive Level where
  | debug
  | info
  | warn
deriving DecidableEq

/-- Something noted during a run. -/
inductive Record where
  | read (samples : Nat) (path : String)
  | wrote (predictions : Nat) (path : String)
  | nans (count samples : Nat) (program : ProgramId)
  | mean (value : Float32) (program : ProgramId)
deriving DecidableEq

namespace Record

/-- The level of a record. -/
def level : Record → Level
  | read .. => .info
  | wrote .. => .info
  | nans .. => .warn
  | mean .. => .debug

/-- The text of a record. -/
def message : Record → String
  | read samples path => s!"read {samples} samples from " ++ path
  | wrote predictions path => s!"wrote {predictions} predictions to " ++ path
  | nans count samples _ => s!"{count} of {samples} predictions are NaN"
  | mean value _ => "mean prediction " ++ Single.text value

/-- The program that a record is about. -/
def program? : Record → Option ProgramId
  | nans _ _ p => some p
  | mean _ p => some p
  | _ => none

end Record

namespace Predictions

/-- The number of `NaN` in the row of a program. -/
def nanCount (p : Predictions) (program : ProgramId) : Nat := (p.row program).countP Float32.isNaN

/-- What is noted about a program: its `NaN`, if it has any, and its mean. -/
def recordsOf (p : Predictions) (program : ProgramId) : List Record :=
  (if 0 < p.nanCount program then [.nans (p.nanCount program) p.samples program] else []) ++
    [.mean (rowMean (p.row program)) program]

/-- What is noted about all programs in order. -/
def records (p : Predictions) : List Record := ProgramId.all.flatMap p.recordsOf

end Predictions

end TwoSpirals
