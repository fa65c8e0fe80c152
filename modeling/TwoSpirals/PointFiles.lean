import TwoSpirals.Files
import TwoSpirals.Point

/-!
# Files of labelled points

The inputs and the labels of a list of points go to files of their own, each a buffer of
single-precision numbers.
-/

namespace TwoSpirals

variable {m : Type → Type} [Files m]

/-- Makes a file hold the inputs of some points. -/
def writeFeatures (path : String) (points : List LabeledPoint) : m (Except FileError Unit) :=
  Files.write path (Single.encode (features points))

/-- Makes a file hold the labels of some points. -/
def writeLabels (path : String) (points : List LabeledPoint) : m (Except FileError Unit) :=
  Files.write path (Single.encode (labels points))

end TwoSpirals
