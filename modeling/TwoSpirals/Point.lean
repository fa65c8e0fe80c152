import TwoSpirals.Double.Fixed
import TwoSpirals.Double.Narrow

/-!
# Labelled points

A `LabeledPoint` is a point of the plane with the label of its class.  A list of them is written as
text, one `line` to a point, and as two buffers of single-precision numbers, `features` and
`labels`.
-/

namespace TwoSpirals

/-- A point and its label. -/
structure LabeledPoint where
  x : Float
  y : Float
  label : Float
deriving DecidableEq

namespace LabeledPoint

/-- The inputs of the programs at a point: its coordinates, narrowed. -/
def features (p : LabeledPoint) : Float32 × Float32 := (Double.toSingle p.x, Double.toSingle p.y)

/-- The coordinates with five places and the label with one, aligned right in columns of eight and
three. -/
def line (p : LabeledPoint) : List Char :=
  (Double.fixed 5 p.x).leftpad 8 ' ' ++ ' ' ::
    ((Double.fixed 5 p.y).leftpad 8 ' ' ++ ' ' :: (Double.fixed 1 p.label).leftpad 3 ' ')

end LabeledPoint

/-- A line for each point. -/
def pointsText (points : List LabeledPoint) : String :=
  String.ofList (points.flatMap fun p => p.line ++ ['\n'])

/-- The inputs of all points, the two of a point one after the other. -/
def features (points : List LabeledPoint) : List Float32 :=
  points.flatMap fun p => [p.features.1, p.features.2]

/-- The labels of all points. -/
def labels (points : List LabeledPoint) : List Float32 :=
  points.map fun p => Double.toSingle p.label

end TwoSpirals
