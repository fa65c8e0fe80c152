import TwoSpirals.Point

/-!
# Two interlocking spirals

Two arms of points run inwards around the origin, and each point of the second arm mirrors one of
the first.  `Spiral.pair?` gives the points of both arms at one angle, `Spiral.get?` the points in
one row, first and second arm in turn, and `Spiral.samples` that row.
-/

namespace TwoSpirals

/-- The shape of two spirals. -/
structure Spiral where
  /-- The index of the last point of an arm. -/
  points : Nat := 96
  /-- The number of points to half a turn. -/
  divisor : Float := 16
  /-- The distance of the first point from the origin. -/
  maxRadius : Float := 6.5
  /-- The number of points after which an arm would reach the origin. -/
  decay : Float := 104

/-- There is no sample `index`; there are `length` of them. -/
structure OutOfBounds where
  index : Nat
  length : Nat
deriving DecidableEq

/-- The wording of the error. -/
def OutOfBounds.message (e : OutOfBounds) : String :=
  s!"sample index {e.index} is out of bounds for {e.length} samples"

namespace Spiral

/-- Half a turn in radians. -/
def pi : Float := Float.ofBits 0x400921fb54442d18

/-- The angle of the points `i`. -/
def angle (s : Spiral) (i : Nat) : Float := Float.ofNat i * pi / s.divisor

/-- The distance of the points `i` from the origin. -/
def radius (s : Spiral) (i : Nat) : Float :=
  s.maxRadius * (s.decay - Float.ofNat i) / s.decay

/-- The point `i` of the first arm, which has the label `1`. -/
def outer (s : Spiral) (i : Nat) : LabeledPoint :=
  ⟨s.radius i * (s.angle i).sin, s.radius i * (s.angle i).cos, 1⟩

/-- A point on the other side of the origin, which has the label `0`. -/
def mirror (p : LabeledPoint) : LabeledPoint := ⟨-p.x, -p.y, 0⟩

/-- The points `i` of the two arms. -/
def pairAt (s : Spiral) (i : Nat) : LabeledPoint × LabeledPoint :=
  let p := s.outer i
  (p, mirror p)

/-- The number of samples. -/
def length (s : Spiral) : Nat := 2 * (s.points + 1)

/-- The points `i` of the two arms, if the arms are that long. -/
def pair? (s : Spiral) (i : Nat) : Except OutOfBounds (LabeledPoint × LabeledPoint) :=
  if i ≤ s.points then .ok (s.pairAt i) else .error ⟨i, s.points + 1⟩

/-- The sample of an index. -/
def get? (s : Spiral) (index : Nat) : Except OutOfBounds LabeledPoint :=
  match s.pair? (index / 2) with
  | .ok (p, q) => .ok (if index % 2 = 0 then p else q)
  | .error _ => .error ⟨index, s.length⟩

/-- The points of the two arms at all indices.  An index that the arms do not have is passed over. -/
def pairs (s : Spiral) : List (LabeledPoint × LabeledPoint) :=
  (List.range (s.points + 1)).filterMap fun i => (s.pair? i).toOption

/-- All samples, the two arms in turn. -/
def samples (s : Spiral) : List LabeledPoint := s.pairs.flatMap fun (p, q) => [p, q]

/-- The samples after the first `skip`, but no more than `take` of them. -/
def slice (s : Spiral) (skip take : Nat) : List LabeledPoint :=
  (List.range' skip (min take (s.length - skip))).filterMap fun index => (s.get? index).toOption

end Spiral

end TwoSpirals
