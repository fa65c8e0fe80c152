import TwoSpirals.Decimal

/-!
# The shortest decimal of a single-precision number

A decimal reads back as a number `x` when it lies in the interval of the real numbers that round to
`x`.  `RoundingInterval.ofFinite` is that interval, and `RoundingInterval.shortest` the decimal in
it on the coarsest grid of powers of ten that has a point there; of several points the nearest to
`x` is taken, and of two equally near the upper one.
-/

namespace TwoSpirals.Single

/-- The real numbers around a number, in units of `2 ^ exponent`. -/
structure RoundingInterval where
  lower : Nat
  value : Nat
  upper : Nat
  exponent : Int
  /-- Whether the two ends belong to it. -/
  closed : Bool
deriving DecidableEq, Repr

namespace RoundingInterval

/-- The interval that rounds to `m × 2 ^ e`.  It ends half way to the neighbours, and the lower
neighbour of a power of two is half as far away as the upper one, but for the smallest of them.
The ends round to the even of the two numbers beside them. -/
def ofFinite (m : Nat) (e : Int) : RoundingInterval where
  lower := if m = Nat.pow 2 23 ∧ -149 < e then 4 * m - 1 else 4 * m - 2
  value := 4 * m
  upper := 4 * m + 2
  exponent := e - 2
  closed := m % 2 = 0

/-- A fraction equal to `2 ^ exponent / 10 ^ k`. -/
def unitOver (i : RoundingInterval) (k : Int) : Nat × Nat :=
  (Nat.pow 2 i.exponent.toNat * Nat.pow 10 (-k).toNat,
    Nat.pow 2 (-i.exponent).toNat * Nat.pow 10 k.toNat)

/-- Whether `n × 10 ^ k` is in the interval. -/
def mem (i : RoundingInterval) (k : Int) (n : Nat) : Bool :=
  let (a, b) := i.unitOver k
  if i.closed then i.lower * a ≤ n * b ∧ n * b ≤ i.upper * a
  else i.lower * a < n * b ∧ n * b < i.upper * a

/-- The number of whole `10 ^ k` in the value. -/
def floor (i : RoundingInterval) (k : Int) : Nat :=
  let (a, b) := i.unitOver k
  i.value * a / b

/-- Whether the value is nearer to `n × 10 ^ k` than to `(n + 1) × 10 ^ k`. -/
def nearerBelow (i : RoundingInterval) (k : Int) (n : Nat) : Bool :=
  let (a, b) := i.unitOver k
  2 * (i.value * a) < (2 * n + 1) * b

/-- The multiple of `10 ^ k` in the interval that is nearest to the value. -/
def nearest? (i : RoundingInterval) (k : Int) : Option Nat :=
  let n := i.floor k
  if i.mem k n ∧ (i.nearerBelow k n ∨ ¬ i.mem k (n + 1)) then some n
  else if i.mem k (n + 1) then some (n + 1)
  else none

/-- The point on the first grid of `10 ^ k`, `10 ^ (k - 1)`, … with one, trying `steps` of them. -/
def search (i : RoundingInterval) : (steps : Nat) → (k : Int) → Decimal
  | 0, k => ⟨i.floor k, k⟩
  | steps + 1, k =>
    match i.nearest? k with
    | some n => ⟨n, k⟩
    | none => i.search steps (k - 1)

/-- The shortest decimal in the interval.  No number of the format reaches `10 ^ 39`, and every one
is a whole number of `10 ^ (-151)`. -/
def shortest (i : RoundingInterval) : Decimal := i.search 190 39

end RoundingInterval

/-- The shortest decimal that reads back as `m × 2 ^ e`. -/
def shortest (m : Nat) (e : Int) : Decimal := (RoundingInterval.ofFinite m e).shortest

end TwoSpirals.Single
