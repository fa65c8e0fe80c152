/-!
# Decimal numbers

A `Decimal` is a natural number of units of a power of ten.  `Decimal.plain` writes it with no
exponent, through `withPoint`, which puts a decimal point into a row of digits; `roundDiv` is the
one rounding to whole units, with a half going to the even neighbour.
-/

namespace TwoSpirals

/-- The number `digits × 10 ^ exponent`. -/
structure Decimal where
  digits : Nat
  exponent : Int
deriving DecidableEq, Repr

namespace Decimal

/-- The natural number nearest to `n / d`; a half goes to the even neighbour. -/
def roundDiv (n d : Nat) : Nat :=
  if 2 * (n % d) < d then n / d
  else if 2 * (n % d) = d then n / d + n / d % 2
  else n / d + 1

/-- Puts a point before the last `k` digits.  Zeros are written in front where there are not
enough digits for one to stand before the point. -/
def withPoint (k : Nat) (ds : List Char) : List Char :=
  let padded := ds.leftpad (k + 1) '0'
  padded.take (padded.length - k) ++ '.' :: padded.drop (padded.length - k)

/-- The digits with as many zeros or as a point as the exponent asks for. -/
def plain (x : Decimal) : List Char :=
  match x.exponent with
  | .ofNat k => Nat.toDigits 10 x.digits ++ List.replicate k '0'
  | .negSucc k => withPoint (k + 1) (Nat.toDigits 10 x.digits)

end Decimal

end TwoSpirals
