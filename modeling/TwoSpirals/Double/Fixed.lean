import TwoSpirals.Decimal
import TwoSpirals.Single.Text

/-!
# Double-precision numbers with fixed places

`fixed p x` writes `x` with `p` digits after the point, at the decimal nearest to the exact binary
value; a value half way between two decimals goes to the even last digit.  The sign is written
where the sign bit is set, also in front of a zero.
-/

namespace TwoSpirals.Double

/-- The whole number of `10 ^ (-places)` nearest to `m × 2 ^ e`. -/
def units (places m : Nat) (e : Int) : Nat :=
  Decimal.roundDiv (m * Nat.pow 10 places * Nat.pow 2 e.toNat) (Nat.pow 2 (-e).toNat)

/-- The number with `places` digits after the point. -/
def fixed (places : Nat) (x : Float) : List Char :=
  match x.toModel.unpack with
  | .notANumber => ['N', 'a', 'N']
  | .infinity s => signText s ++ ['i', 'n', 'f']
  | .zero s => signText s ++ Decimal.withPoint places ['0']
  | .finite s m e _ => signText s ++ Decimal.withPoint places (Nat.toDigits 10 (units places m e))

end TwoSpirals.Double
