/-!
# Single-precision numbers

The numbers that have names, and the number nearest to a natural number.
-/

namespace TwoSpirals.Single

/-- The one `NaN`. -/
def nan : Float32 := .ofBits 0x7fc00000

/-- Positive infinity. -/
def infinity : Float32 := .ofBits 0x7f800000

/-- The number nearest to a natural number, a tie going to the even one. -/
def ofNat (n : Nat) : Float32 := .ofModel (.ofNat n)

end TwoSpirals.Single
