/-!
# Narrowing

The single-precision number nearest to a double-precision one.
-/

namespace TwoSpirals.Double

open Float.Model (Format UnpackedFloat)

/-- The nearest single-precision number, a tie going to the even one.  What is too large becomes an
infinity and what is too small a zero of the same sign. -/
def toSingle (x : Float) : Float32 :=
  match x.toModel.unpack with
  | .finite s m e _ => .ofModel (.pack (UnpackedFloat.round .binary32 s m e))
  | special => .ofModel (.pack special)

end TwoSpirals.Double
