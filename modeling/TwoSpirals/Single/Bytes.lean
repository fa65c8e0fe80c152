/-!
# Single-precision numbers as bytes

A number takes four bytes, the low byte of its bit pattern first, and a buffer of numbers their
bytes one after the other.
-/

namespace TwoSpirals.Single

/-- The four bytes of a number, low byte first. -/
def toBytes (x : Float32) : List UInt8 :=
  [x.toBits.toUInt8, (x.toBits >>> 8).toUInt8, (x.toBits >>> 16).toUInt8, (x.toBits >>> 24).toUInt8]

/-- The number of four bytes, low byte first. -/
def ofBytes (a b c d : UInt8) : Float32 :=
  .ofBits (a.toUInt32 ||| b.toUInt32 <<< 8 ||| c.toUInt32 <<< 16 ||| d.toUInt32 <<< 24)

/-- The bytes of a buffer. -/
def encode (xs : List Float32) : List UInt8 := xs.flatMap toBytes

/-- The buffer of some bytes.  Up to three bytes left over at the end stand for no number. -/
def decode : List UInt8 → List Float32
  | a :: b :: c :: d :: rest => ofBytes a b c d :: decode rest
  | _ => []

end TwoSpirals.Single
