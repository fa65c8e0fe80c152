import TwoSpirals.Single.Shortest

/-!
# Single-precision numbers as text

`text` writes the shortest decimal that reads back, with a sign where the sign bit is set and never
with an exponent: `0.1`, `-0`, `16777216`, `inf`, `NaN`.
-/

namespace TwoSpirals

open Float.Model (UnpackedFloat)

/-- The sign before a number. -/
def signText : UnpackedFloat.Sign → List Char
  | .negative => ['-']
  | .positive => []

namespace Single

/-- The characters of `text`. -/
def chars (x : Float32) : List Char :=
  match x.toModel.unpack with
  | .notANumber => ['N', 'a', 'N']
  | .infinity s => signText s ++ ['i', 'n', 'f']
  | .zero s => signText s ++ ['0']
  | .finite s m e _ => signText s ++ (shortest m e).plain

/-- The shortest text that reads back as the number. -/
def text (x : Float32) : String := String.ofList (chars x)

end Single

end TwoSpirals
