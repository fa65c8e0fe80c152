import TwoSpirals.Decimal
import TwoSpirals.Single.Basic

/-!
# Reading single-precision numbers

`ofText?` reads an optional sign and then `inf`, `infinity` or `nan` in letters of either case, or
digits with an optional point among them and an optional exponent.  There is at least one digit,
and nothing else may stand in the text.  The value is the number nearest to the decimal written,
`ofDecimal`, rounded once.
-/

namespace TwoSpirals.Single

/-- The number nearest to a decimal. -/
def ofDecimal (d : Decimal) : Float32 := .ofModel (.ofScientific d.digits d.exponent)

/-- The value of a row of digits. -/
def digitsValue (ds : List Char) : Nat := Nat.ofDigitChars 10 ds 0

/-- The digits in front and what follows them. -/
def spanDigits (cs : List Char) : List Char × List Char :=
  (cs.takeWhile Char.isDigit, cs.dropWhile Char.isDigit)

/-- The exponent that ends a number: nothing, or an `e`, an optional sign and digits. -/
def exponent? : List Char → Option Int
  | [] => some 0
  | c :: cs =>
    if c = 'e' ∨ c = 'E' then
      match cs with
      | '-' :: ds => (digits? ds).map fun n => -(n : Int)
      | '+' :: ds => (digits? ds).map fun n => (n : Int)
      | ds => (digits? ds).map fun n => (n : Int)
    else none
where
  digits? (ds : List Char) : Option Nat :=
    if ds ≠ [] ∧ ds.all Char.isDigit then some (digitsValue ds) else none

/-- The decimal that an unsigned number writes. -/
def decimal? (cs : List Char) : Option Decimal :=
  let (whole, rest) := spanDigits cs
  let (fraction, rest) :=
    match rest with
    | '.' :: rest => spanDigits rest
    | rest => ([], rest)
  if whole = [] ∧ fraction = [] then none
  else (exponent? rest).map fun e => ⟨digitsValue (whole ++ fraction), e - fraction.length⟩

/-- The number that unsigned text writes. -/
def magnitude? (cs : List Char) : Option Float32 :=
  match decimal? cs with
  | some d => some (ofDecimal d)
  | none =>
    match cs.map Char.toLower with
    | ['i', 'n', 'f'] | ['i', 'n', 'f', 'i', 'n', 'i', 't', 'y'] => some infinity
    | ['n', 'a', 'n'] => some nan
    | _ => none

/-- The number that characters write. -/
def ofChars? : List Char → Option Float32
  | '-' :: cs => (magnitude? cs).map fun x => -x
  | '+' :: cs => magnitude? cs
  | cs => magnitude? cs

/-- The number that a text writes. -/
def ofText? (s : String) : Option Float32 := ofChars? s.toList

end TwoSpirals.Single
