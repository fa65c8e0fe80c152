import TwoSpirals.Json
import TwoSpirals.Single.Reader

/-!
# Reading JSON values

`Json.ofText?` reads a value with blanks between its parts or none.  Digits alone are a natural
number, read exactly, and any other number is the single-precision number nearest to it.  What
`Json.pretty` writes is read as the same value, as long as its numbers are real ones and its names
are words.
-/

namespace TwoSpirals.Json

/-! ## Parts -/

/-- What follows the blanks in front. -/
def skipBlanks (cs : List Char) : List Char :=
  cs.dropWhile fun c => c ∈ [' ', '\n', '\r', '\t']

/-- What follows a mark, blanks in front of it aside. -/
def mark? (mark : Char) (cs : List Char) : Option (List Char) :=
  match skipBlanks cs with
  | c :: rest => if c = mark then some rest else none
  | [] => none

/-- Whether a character stands for itself between quotes. -/
def isPlain (c : Char) : Bool := ' ' ≤ c ∧ c ≠ '"' ∧ c ≠ '\\'

/-- The name of a field and what follows it. -/
def name? (cs : List Char) : Option (String × List Char) := do
  let cs ← mark? '"' cs
  match cs.dropWhile isPlain with
  | '"' :: rest => return (String.ofList (cs.takeWhile isPlain), rest)
  | _ => none

/-! ## Numbers -/

/-- Whether digits are those of a natural number: some, and no zero before others. -/
def isWhole (ds : List Char) : Bool := ds = ['0'] ∨ (ds ≠ [] ∧ ds.head? ≠ some '0')

/-- Whether a digit follows the point, if there is one. -/
def isPointed : List Char → Bool
  | '.' :: cs => cs.head?.any Char.isDigit
  | _ => true

/-- The number that is written without a sign. -/
def magnitude? (cs : List Char) : Option Float32 :=
  let (whole, rest) := Single.spanDigits cs
  if isWhole whole ∧ isPointed rest then (Single.decimal? cs).map Single.ofDecimal else none

/-- The value of the characters of a number. -/
def ofNumber? : List Char → Option Json
  | '-' :: cs => (magnitude? cs).map fun x => .single (-x)
  | cs =>
    if cs.all Char.isDigit then
      if isWhole cs then some (.natural (Single.digitsValue cs)) else none
    else (magnitude? cs).map .single

/-- Whether a character can be part of a number. -/
def isNumeric (c : Char) : Bool := c.isDigit ∨ c ∈ ['-', '+', '.', 'e', 'E']

/-- A number and what follows it. -/
def number? (cs : List Char) : Option (Json × List Char) :=
  (ofNumber? (cs.takeWhile isNumeric)).map (·, cs.dropWhile isNumeric)

/-! ## Values -/

mutual

/-- A value and what follows it. -/
def value? : (fuel : Nat) → List Char → Option (Json × List Char)
  | 0, _ => none
  | fuel + 1, cs =>
    match skipBlanks cs with
    | '[' :: cs =>
      match mark? ']' cs with
      | some rest => some (array [], rest)
      | none => (items? fuel cs).map fun (items, rest) => (array items, rest)
    | '\x7b' :: cs =>
      match mark? '\x7d' cs with
      | some rest => some (object [], rest)
      | none => (fields? fuel cs).map fun (fields, rest) => (object fields, rest)
    | cs => number? cs

/-- The items up to the end of an array, and what follows it. -/
def items? : (fuel : Nat) → List Char → Option (List Json × List Char)
  | 0, _ => none
  | fuel + 1, cs => do
    let (item, cs) ← value? fuel cs
    match mark? ',' cs with
    | some cs =>
      let (items, rest) ← items? fuel cs
      return (item :: items, rest)
    | none => return ([item], ← mark? ']' cs)

/-- The fields up to the end of an object, and what follows it. -/
def fields? : (fuel : Nat) → List Char → Option (List (String × Json) × List Char)
  | 0, _ => none
  | fuel + 1, cs => do
    let (name, cs) ← name? cs
    let (value, cs) ← value? fuel (← mark? ':' cs)
    match mark? ',' cs with
    | some cs =>
      let (fields, rest) ← fields? fuel cs
      return ((name, value) :: fields, rest)
    | none => return ([(name, value)], ← mark? '\x7d' cs)

end

/-- The value that characters write.  A bracket costs two units of fuel and any other part of a
value less, so the fuel lasts to the end. -/
def ofChars? (cs : List Char) : Option Json := do
  let (j, rest) ← value? (2 * cs.length + 2) cs
  if skipBlanks rest = [] then return j else none

/-- The value that a text writes. -/
def ofText? (s : String) : Option Json := ofChars? s.toList

end TwoSpirals.Json
