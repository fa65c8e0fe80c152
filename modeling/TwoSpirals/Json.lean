import TwoSpirals.Single.Text

/-!
# JSON values

A `Json` is a number, an array or an object, and `Json.pretty` writes it with one item to a line
and two blanks more for each level.  Single-precision numbers take their shortest digits, and
always look like one: with a point or with an exponent.
-/

namespace TwoSpirals

open Float.Model (UnpackedFloat)

/-! ## Numbers -/

namespace Decimal

/-- The digits with a point behind the first one and the power of ten that makes up for it. -/
def scientific (x : Decimal) : List Char :=
  match Nat.toDigits 10 x.digits with
  | [] => []
  | d :: ds =>
    let power := x.exponent + ds.length
    d :: (if ds = [] then [] else '.' :: ds) ++ 'e' ::
      ((if power < 0 then ['-'] else []) ++ Nat.toDigits 10 power.natAbs)

/-- The digits with a point among them for numbers from `0.000001` to below `10 ^ 13`, and else
with a power of ten. -/
def jsonChars (x : Decimal) : List Char :=
  let magnitude := (Nat.toDigits 10 x.digits).length + x.exponent
  if -6 < magnitude ∧ magnitude ≤ 13 then
    x.plain ++ (if 0 ≤ x.exponent then ['.', '0'] else [])
  else x.scientific

end Decimal

/-- A single-precision number in JSON, which has no number for what is not a real one. -/
def Single.jsonChars (x : Float32) : List Char :=
  match x.toModel.unpack with
  | .notANumber | .infinity _ => ['n', 'u', 'l', 'l']
  | .zero s => signText s ++ ['0', '.', '0']
  | .finite s m e _ => signText s ++ (shortest m e).jsonChars

/-! ## Values -/

/-- A JSON value.  The names of fields are words, which need nothing but quotes around them. -/
inductive Json where
  | natural (n : Nat)
  | single (x : Float32)
  | array (items : List Json)
  | object (fields : List (String × Json))

namespace Json

/-- The start of a line at a level. -/
def newline (level : Nat) : List Char := '\n' :: List.replicate (2 * level) ' '

/-- Texts between brackets, each on a line of its own. -/
def block (left right : Char) (level : Nat) : List (List Char) → List Char
  | [] => [left, right]
  | text :: texts =>
    left :: newline (level + 1) ++ text ++
      (texts.flatMap fun text => ',' :: newline (level + 1) ++ text) ++ newline level ++ [right]

mutual

/-- The value, its lines at a level. -/
def prettyChars (level : Nat) : Json → List Char
  | natural n => Nat.toDigits 10 n
  | single x => Single.jsonChars x
  | array items => block '[' ']' level (prettyItems (level + 1) items)
  | object fields => block '\x7b' '\x7d' level (prettyFields (level + 1) fields)

/-- The items of an array. -/
def prettyItems (level : Nat) : List Json → List (List Char)
  | [] => []
  | item :: items => prettyChars level item :: prettyItems level items

/-- The fields of an object. -/
def prettyFields (level : Nat) : List (String × Json) → List (List Char)
  | [] => []
  | (name, value) :: fields =>
    ('"' :: name.toList ++ '"' :: ':' :: ' ' :: prettyChars level value) ::
      prettyFields level fields

end

/-- The value as text. -/
def pretty (j : Json) : String := String.ofList (j.prettyChars 0)

end Json

end TwoSpirals
