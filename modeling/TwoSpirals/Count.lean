/-!
# Counts

A count is written as an optional `+` and digits, and stays below `Count.limit`.  `Count.ofChars`
reads one from left to right, and the first thing wrong is what it reports; `Count.positive` also
refuses zero.
-/

namespace TwoSpirals.Count

/-- What can be wrong with a count. -/
inductive Error where
  | empty
  | invalidDigit
  | tooLarge
  | zero
deriving DecidableEq

/-- The wording of the error. -/
def Error.message : Error → String
  | empty => "cannot parse integer from empty string"
  | invalidDigit => "invalid digit found in string"
  | tooLarge => "number too large to fit in target type"
  | zero => "number would be zero for non-zero type"

/-- The first number that is too large. -/
def limit : Nat := Nat.pow 2 64

/-- The count so far, with one more digit. -/
def push (n : Nat) (c : Char) : Except Error Nat :=
  if c.isDigit then
    let n := 10 * n + (c.toNat - '0'.toNat)
    if n < limit then .ok n else .error .tooLarge
  else .error .invalidDigit

/-- The count that a row of digits writes. -/
def ofDigits : List Char → Except Error Nat
  | [] => .error .invalidDigit
  | ds => ds.foldlM push 0

/-- The count that characters write. -/
def ofChars : List Char → Except Error Nat
  | [] => .error .empty
  | '+' :: ds => ofDigits ds
  | ds => ofDigits ds

/-- The count that characters write, which is not zero. -/
def positive (cs : List Char) : Except Error { n : Nat // 0 < n } := do
  let n ← ofChars cs
  if h : 0 < n then .ok ⟨n, h⟩ else .error .zero

end TwoSpirals.Count
