import TwoSpirals.Program.Table0
import TwoSpirals.Program.Table1
import TwoSpirals.Program.Table2
import TwoSpirals.Program.Table3
import TwoSpirals.Program.Table4

/-!
# Programs

A program is a list of steps.  `run` takes them in order from the registers of an input pair and
returns the last `r0`.  Five programs are built in; `ProgramId` names them, `evaluate` runs one and
`listing` writes its steps down.
-/

namespace TwoSpirals

/-- The value of `r0` after all the steps, taken in order. -/
def run (t : Trig) (steps : List Step) (x0 x1 : Float32) : Float32 :=
  (steps.foldl (Registers.exec t) (.init x0 x1)).r0

/-- One of the five programs. -/
abbrev ProgramId := Fin 5

/-- No program has the number `id`; there are `count` of them. -/
structure UnknownProgram where
  id : Nat
  count : Nat
deriving DecidableEq

/-- The wording of the error. -/
def UnknownProgram.message (e : UnknownProgram) : String :=
  s!"unknown program {e.id}, there are only {e.count} programs"

namespace ProgramId

/-- All programs in order. -/
def all : List ProgramId := [0, 1, 2, 3, 4]

/-- The program of a number. -/
def ofNat (n : Nat) : Except UnknownProgram ProgramId :=
  if h : n < 5 then .ok ⟨n, h⟩ else .error ⟨n, 5⟩

/-- The steps of a program. -/
def steps : ProgramId → List Step
  | 0 => Program.table0
  | 1 => Program.table1
  | 2 => Program.table2
  | 3 => Program.table3
  | 4 => Program.table4

/-- The characters of a program's number. -/
def chars (p : ProgramId) : List Char := Nat.toDigits 10 p.val

/-- The result of a program on an input pair. -/
def evaluate (t : Trig) (p : ProgramId) (x0 x1 : Float32) : Float32 := run t p.steps x0 x1

end ProgramId

/-! ## Listings -/

/-- A step under its index, the index in four columns. -/
def listingLine (i : Nat) (s : Step) : List Char :=
  (Nat.toDigits 10 i).leftpad 4 ' ' ++ "  ".toList ++ s.chars ++ ['\n']

/-- A line for each step. -/
def listingLines (steps : List Step) : List Char :=
  steps.zipIdx.flatMap fun (s, i) => listingLine i s

/-- A heading and a line for each step. -/
def ProgramId.listing (p : ProgramId) : String :=
  String.ofList ("program ".toList ++ p.chars ++ " (".toList ++ Nat.toDigits 10 p.steps.length ++
    " steps)\n".toList ++ listingLines p.steps)

end TwoSpirals
