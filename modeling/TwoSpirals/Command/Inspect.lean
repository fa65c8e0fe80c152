import TwoSpirals.Command.Outcome
import TwoSpirals.Count
import TwoSpirals.Single.Reader
import TwoSpirals.Trace

/-!
# Inspecting a program

`inspect` lists the steps of a program, or shows each of them at work on an input pair.
-/

namespace TwoSpirals

/-- The index of a step, a star where it fired, the step and the `r0` it left. -/
def Trace.Entry.line (e : Trace.Entry) : List Char :=
  (Nat.toDigits 10 e.index).leftpad 4 ' ' ++ ' ' :: (if e.fired then '*' else ' ') :: ' ' ::
    (e.step.chars.rightpad 32 ' ' ++ " r0 = ".toList ++ Single.chars e.registers.r0 ++ ['\n'])

/-- The last line under a trace: the result and the number of steps that fired. -/
def resultLine (result : Float32) (fired total : Nat) : List Char :=
  "result ".toList ++ Single.chars result ++ " (".toList ++ Nat.toDigits 10 fired ++
    " of ".toList ++ Nat.toDigits 10 total ++ " steps fired)\n".toList

/-- A line for each step of a program at work, and a line for the result. -/
def ProgramId.traceText (t : Trig) (p : ProgramId) (x0 x1 : Float32) : String :=
  let entries := (p.trace x0 x1).entries t
  String.ofList (entries.flatMap Trace.Entry.line ++
    resultLine (p.evaluate t x0 x1) (entries.countP (·.fired)) p.steps.length)

namespace Command

/-- The program that an argument names. -/
def readProgram (arg : String) : Except String ProgramId :=
  match Count.ofChars arg.toList with
  | .error _ => .error ("invalid program: " ++ arg)
  | .ok n => (ProgramId.ofNat n).mapError UnknownProgram.message

/-- The input that an argument writes. -/
def readInput (what arg : String) : Except String Float32 :=
  match Single.ofText? arg with
  | none => .error ("invalid " ++ what ++ ": " ++ arg)
  | some x => .ok x

/-- What is printed for a program, and for an input pair if there is one. -/
def inspectText (t : Trig) (program : String) (input : Option (String × String)) :
    Except String String := do
  let p ← readProgram program
  match input with
  | none => return p.listing
  | some (arg0, arg1) =>
    let x0 ← readInput "x0" arg0
    let x1 ← readInput "x1" arg1
    return p.traceText t x0 x1

/-- `programs <program> [x0 x1]`, called by the name `command`. -/
def inspect (t : Trig) (command : String) (args : List String) : Outcome :=
  let text :=
    match args with
    | [program] => inspectText t program none
    | [program, x0, x1] => inspectText t program (some (x0, x1))
    | _ => .error ("Usage: " ++ command ++ " <program> [x0 x1]")
  match text with
  | .ok text => .success text
  | .error line => .failure 2 line

end Command

end TwoSpirals
