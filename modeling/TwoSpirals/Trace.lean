import TwoSpirals.Program

/-!
# Traces

A `Trace` is an evaluation in progress: the steps still to come, the index of the next one and the
registers.  `Trace.next?` takes one step and gives its `Entry`, `Trace.nth?` leaves some out first,
and the other questions of `Trace.Query` look ahead without taking a step.
-/

namespace TwoSpirals

/-- An evaluation in progress. -/
structure Trace where
  /-- The number of steps taken. -/
  index : Nat
  remaining : List Step
  registers : Registers

namespace Trace

/-- What a step did. -/
structure Entry where
  index : Nat
  step : Step
  /-- Whether the guard passed. -/
  fired : Bool
  /-- The registers after the step. -/
  registers : Registers

/-- The evaluation of some steps before the first one. -/
def start (steps : List Step) (x0 x1 : Float32) : Trace := ⟨0, steps, .init x0 x1⟩

/-- The number of steps still to come. -/
def length (tr : Trace) : Nat := tr.remaining.length

/-- Takes a step. -/
def next? (t : Trig) (tr : Trace) : Option (Entry × Trace) :=
  match tr.remaining with
  | [] => none
  | s :: rest =>
    let registers := tr.registers.exec t s
    some (⟨tr.index, s, tr.registers.passes s.guard, registers⟩, ⟨tr.index + 1, rest, registers⟩)

/-- Takes `n` steps and one more, which it tells about.  All steps are taken where there are not
so many. -/
def nth? (t : Trig) : (n : Nat) → Trace → Option Entry × Trace
  | 0, tr =>
    match tr.next? t with
    | none => (none, tr)
    | some (e, tr') => (some e, tr')
  | n + 1, tr =>
    match tr.next? t with
    | none => (none, tr)
    | some (_, tr') => nth? t n tr'

/-- What all the steps do, from the one with index `i` on. -/
def entriesFrom (t : Trig) (i : Nat) (r : Registers) : List Step → List Entry
  | [] => []
  | s :: rest => ⟨i, s, r.passes s.guard, r.exec t s⟩ :: entriesFrom t (i + 1) (r.exec t s) rest

/-- What the steps still to come do. -/
def entries (t : Trig) (tr : Trace) : List Entry :=
  entriesFrom t tr.index tr.registers tr.remaining

/-- What the next step will do. -/
def peek? (t : Trig) (tr : Trace) : Option Entry := (tr.next? t).map Prod.fst

/-- What the last step will do. -/
def last? (t : Trig) (tr : Trace) : Option Entry := (tr.entries t).getLast?

/-! ## Queries -/

/-- What can be asked of an evaluation in progress. -/
inductive Query where
  | next
  | nth (n : Nat)
  | peek
  | last
  | length
  | registers

/-- The answer to a query. -/
inductive Reply where
  | entry (e : Option Entry)
  | length (n : Nat)
  | registers (r : Registers)

/-- Answers a query.  Only `next` and `nth` take steps. -/
def ask (t : Trig) (tr : Trace) : Query → Reply × Trace
  | .next => let (e, tr') := tr.nth? t 0; (.entry e, tr')
  | .nth n => let (e, tr') := tr.nth? t n; (.entry e, tr')
  | .peek => (.entry (tr.peek? t), tr)
  | .last => (.entry (tr.last? t), tr)
  | .length => (.length tr.length, tr)
  | .registers => (.registers tr.registers, tr)

/-- Answers queries one after the other. -/
def askAll (t : Trig) (tr : Trace) : List Query → List Reply × Trace
  | [] => ([], tr)
  | q :: qs =>
    let (reply, tr) := tr.ask t q
    let (replies, tr) := tr.askAll t qs
    (reply :: replies, tr)

end Trace

/-- The evaluation of a program on an input pair, before its first step. -/
def ProgramId.trace (p : ProgramId) (x0 x1 : Float32) : Trace := .start p.steps x0 x1

end TwoSpirals
