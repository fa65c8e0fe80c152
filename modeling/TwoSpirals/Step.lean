import TwoSpirals.Trig
import TwoSpirals.Single.Text

/-!
# Steps

A step may replace the register `r0` by its sine or its cosine.  It does so where its guard passes,
and a guard is either `always` or a strict comparison of two operands.  `Registers.exec` is one
step; it reads all four registers and writes `r0` alone.
-/

namespace TwoSpirals

/-- What a guard compares: a register or a fixed number. -/
inductive Operand where
  | r0
  | r1
  | x0
  | x1
  | literal (value : Float32)
deriving DecidableEq

/-- What a step does to `r0`. -/
inductive Transform where
  | sin
  | cos
deriving DecidableEq

/-- When a step acts.  A comparison with `NaN` never passes. -/
inductive Guard where
  | always
  | greater (a b : Operand)
deriving DecidableEq

/-- A guard and the transform it guards. -/
structure Step where
  guard : Guard
  transform : Transform
deriving DecidableEq

/-- The step that always acts. -/
def Step.always (t : Transform) : Step := ⟨.always, t⟩

/-- The step that acts where `a > b`. -/
def Step.greater (a b : Operand) (t : Transform) : Step := ⟨.greater a b, t⟩

/-- The transform as a function. -/
def Transform.apply (t : Trig) : Transform → Float32 → Float32
  | sin => t.sin
  | cos => t.cos

/-! ## Registers -/

/-- The state of an evaluation. -/
structure Registers where
  r0 : Float32
  r1 : Float32
  x0 : Float32
  x1 : Float32
deriving DecidableEq

namespace Registers

/-- The state before the first step: `r0` and `r1` start as the two inputs. -/
def init (x0 x1 : Float32) : Registers := ⟨x0, x1, x0, x1⟩

/-- The number an operand stands for. -/
def resolve (r : Registers) : Operand → Float32
  | .r0 => r.r0
  | .r1 => r.r1
  | .x0 => r.x0
  | .x1 => r.x1
  | .literal value => value

/-- Whether a guard passes. -/
def passes (r : Registers) : Guard → Bool
  | .always => true
  | .greater a b => r.resolve b < r.resolve a

/-- The state after a step. -/
def exec (t : Trig) (r : Registers) (s : Step) : Registers :=
  if r.passes s.guard then { r with r0 := s.transform.apply t r.r0 } else r

theorem exec_of_passes {t : Trig} {r : Registers} {s : Step} (h : r.passes s.guard = true) :
    r.exec t s = { r with r0 := s.transform.apply t r.r0 } := if_pos h

theorem exec_of_not_passes {t : Trig} {r : Registers} {s : Step} (h : r.passes s.guard = false) :
    r.exec t s = r := by
  rw [exec, h]
  rfl

@[simp]
theorem r1_exec (t : Trig) (r : Registers) (s : Step) : (r.exec t s).r1 = r.r1 := by
  unfold exec; split <;> rfl

@[simp]
theorem x0_exec (t : Trig) (r : Registers) (s : Step) : (r.exec t s).x0 = r.x0 := by
  unfold exec; split <;> rfl

@[simp]
theorem x1_exec (t : Trig) (r : Registers) (s : Step) : (r.exec t s).x1 = r.x1 := by
  unfold exec; split <;> rfl

end Registers

/-! ## Text -/

/-- A register's name, or the shortest text of a number. -/
def Operand.chars : Operand → List Char
  | r0 => ['r', '0']
  | r1 => ['r', '1']
  | x0 => ['x', '0']
  | x1 => ['x', '1']
  | literal value => Single.chars value

/-- The function's name. -/
def Transform.chars : Transform → List Char
  | sin => ['s', 'i', 'n']
  | cos => ['c', 'o', 's']

/-- `if a > b: ` in front of a guarded step. -/
def Guard.chars : Guard → List Char
  | always => []
  | greater a b => "if ".toList ++ a.chars ++ " > ".toList ++ b.chars ++ ": ".toList

/-- `r0 = sin(r0)`, after its guard. -/
def Step.chars (s : Step) : List Char :=
  s.guard.chars ++ "r0 = ".toList ++ s.transform.chars ++ "(r0)".toList

/-- The operand as text. -/
def Operand.text (a : Operand) : String := String.ofList a.chars

/-- The step as text. -/
def Step.text (s : Step) : String := String.ofList s.chars

end TwoSpirals
