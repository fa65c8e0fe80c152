import TwoSpirals.Single.Order
import TwoSpirals.Step

/-!
# Guards

What a guard compares, when a comparison cannot pass, and guards of one shape, which pass alike in
two evaluations if their operands compare alike.
-/

namespace TwoSpirals

/-- What a guard compares. -/
def Guard.operands : Guard → List Operand
  | always => []
  | greater a b => [a, b]

/-- A comparison with `NaN` does not pass. -/
theorem Registers.passes_eq_false_of_isNaN {r : Registers} {g : Guard} {o : Operand}
    (ho : o ∈ g.operands) (h : (r.resolve o).isNaN = true) : r.passes g = false := by
  cases g with
  | always => cases ho
  | greater a b =>
    have hside : o = a ∨ o = b := by simpa [Guard.operands] using ho
    refine decide_eq_false (Single.not_lt_of_isNaN ?_)
    rcases hside with rfl | rfl
    · exact .inr h
    · exact .inl h

/-- Guards of one shape with related operands. -/
inductive Guard.Matches (O : Operand → Operand → Prop) : Guard → Guard → Prop
  | always : Matches O .always .always
  | greater {a b a' b' : Operand} : O a a' → O b b' → Matches O (.greater a b) (.greater a' b')

/-- The same transform under guards of one shape. -/
structure Step.Matches (O : Operand → Operand → Prop) (s s' : Step) : Prop where
  guard : s.guard.Matches O s'.guard
  transform : s.transform = s'.transform

/-- Guards pass alike where related operands have values that compare alike. -/
theorem Guard.Matches.passes_eq {O : Operand → Operand → Prop} {V : Float32 → Float32 → Prop}
    (hlt : ∀ {x x' y y' : Float32}, V x x' → V y y' → (x < y ↔ x' < y')) {r r' : Registers}
    (hresolve : ∀ {o o' : Operand}, O o o' → V (r.resolve o) (r'.resolve o')) {g g' : Guard}
    (h : g.Matches O g') : r.passes g = r'.passes g' := by
  cases h with
  | always => rfl
  | greater ha hb => exact decide_eq_decide.2 (hlt (hresolve hb) (hresolve ha))

end TwoSpirals
