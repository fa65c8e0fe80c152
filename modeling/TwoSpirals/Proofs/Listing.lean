import TwoSpirals.Program
import TwoSpirals.Proofs.Single.Text
import TwoSpirals.Proofs.Text.Lines

/-!
# Steps from their text

No two steps have one text (`Step.chars_injective`): the blanks and the colon around the operands of
a guard stand in no operand, and an operand reads back from its text, because no number is written
like the name of a register.  There is no line break in the text of a step either, so the lines of a
listing give its steps, each at its index (`listingLines_injective`).
-/

namespace TwoSpirals

/-! ## Steps -/

theorem Operand.not_mem_chars {c : Char} (hnumeric : Json.isNumeric c = false)
    (hname : c ∉ ['N', 'a', 'i', 'n', 'f', 'r', 'x']) (a : Operand) : c ∉ a.chars := by
  have hdigit : c ≠ '0' ∧ c ≠ '1' := by
    constructor <;> rintro rfl <;> exact absurd hnumeric (by decide)
  simp only [List.mem_cons, List.not_mem_nil, or_false, not_or] at hname
  cases a with
  | r0 | r1 | x0 | x1 => simp [chars, hdigit, hname]
  | literal value => exact Single.not_mem_chars hnumeric (by simp [hname]) value

/-- A register's name starts with a letter that stands in no number. -/
theorem Operand.chars_literal_ne {c : Char} {cs : List Char} (hc : c = 'r' ∨ c = 'x')
    (value : Float32) : (literal value).chars ≠ c :: cs := by
  intro h
  have hnumeric : Json.isNumeric c = false := by rcases hc with rfl | rfl <;> rfl
  have hname : c ∉ ['N', 'a', 'i', 'n', 'f'] := by rcases hc with rfl | rfl <;> decide
  refine Single.not_mem_chars hnumeric hname value ?_
  rw [← chars, h]
  exact List.mem_cons_self

/-- The operand that characters write. -/
def Operand.ofChars? : List Char → Option Operand
  | ['r', '0'] => some r0
  | ['r', '1'] => some r1
  | ['x', '0'] => some x0
  | ['x', '1'] => some x1
  | cs => (Single.ofChars? cs).map literal

theorem Operand.ofChars?_chars (a : Operand) : ofChars? a.chars = some a := by
  cases a with
  | r0 | r1 | x0 | x1 => rfl
  | literal value =>
    unfold ofChars?
    split
    next h => exact absurd h (chars_literal_ne (.inl rfl) value)
    next h => exact absurd h (chars_literal_ne (.inl rfl) value)
    next h => exact absurd h (chars_literal_ne (.inr rfl) value)
    next h => exact absurd h (chars_literal_ne (.inr rfl) value)
    next => rw [chars, Single.ofChars?_chars, Option.map_some]

theorem Operand.chars_injective : Function.Injective Operand.chars := by
  intro a b h
  have ha := ofChars?_chars a
  rw [h, ofChars?_chars] at ha
  exact (Option.some.inj ha).symm

theorem Transform.chars_injective : Function.Injective Transform.chars := by
  intro f g
  cases f <;> cases g <;> decide

namespace Step

/-- The text behind the guard. -/
def action (f : Transform) : List Char := "r0 = ".toList ++ (f.chars ++ "(r0)".toList)

theorem action_injective : Function.Injective action := by
  intro f g h
  exact Transform.chars_injective (List.append_cancel_right (List.append_cancel_left h))

theorem chars_greater (a b : Operand) (f : Transform) :
    chars ⟨.greater a b, f⟩ = 'i' :: 'f' :: ' ' ::
      (a.chars ++ ' ' :: '>' :: ' ' :: (b.chars ++ ':' :: ' ' :: action f)) := by
  unfold chars Guard.chars action
  simp only [List.append_assoc]
  rfl

theorem chars_injective : Function.Injective chars := by
  rintro ⟨guard, f⟩ ⟨guard', g⟩ h
  cases guard with
  | always =>
    cases guard' with
    | always =>
      have hfg : f = g := action_injective h
      rw [hfg]
    | greater a b =>
      rw [chars_greater] at h
      exact absurd (List.cons.inj h).1 (by decide)
  | greater a b =>
    cases guard' with
    | always =>
      rw [chars_greater] at h
      exact absurd (List.cons.inj h).1 (by decide)
    | greater a' b' =>
      have hblank (a : Operand) : ' ' ∉ a.chars := a.not_mem_chars rfl (by decide)
      have hcolon (a : Operand) : ':' ∉ a.chars := a.not_mem_chars rfl (by decide)
      simp only [chars_greater, List.cons.injEq, true_and, Text.append_cons_inj (hblank a) (hblank a'),
        Text.append_cons_inj (hcolon b) (hcolon b')] at h
      obtain ⟨ha, hb, haction⟩ := h
      rw [Operand.chars_injective ha, Operand.chars_injective hb, action_injective haction]

/-- The text of a step has the characters of its operands and of the words around them. -/
theorem not_mem_chars {c : Char} (hnumeric : Json.isNumeric c = false)
    (hc : c ∉ ['N', 'a', 'i', 'n', 'f', 'r', 'x', 's', 'c', 'o', ' ', '=', '>', ':', '(', ')'])
    (s : Step) : c ∉ s.chars := by
  have hdigit : c ≠ '0' := by
    rintro rfl
    exact absurd hnumeric (by decide)
  simp only [List.mem_cons, List.not_mem_nil, or_false, not_or] at hc
  obtain ⟨guard, f⟩ := s
  have haction : c ∉ action f := by
    have hsin : action .sin = ['r', '0', ' ', '=', ' ', 's', 'i', 'n', '(', 'r', '0', ')'] := rfl
    have hcos : action .cos = ['r', '0', ' ', '=', ' ', 'c', 'o', 's', '(', 'r', '0', ')'] := rfl
    cases f with
    | sin => simp [hsin, hc, hdigit]
    | cos => simp [hcos, hc, hdigit]
  cases guard with
  | always => exact haction
  | greater a b =>
    have hoperand (a : Operand) : c ∉ a.chars := a.not_mem_chars hnumeric (by simp [hc])
    simp [chars_greater, hoperand, haction, hc]

theorem newline_not_mem_chars (s : Step) : '\n' ∉ s.chars := s.not_mem_chars rfl (by decide)

theorem text_inj {s s' : Step} : s.text = s'.text ↔ s = s' :=
  String.ofList_inj.trans chars_injective.eq_iff

end Step

/-! ## Listings -/

/-- A line of a listing without its end. -/
def indexed (i : Nat) (s : Step) : List Char :=
  (Nat.toDigits 10 i).leftpad 4 ' ' ++ (' ' :: ' ' :: s.chars)

theorem indexed_injective (i : Nat) : Function.Injective (indexed i) := by
  intro s s' h
  have hchars := List.append_cancel_left h
  simpa only [List.cons.injEq, true_and, Step.chars_injective.eq_iff] using hchars

theorem newline_not_mem_indexed (i : Nat) (s : Step) : '\n' ∉ indexed i s := by
  have hdigits : '\n' ∉ Nat.toDigits 10 i := not_mem_toDigits (by decide) i
  simp [indexed, List.leftpad, hdigits, s.newline_not_mem_chars]

theorem splitOn_listingLines (steps : List Step) :
    (listingLines steps).splitOn '\n' = (steps.zipIdx.map fun (s, i) => indexed i s) ++ [[]] := by
  rw [← Text.splitOn_flatMap_lines _ fun (s, i) _ => newline_not_mem_indexed i s, listingLines]
  congr 2
  funext (s, i)
  simp [listingLine, indexed]

theorem listingLines_injective : Function.Injective listingLines := by
  intro steps steps' h
  have hlines := congrArg (List.splitOn '\n') h
  rw [splitOn_listingLines, splitOn_listingLines] at hlines
  have hmap := List.append_cancel_right hlines
  refine List.ext_getElem? fun i => ?_
  have hi := congrArg (·[i]?) hmap
  simp only [List.getElem?_map, List.getElem?_zipIdx, Option.map_map, Nat.zero_add] at hi
  exact Option.map_injective (indexed_injective i) hi

/-- Listings are unambiguous.  A step is the only one with its text, in which a number shows every
bit, and the text is in one line.  So a listing has a line for each step in order, and listings with
the same text have the same steps at all indices. -/
theorem text_and_listing_unambiguous :
    (∀ s s' : Step, s.text = s'.text ↔ s = s') ∧
    (∀ x y : Float32, (Operand.literal x).text = (Operand.literal y).text ↔
      x.toBits = y.toBits) ∧
    (∀ s : Step, '\n' ∉ s.text.toList) ∧
    (∀ steps, (listingLines steps).splitOn '\n' =
      (steps.zipIdx.map fun (s, i) => (Nat.toDigits 10 i).leftpad 4 ' ' ++ "  ".toList ++ s.chars) ++
        [[]]) ∧
    ∀ steps steps', listingLines steps = listingLines steps' ↔
      ∀ i : Nat, steps[i]? = steps'[i]? := by
  refine ⟨fun s s' => Step.text_inj, fun x y => ?_, fun s => ?_, fun steps => ?_,
    fun steps steps' => ?_⟩
  · rw [Float32.toBits_inj]
    exact String.ofList_inj.trans Single.chars_injective.eq_iff
  · rw [Step.text, String.toList_ofList]
    exact s.newline_not_mem_chars
  · rw [splitOn_listingLines]
    simp [indexed]
  · rw [listingLines_injective.eq_iff]
    exact List.ext_getElem?_iff

end TwoSpirals
