/-!
# Lines and words

Lines that are written one after the other, each with a line break behind it, are told apart again
by their breaks (`splitOn_flatMap_lines`).  `words` takes a line apart at its blanks, however many
of them stand between two words, and so finds what was put into the columns of a line.
-/

namespace TwoSpirals.Text

/-! ## Lines -/

theorem splitOn_flatMap_lines {α : Type} (f : α → List Char) {as : List α}
    (h : ∀ a ∈ as, '\n' ∉ f a) :
    (as.flatMap fun a => f a ++ ['\n']).splitOn '\n' = as.map f ++ [[]] := by
  induction as with
  | nil => rfl
  | cons a as ih =>
    obtain ⟨ha, has⟩ := List.forall_mem_cons.1 h
    rw [List.flatMap_cons, List.append_assoc, List.singleton_append,
      List.splitOn_append_cons_self_of_not_mem ha, ih has]
    rfl

/-- A mark that stands in neither text before it shows where both end. -/
theorem append_cons_inj {c : Char} {u v s t : List Char} (hu : c ∉ u) (hv : c ∉ v) :
    u ++ c :: s = v ++ c :: t ↔ u = v ∧ s = t := by
  refine ⟨fun h => ?_, fun ⟨huv, hst⟩ => by rw [huv, hst]⟩
  have hsplit := congrArg (List.splitOn c) h
  rw [List.splitOn_append_cons_self_of_not_mem hu,
    List.splitOn_append_cons_self_of_not_mem hv] at hsplit
  obtain rfl := (List.cons.inj hsplit).1
  exact ⟨rfl, (List.cons.inj (List.append_cancel_left h)).2⟩

/-! ## Words -/

/-- The words of a line. -/
def words (cs : List Char) : List (List Char) := (cs.splitOn ' ').filter (· ≠ [])

theorem words_blank_cons (cs : List Char) : words (' ' :: cs) = words cs := by
  have h : (' ' :: cs).splitOn ' ' = [] :: cs.splitOn ' ' :=
    List.splitOn_append_cons_self_of_not_mem List.not_mem_nil cs
  rw [words, h, List.filter_cons_of_neg (by simp), words]

theorem words_blanks_append (k : Nat) (cs : List Char) :
    words (List.replicate k ' ' ++ cs) = words cs := by
  induction k with
  | zero => rfl
  | succ k ih => rw [List.replicate_succ, List.cons_append, words_blank_cons, ih]

variable {w : List Char}

theorem words_append (hne : w ≠ []) (hw : ' ' ∉ w) (cs : List Char) :
    words (w ++ ' ' :: cs) = w :: words cs := by
  rw [words, List.splitOn_append_cons_self_of_not_mem hw,
    List.filter_cons_of_pos (by simpa using hne), words]

theorem words_of_not_mem (hne : w ≠ []) (hw : ' ' ∉ w) : words w = [w] := by
  rw [words, List.splitOn_eq_singleton hw, List.filter_cons_of_pos (by simpa using hne),
    List.filter_nil]

/-- A word in a column is found, whatever the width of the column. -/
theorem words_leftpad_append (n : Nat) (hne : w ≠ []) (hw : ' ' ∉ w) (cs : List Char) :
    words (w.leftpad n ' ' ++ ' ' :: cs) = w :: words cs := by
  rw [List.leftpad, List.append_assoc, words_blanks_append, words_append hne hw]

theorem words_leftpad (n : Nat) (hne : w ≠ []) (hw : ' ' ∉ w) : words (w.leftpad n ' ') = [w] := by
  rw [List.leftpad, words_blanks_append, words_of_not_mem hne hw]

end TwoSpirals.Text
