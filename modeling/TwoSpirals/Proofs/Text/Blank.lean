import Mathlib.Data.List.DropRight
import TwoSpirals.Text.Blank

/-!
# Text without the blanks around it

`Stripped` says what is left of characters when the blank ones at both ends are taken away, and
`stripped_iff` that this is what `trim` leaves and nothing else.
-/

namespace TwoSpirals.Text

/-- `t` is what `cs` has between the blank characters at its ends. -/
structure Stripped (cs t : List Char) : Prop where
  exists_blanks : ∃ front back,
    cs = front ++ t ++ back ∧ ∀ c ∈ front ++ back, isBlank c = true
  head : ∀ c ∈ t.head?, isBlank c = false
  last : ∀ c ∈ t.getLast?, isBlank c = false

theorem trim_eq_rdropWhile (cs : List Char) :
    trim cs = (cs.dropWhile isBlank).rdropWhile isBlank := rfl

theorem isBlank_of_mem_head?_dropWhile {cs : List Char} {c : Char}
    (hc : c ∈ (cs.dropWhile isBlank).head?) : isBlank c = false := by
  have h := List.head?_dropWhile_not isBlank cs
  rw [Option.mem_def.1 hc] at h
  exact h

theorem stripped_trim (cs : List Char) : Stripped cs (trim cs) where
  exists_blanks := by
    refine ⟨cs.takeWhile isBlank, (cs.dropWhile isBlank).rtakeWhile isBlank, ?_, ?_⟩
    · rw [trim_eq_rdropWhile, List.append_assoc, List.rdropWhile_append_rtakeWhile,
        List.takeWhile_append_dropWhile]
    · intro c hc
      rcases List.mem_append.1 hc with hc | hc
      · exact List.mem_takeWhile_imp hc
      · exact List.mem_rtakeWhile_imp hc
  head := by
    intro c hc
    obtain ⟨t, ht⟩ := List.head?_eq_some_iff.1 hc
    obtain ⟨back, hback⟩ := List.rdropWhile_prefix isBlank (cs.dropWhile isBlank)
    apply isBlank_of_mem_head?_dropWhile
    rw [← hback, ← trim_eq_rdropWhile, ht]
    rfl
  last := by
    intro c hc
    rw [trim, List.getLast?_reverse] at hc
    exact isBlank_of_mem_head?_dropWhile hc

theorem Stripped.trim_eq {cs t : List Char} (h : Stripped cs t) : trim cs = t := by
  obtain ⟨⟨front, back, rfl, hblank⟩, hhead, hlast⟩ := h
  have hfront : ∀ c ∈ front, isBlank c = true := fun c hc => hblank c (List.mem_append_left _ hc)
  have hback : ∀ c ∈ back.reverse, isBlank c = true :=
    fun c hc => hblank c (List.mem_append_right _ (List.mem_reverse.1 hc))
  rw [trim, List.append_assoc, List.dropWhile_append_of_pos hfront]
  cases t with
  | nil =>
    have hnil : back.dropWhile isBlank = [] :=
      List.dropWhile_eq_nil_iff.2 fun c hc => hback c (List.mem_reverse.2 hc)
    rw [List.nil_append, hnil]
    rfl
  | cons c t =>
    have hc : ¬ isBlank c = true := by
      rw [hhead c rfl]
      exact Bool.false_ne_true
    have hself : (c :: t).rdropWhile isBlank = c :: t := by
      refine List.rdropWhile_eq_self_iff.2 fun hne => ?_
      rw [hlast _ (List.getLast?_eq_some_getLast hne)]
      exact Bool.false_ne_true
    rw [List.cons_append, List.dropWhile_cons_of_neg hc, ← List.cons_append, List.reverse_append,
      List.dropWhile_append_of_pos hback]
    exact hself

theorem stripped_iff {cs t : List Char} : Stripped cs t ↔ trim cs = t :=
  ⟨Stripped.trim_eq, fun h => h ▸ stripped_trim cs⟩

end TwoSpirals.Text
