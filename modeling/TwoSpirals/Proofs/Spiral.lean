import Mathlib.Algebra.Group.Nat.Defs
import Mathlib.Data.List.Basic
import TwoSpirals.Count
import TwoSpirals.Spiral

/-!
# The samples of two spirals

The samples are reached by the index of a pair, by an index of their own and in a row.
`Spiral.sampleAt` is the sample of an index where the arms have no end, and what the three ways give
is said with it: no pair is passed over (`pairs_eq_map`), so the row is that of the samples below
`Spiral.length` (`samples_eq_map`), and a part of the row is the samples of its indices
(`slice_eq_map`).
-/

namespace TwoSpirals.Spiral

variable (s : Spiral)

/-- The sample of an index, on arms without an end. -/
def sampleAt (k : Nat) : LabeledPoint :=
  if k % 2 = 0 then (s.pairAt (k / 2)).1 else (s.pairAt (k / 2)).2

theorem sampleAt_two_mul (i : Nat) : s.sampleAt (2 * i) = (s.pairAt i).1 := by
  simp [sampleAt]

theorem sampleAt_two_mul_add_one (i : Nat) : s.sampleAt (2 * i + 1) = (s.pairAt i).2 := by
  rw [sampleAt, if_neg (by omega), show (2 * i + 1) / 2 = i by omega]

/-! ## By index -/

theorem pair?_of_le {i : Nat} (h : i ≤ s.points) : s.pair? i = .ok (s.pairAt i) := if_pos h

theorem pair?_of_lt {i : Nat} (h : s.points < i) : s.pair? i = .error ⟨i, s.points + 1⟩ :=
  if_neg (Nat.not_le.2 h)

theorem get?_of_lt {k : Nat} (h : k < s.length) : s.get? k = .ok (s.sampleAt k) := by
  have hpair : k / 2 ≤ s.points := by
    unfold length at h
    omega
  rw [get?, pair?_of_le s hpair, sampleAt]

theorem get?_of_le {k : Nat} (h : s.length ≤ k) : s.get? k = .error ⟨k, s.length⟩ := by
  have hpair : s.points < k / 2 := by
    unfold length at h
    omega
  rw [get?, pair?_of_lt s hpair]

theorem label_sampleAt (k : Nat) : (s.sampleAt k).label = if k % 2 = 0 then 1 else 0 := by
  rw [sampleAt]
  split <;> rfl

/-! ## In a row -/

theorem pairs_eq_map : s.pairs = (List.range (s.points + 1)).map s.pairAt := by
  refine List.filterMap_eq_map_iff_forall_eq_some.2 fun i hi => ?_
  rw [pair?_of_le s (Nat.le_of_lt_succ (List.mem_range.1 hi))]
  rfl

theorem flatMap_pairAt (n : Nat) :
    ((List.range n).map s.pairAt).flatMap (fun (p, q) => [p, q]) =
      (List.range (2 * n)).map s.sampleAt := by
  induction n with
  | zero => rfl
  | succ n ih =>
    rw [List.range_succ, List.map_append, List.flatMap_append, ih, Nat.mul_succ, List.range_succ,
      List.range_succ, List.map_append, List.map_append, List.append_assoc]
    simp only [List.map_singleton, sampleAt_two_mul, sampleAt_two_mul_add_one]
    rfl

/-- The row of the samples has all of them, each at its index. -/
theorem samples_eq_map : s.samples = (List.range s.length).map s.sampleAt := by
  rw [samples, pairs_eq_map, flatMap_pairAt, length]

theorem length_samples : s.samples.length = s.length := by
  rw [samples_eq_map, List.length_map, List.length_range]

theorem getElem_samples {k : Nat} (h : k < s.samples.length) : s.samples[k] = s.sampleAt k := by
  simp only [samples_eq_map, List.getElem_map, List.getElem_range]

/-! ## Parts of the row -/

variable (skip take : Nat)

theorem slice_eq_map :
    s.slice skip take = (List.range' skip (min take (s.length - skip))).map s.sampleAt := by
  refine List.filterMap_eq_map_iff_forall_eq_some.2 fun k hk => ?_
  have hlt : k < s.length := by
    have := List.mem_range'_1.1 hk
    omega
  rw [get?_of_lt s hlt]
  rfl

theorem take_drop_samples : (s.samples.drop skip).take take = s.slice skip take := by
  rw [slice_eq_map, samples_eq_map, ← List.map_drop, ← List.map_take, List.range_eq_range',
    List.drop_range', Nat.zero_add, Nat.mul_one]
  rcases Nat.le_total take (s.length - skip) with h | h
  · rw [List.take_range'_of_length_ge h, Nat.min_eq_left h]
  · rw [List.take_range'_of_length_le h, Nat.min_eq_right h]

theorem length_slice : (s.slice skip take).length = min take (s.length - skip) := by
  rw [slice_eq_map, List.length_map, List.length_range']

theorem getElem_slice {j : Nat} (h : j < (s.slice skip take).length) :
    s.get? (skip + j) = .ok (s.slice skip take)[j] := by
  have hlt : skip + j < s.length := by
    rw [length_slice] at h
    omega
  rw [get?_of_lt s hlt]
  simp only [slice_eq_map, List.getElem_map, List.getElem_range', Nat.one_mul]

/-! ## All three ways -/

/-- The row has a sample for each index below `length` and no other.  The sample of an index is the
one that `get?` has for it, which is one of the pair that `pair?` has for half the index, and its
label tells the arm.  Past the last one there is nothing to be had, in a part of the row as little
as by index. -/
theorem samples_indexed (s : Spiral) :
    s.pairs.length = s.points + 1 ∧ s.samples.length = s.length ∧ s.length = 2 * (s.points + 1) ∧
    (s.points ≤ 2 ^ 63 - 2 → s.length < Count.limit) ∧
    (∀ (k : Nat) (hk : k < s.samples.length), s.get? k = .ok s.samples[k] ∧
      s.samples[k].label = (if k % 2 = 0 then 1 else 0) ∧
      ∃ p q, s.pair? (k / 2) = .ok (p, q) ∧ s.samples[k] = if k % 2 = 0 then p else q) ∧
    (∀ i, (i ≤ s.points → ∃ p q, s.pair? i = .ok (p, q)) ∧
      (s.points < i → s.pair? i = .error ⟨i, s.points + 1⟩)) ∧
    (∀ index, (index < s.length → ∃ p, s.get? index = .ok p) ∧
      (s.length ≤ index → s.get? index = .error ⟨index, s.length⟩)) ∧
    ∀ skip take, (s.samples.drop skip).take take = s.slice skip take ∧
      (s.slice skip take).length = min take (s.length - skip) ∧
      ∀ (j : Nat) (hj : j < (s.slice skip take).length),
        s.get? (skip + j) = .ok (s.slice skip take)[j] := by
  refine ⟨?_, s.length_samples, rfl, ?_, ?_, ?_, ?_, ?_⟩
  · rw [pairs_eq_map, List.length_map, List.length_range]
  · intro h
    have hlimit : Count.limit = 2 * 2 ^ 63 := rfl
    rw [length, hlimit]
    omega
  · intro k hk
    have hlt : k < s.length := s.length_samples ▸ hk
    have hpair : k / 2 ≤ s.points := by
      unfold length at hlt
      omega
    rw [s.getElem_samples hk]
    exact ⟨s.get?_of_lt hlt, s.label_sampleAt k, _, _, s.pair?_of_le hpair, rfl⟩
  · exact fun i => ⟨fun h => ⟨_, _, s.pair?_of_le h⟩, s.pair?_of_lt⟩
  · exact fun index => ⟨fun h => ⟨_, s.get?_of_lt h⟩, s.get?_of_le⟩
  · exact fun skip take => ⟨s.take_drop_samples skip take, s.length_slice skip take,
      fun j hj => s.getElem_slice skip take hj⟩

theorem samples_indexed_no_divisor :
    let s : Spiral := { points := 3, divisor := 0, decay := 0 }
    (∃ (h : 7 < s.samples.length), s.get? 7 = .ok s.samples[7] ∧ s.samples[7].label = 0) ∧
      (∃ p q, s.pair? 3 = .ok (p, q)) ∧ s.pair? 4 = .error ⟨4, 4⟩ ∧
      s.get? 8 = .error ⟨8, 8⟩ ∧ s.length < Count.limit ∧
      ((s.samples.drop 5).take 9).length = 3 ∧
      ∃ h : 2 < (s.slice 5 9).length, s.get? 7 = .ok (s.slice 5 9)[2] := by
  intro s
  obtain ⟨-, hlength, -, hfits, hsample, hpair, hget, hslice⟩ := samples_indexed s
  have h7 : 7 < s.samples.length := by
    rw [hlength]
    decide
  obtain ⟨htake, hcount, hpart⟩ := hslice 5 9
  have h2 : 2 < (s.slice 5 9).length := by
    rw [hcount]
    decide
  refine ⟨⟨h7, (hsample 7 h7).1, (hsample 7 h7).2.1⟩, (hpair 3).1 (by decide), (hpair 4).2 (by decide),
    (hget 8).2 (by decide), hfits (by decide), ?_, h2, hpart 2 h2⟩
  rw [htake, hcount]
  rfl

end TwoSpirals.Spiral
