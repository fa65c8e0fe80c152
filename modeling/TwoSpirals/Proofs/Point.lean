import TwoSpirals.Point
import TwoSpirals.Proofs.Double.Fixed
import TwoSpirals.Proofs.Text.Lines

/-!
# Points as text

The lines of a text are told apart by their breaks and the three numbers of a line by the blanks
between them (`words_line`), so the text gives back a decimal for each number of each point
(`pointsText_decodes`).  A number that leaves its column wide enough stands with its decimal point
where those of the other lines have theirs (`Narrow.aligned`).
-/

namespace TwoSpirals

open Double (fixed toRat sign signed shown value? Shows)
open Text (words)

/-! ## Lines and words -/

theorem Double.blank_not_mem_fixed (k : ℕ) (x : Float) : ' ' ∉ fixed (k + 1) x :=
  not_mem_fixed (by decide) (by decide) k x

theorem Double.newline_not_mem_fixed (k : ℕ) (x : Float) : '\n' ∉ fixed (k + 1) x :=
  not_mem_fixed (by decide) (by decide) k x

namespace LabeledPoint

variable {p : LabeledPoint}

theorem words_line (p : LabeledPoint) :
    words p.line = [fixed 5 p.x, fixed 5 p.y, fixed 1 p.label] := by
  rw [line, Text.words_leftpad_append 8 (Double.fixed_ne_nil 4 _) (Double.blank_not_mem_fixed 4 _),
    Text.words_leftpad_append 8 (Double.fixed_ne_nil 4 _) (Double.blank_not_mem_fixed 4 _),
    Text.words_leftpad 3 (Double.fixed_ne_nil 0 _) (Double.blank_not_mem_fixed 0 _)]

theorem newline_not_mem_line (p : LabeledPoint) : '\n' ∉ p.line := by
  have hpad : ∀ (n k : ℕ) (x : Float), '\n' ∉ (fixed (k + 1) x).leftpad n ' ' := by
    intro n k x
    rw [List.leftpad, List.mem_append, not_or]
    exact ⟨mt List.eq_of_mem_replicate (by decide), Double.newline_not_mem_fixed k x⟩
  simp only [line, List.mem_append, List.mem_cons, not_or]
  exact ⟨hpad 8 4 _, by decide, hpad 8 4 _, by decide, hpad 3 0 _⟩

theorem splitOn_pointsText (points : List LabeledPoint) :
    (pointsText points).toList.splitOn '\n' = points.map line ++ [[]] := by
  rw [pointsText, String.toList_ofList,
    Text.splitOn_flatMap_lines line fun p _ => newline_not_mem_line p]

/-! ## Columns -/

/-- A column of a width has the word alone, with its decimal point at the place `point`. -/
structure IsColumn (width point : ℕ) (word cs : List Char) : Prop where
  length_eq : cs.length = width
  words_eq : words cs = [word]
  getElem?_point : cs[point]? = some '.'

/-- The numbers stand in columns of one width, and so do their decimal points. -/
structure Aligned (p : LabeledPoint) : Prop where
  length_line : p.line.length = 21
  exists_columns : ∃ a b c, p.line = a ++ ' ' :: (b ++ ' ' :: c) ∧ IsColumn 8 2 (fixed 5 p.x) a ∧
    IsColumn 8 2 (fixed 5 p.y) b ∧ IsColumn 3 1 (fixed 1 p.label) c

/-- The numbers do not need more than the width of their columns. -/
structure Narrow (p : LabeledPoint) : Prop where
  isFinite_x : p.x.isFinite = true
  x_range : -9.999995 < toRat p.x ∧ toRat p.x < 99.999995
  isFinite_y : p.y.isFinite = true
  y_range : -9.999995 < toRat p.y ∧ toRat p.y < 99.999995
  isFinite_label : p.label.isFinite = true
  label_range : 0 ≤ toRat p.label ∧ toRat p.label < 9.95
  sign_label : sign p.label = .positive

/-- All places behind the point are written, so the point is as far from the end of the column in
one line as in another. -/
theorem isColumn_leftpad {k w : ℕ} {x : Float} (hx : x.isFinite = true)
    (h : (fixed (k + 1) x).length ≤ k + 2 + w) :
    IsColumn (k + 2 + w) w (fixed (k + 1) x) ((fixed (k + 1) x).leftpad (k + 2 + w) ' ') where
  length_eq := by rw [List.length_leftpad, max_eq_left h]
  words_eq := Text.words_leftpad _ (Double.fixed_ne_nil k x) (Double.blank_not_mem_fixed k x)
  getElem?_point := by
    obtain ⟨whole, fraction, hfixed, -, hlength, -⟩ := (Double.shows_fixed k x).of_isFinite hx
    have hcount : (fixed (k + 1) x).length = (signText (sign x) ++ whole).length + (k + 2) := by
      rw [hfixed, List.length_append, List.length_cons, hlength]
    rw [List.leftpad]
    generalize hblanks : List.replicate (k + 2 + w - (fixed (k + 1) x).length) ' ' = blanks
    have hw : (blanks ++ (signText (sign x) ++ whole)).length = w := by
      rw [List.length_append, ← hblanks, List.length_replicate]
      omega
    rw [hfixed, ← List.append_assoc, List.getElem?_append_right hw.le, hw, Nat.sub_self]
    rfl

theorem length_fixed_coordinate_le {x : Float} (hx : x.isFinite = true) (hlow : -9.999995 < toRat x)
    (hhigh : toRat x < 99.999995) : (fixed 5 x).length ≤ 8 := by
  have hsigned := Double.signed_sign_abs_toRat hx
  -- A minus takes the place of one of the two digits before the point.
  cases hs : sign x with
  | negative =>
    rw [hs] at hsigned
    change -|toRat x| = _ at hsigned
    have hle := Double.length_fixed_le (k := 4) (w := 6) hx (by decide) (by linarith)
    rwa [hs] at hle
  | positive =>
    rw [hs] at hsigned
    change |toRat x| = _ at hsigned
    have hle := Double.length_fixed_le (k := 4) (w := 7) hx (by decide) (by linarith)
    rwa [hs] at hle

theorem Narrow.aligned (h : Narrow p) : Aligned p := by
  have hx := isColumn_leftpad (k := 4) (w := 2) h.isFinite_x
    (length_fixed_coordinate_le h.isFinite_x h.x_range.1 h.x_range.2)
  have hy := isColumn_leftpad (k := 4) (w := 2) h.isFinite_y
    (length_fixed_coordinate_le h.isFinite_y h.y_range.1 h.y_range.2)
  have hlabel : (fixed 1 p.label).length ≤ 3 := by
    have hle := Double.length_fixed_le (k := 0) (w := 2) h.isFinite_label (by decide) (by
      rw [abs_of_nonneg h.label_range.1]
      linarith [h.label_range.2])
    rwa [h.sign_label] at hle
  have hl := isColumn_leftpad (k := 0) (w := 1) h.isFinite_label hlabel
  refine ⟨?_, _, _, _, rfl, hx, hy, hl⟩
  rw [line, List.length_append, List.length_cons, List.length_append, List.length_cons]
  exact congrArg₂ _ hx.length_eq (congrArg Nat.succ (congrArg₂ _ hy.length_eq
    (congrArg Nat.succ hl.length_eq)))

end LabeledPoint

/-! ## The text -/

theorem Double.exists_value?_fixed {x : Float} (hx : x.isFinite = true) (k : ℕ) :
    ∃ q, value? (fixed (k + 1) x) = some q ∧ |q - toRat x| ≤ 1 / 2 / 10 ^ (k + 1) :=
  ⟨_, value?_fixed hx k, abs_shown_sub_toRat_le hx (k + 1)⟩

/-- The text has a line for each point, in order, with a line break behind it and none in it.  A
line is three words, which say what the three numbers are.  The word of a finite number is read as
the decimal nearest to it, and a larger number has no smaller decimal.  The lines of narrow points
have one width and are aligned. -/
theorem pointsText_decodes (points : List LabeledPoint) :
    (pointsText points).toList.splitOn '\n' = points.map LabeledPoint.line ++ [[]] ∧
    (∀ p ∈ points, words p.line = [fixed 5 p.x, fixed 5 p.y, fixed 1 p.label] ∧
      Shows 5 p.x (fixed 5 p.x) ∧ Shows 5 p.y (fixed 5 p.y) ∧ Shows 1 p.label (fixed 1 p.label) ∧
      (p.x.isFinite = true → ∃ q, value? (fixed 5 p.x) = some q ∧ |q - toRat p.x| ≤ 5e-6) ∧
      (p.y.isFinite = true → ∃ q, value? (fixed 5 p.y) = some q ∧ |q - toRat p.y| ≤ 5e-6) ∧
      (p.label.isFinite = true →
        ∃ q, value? (fixed 1 p.label) = some q ∧ |q - toRat p.label| ≤ 5e-2) ∧
      (p.Narrow → p.Aligned)) ∧
    ∀ places ∈ [5, 1], ∀ x y : Float, x.isFinite = true → y.isFinite = true → x ≤ y →
      ∀ q ∈ value? (fixed places x), ∀ r ∈ value? (fixed places y), q ≤ r := by
  have hfive : (1 / 2 / 10 ^ (4 + 1) : ℚ) = 5e-6 := by norm_num
  have hone : (1 / 2 / 10 ^ (0 + 1) : ℚ) = 5e-2 := by norm_num
  refine ⟨LabeledPoint.splitOn_pointsText points, fun p _ => ⟨p.words_line,
    Double.shows_fixed 4 p.x, Double.shows_fixed 4 p.y, Double.shows_fixed 0 p.label, ?_, ?_, ?_,
    LabeledPoint.Narrow.aligned⟩, ?_⟩
  · exact fun hx => hfive ▸ Double.exists_value?_fixed hx 4
  · exact fun hy => hfive ▸ Double.exists_value?_fixed hy 4
  · exact fun hlabel => hone ▸ Double.exists_value?_fixed hlabel 0
  · intro places hplaces x y hx hy hxy q hq r hr
    obtain ⟨k, rfl⟩ : ∃ k, places = k + 1 := by
      rcases List.mem_pair.1 hplaces with rfl | rfl
      · exact ⟨4, rfl⟩
      · exact ⟨0, rfl⟩
    rw [Double.value?_fixed hx k] at hq
    rw [Double.value?_fixed hy k] at hr
    obtain rfl := Option.some.inj hq
    obtain rfl := Option.some.inj hr
    exact Double.shown_mono hx hy hxy (k + 1)

/-- A tie, a negative zero and a label. -/
theorem pointsText_decodes_tie :
    let p : LabeledPoint := ⟨0.015625, -0.0, 1⟩
    (pointsText [p]).toList.splitOn '\n' = [p.line, []] ∧
    words p.line = ["0.01562".toList, "-0.00000".toList, "1.0".toList] ∧
    (∃ q, value? "0.01562".toList = some q ∧ |q - 1 / 64| ≤ 5e-6) ∧
    (∃ q, value? "-0.00000".toList = some q ∧ |q| ≤ 5e-6 ∧
      ∀ r ∈ value? "0.01562".toList, q ≤ r) ∧
    (∃ q, value? "1.0".toList = some q ∧ |q - 1| ≤ 5e-2) ∧ p.Aligned := by
  intro p
  have hx : toRat 0.015625 = 1 / 64 := by
    have hu : (0.015625 : Float).toModel.unpack =
        .finite .positive (2 ^ 52) (-58) (by norm_num) := rfl
    rw [Double.toRat_of_unpack hu, signed]
    norm_num
  have hy : toRat (-0.0) = 0 := rfl
  have hlabel : toRat 1 = 1 := by
    have hu : (1 : Float).toModel.unpack = .finite .positive (2 ^ 52) (-52) (by norm_num) := rfl
    rw [Double.toRat_of_unpack hu, signed]
    norm_num
  have hsign : sign 1 = .positive := rfl
  have hfinx : (0.015625 : Float).isFinite = true := rfl
  have hfiny : (-0.0 : Float).isFinite = true := rfl
  have hfinl : (1 : Float).isFinite = true := rfl
  have hnarrow : p.Narrow := by
    refine ⟨hfinx, ?_, hfiny, ?_, hfinl, ?_, hsign⟩ <;> simp only [p, hx, hy, hlabel] <;> norm_num
  have htext : fixed 5 p.x = "0.01562".toList ∧ fixed 5 p.y = "-0.00000".toList ∧
      fixed 1 p.label = "1.0".toList := by decide +kernel
  obtain ⟨hlines, hpoints, hmono⟩ := pointsText_decodes [p]
  obtain ⟨hwords, -, -, -, hnearx, hneary, hnearl, haligned⟩ := hpoints p List.mem_cons_self
  obtain ⟨q, hq, herr⟩ := hneary hfiny
  have hle := hmono 5 (by decide) p.y p.x hfiny hfinx (by decide) q hq
  rw [htext.1, htext.2.1, htext.2.2] at hwords
  rw [htext.2.1] at hq
  rw [htext.1] at hle hnearx
  rw [htext.2.2, hlabel] at hnearl
  rw [hx] at hnearx
  rw [hy, sub_zero] at herr
  exact ⟨hlines, hwords, hnearx hfinx, ⟨q, hq, herr, hle⟩, hnearl hfinl, haligned hnarrow⟩

end TwoSpirals
