import TwoSpirals.Proofs.Single.Text

/-!
# JSON values through text and back

`Json.Readable` says which values can be written without loss: those with real numbers and with
names that need no more than quotes.  `Json.ofText?` reads every one of them from its pretty text as
it was (`ofText?_pretty`).
-/

namespace TwoSpirals

open Float.Model (UnpackedFloat)

namespace Json

variable {cs rest : List Char}

/-! ## Numbers -/

/-- What follows a number is not part of one. -/
def Delimited (rest : List Char) : Prop := ∀ c ∈ rest.head?, isNumeric c = false

theorem number?_append (hcs : ∀ c ∈ cs, isNumeric c = true) (hrest : Delimited rest) :
    number? (cs ++ rest) = (ofNumber? cs).map (·, rest) := by
  rw [number?, takeWhile_append_of_head? hcs hrest, dropWhile_append_of_head? hcs hrest]

theorem ofNumber?_of_isDigit {c : Char} (hc : c.isDigit = true) (cs : List Char) :
    ofNumber? (c :: cs) =
      if (c :: cs).all Char.isDigit then
        if isWhole (c :: cs) then some (.natural (Single.digitsValue (c :: cs))) else none
      else (magnitude? (c :: cs)).map .single := by
  unfold ofNumber?
  split
  next h => exact absurd hc (by rw [(List.cons.inj h).1]; decide)
  next => rfl

theorem isWhole_toDigits (n : ℕ) : isWhole (Nat.toDigits 10 n) = true := by
  rcases Nat.eq_zero_or_pos n with rfl | hn
  · rfl
  · exact Decimal.isWhole_of_head? Nat.toDigits_ne_nil (head?_toDigits hn)

theorem ofNumber?_toDigits (n : ℕ) : ofNumber? (Nat.toDigits 10 n) = some (.natural n) := by
  obtain ⟨c, cs, h⟩ := List.exists_cons_of_ne_nil (@Nat.toDigits_ne_nil n 10)
  have hdigits : ∀ c ∈ Nat.toDigits 10 n, c.isDigit = true := fun c => isDigit_of_mem_toDigits
  have hwhole := isWhole_toDigits n
  have hvalue := digitsValue_toDigits n
  rw [h] at hdigits hwhole hvalue ⊢
  rw [ofNumber?_of_isDigit (hdigits c List.mem_cons_self), if_pos (List.all_eq_true.2 hdigits),
    if_pos hwhole, hvalue]

section Numeral

variable (n : Numeral)

theorem isPointed_rest : isPointed n.rest = true := by
  rw [Numeral.rest]
  split_ifs with hf
  · rw [List.nil_append]
    unfold isPointed
    split
    next h => exact absurd rfl (n.isDigit_of_mem_head?_tail (by rw [h]; rfl)).2
    next => rfl
  · obtain ⟨c, cs, h⟩ := List.exists_cons_of_ne_nil hf
    rw [h]
    exact n.isDigit_fraction c (h ▸ List.mem_cons_self)

theorem magnitude?_chars (h : isWhole n.whole = true) :
    magnitude? n.chars = some (Single.ofDecimal n.decimal) := by
  rw [magnitude?, n.spanDigits_chars]
  dsimp only
  rw [if_pos ⟨h, isPointed_rest n⟩, n.decimal?_chars, Option.map_some]

theorem ofNumber?_signText_chars (s : UnpackedFloat.Sign) (h : isWhole n.whole = true)
    (hrest : n.rest ≠ []) :
    ofNumber? (signText s ++ n.chars) =
      some (.single (Single.withSign s (Single.ofDecimal n.decimal))) := by
  have hmag := magnitude?_chars n h
  cases s with
  | negative =>
    show Option.map _ (magnitude? n.chars) = _
    rw [hmag]
    rfl
  | positive =>
    obtain ⟨c, cs, hcons, hc⟩ := n.exists_chars_eq_cons
    have hall : ¬ n.chars.all Char.isDigit = true := by
      obtain ⟨d, ds, hd⟩ := List.exists_cons_of_ne_nil hrest
      have hdigit : d.isDigit = false := n.isDigit_of_mem_head?_rest (by rw [hd]; rfl)
      intro hall
      have := List.all_eq_true.1 hall d (by simp [Numeral.chars, hd])
      exact Bool.false_ne_true (hdigit.symm.trans this)
    show ofNumber? n.chars = _
    rw [hcons] at hmag hall ⊢
    rw [ofNumber?_of_isDigit hc, if_neg hall, hmag]
    rfl

end Numeral

/-- A real number in JSON is a sign and a numeral that reads as the number. -/
theorem exists_jsonChars_eq {x : Float32} (hx : x.isFinite = true) :
    ∃ s, ∃ n : Numeral, Single.jsonChars x = signText s ++ n.chars ∧
      isWhole n.whole = true ∧ n.rest ≠ [] ∧
      Single.withSign s (Single.ofDecimal n.decimal) = x := by
  change x.toModel.unpack.isFinite = true at hx
  rw [Single.jsonChars]
  split
  next h => rw [h] at hx; exact nomatch hx
  next h => rw [h] at hx; exact nomatch hx
  next s h =>
    refine ⟨s, .ofZeros 0 0 1, rfl, rfl, by decide, ?_⟩
    exact (Single.withSign_zero s).trans (Single.eq_ofModel_pack h).symm
  next s m e hm h =>
    have hc : Single.Canonical m e := Single.canonical_of_unpack h
    obtain ⟨n, hn, hval, hwhole, hrest⟩ :=
      Decimal.exists_numeral_jsonChars (Single.digits_shortest_pos hc)
    refine ⟨s, n, by rw [hn], hwhole, hrest, ?_⟩
    rw [Single.ofDecimal_of_toRat_eq hc hval, Single.withSign_finite s hc, Single.eq_ofModel_pack h]

theorem number?_toDigits (n : ℕ) (hrest : Delimited rest) :
    number? (Nat.toDigits 10 n ++ rest) = some (.natural n, rest) := by
  rw [number?_append (fun c hc => isNumeric_of_isDigit (isDigit_of_mem_toDigits hc)) hrest,
    ofNumber?_toDigits, Option.map_some]

theorem number?_jsonChars {x : Float32} (hx : x.isFinite = true) (hrest : Delimited rest) :
    number? (Single.jsonChars x ++ rest) = some (.single x, rest) := by
  obtain ⟨s, n, hchars, hwhole, hne, hval⟩ := exists_jsonChars_eq hx
  have hnumeric : ∀ c ∈ signText s ++ n.chars, isNumeric c = true := by
    intro c hc
    rcases List.mem_append.1 hc with hc | hc
    · cases s with
      | positive => exact absurd hc List.not_mem_nil
      | negative =>
        obtain rfl := List.mem_singleton.1 hc
        rfl
    · exact n.isNumeric_of_mem_chars hc
  rw [hchars, number?_append hnumeric hrest, ofNumber?_signText_chars n s hwhole hne, hval,
    Option.map_some]

/-! ## Blanks and marks -/

/-- Whether a character stands between the parts of a value. -/
def IsBlank (c : Char) : Prop := c ∈ [' ', '\n', '\r', '\t']

instance (c : Char) : Decidable (IsBlank c) := inferInstanceAs (Decidable (c ∈ _))

theorem skipBlanks_newline_append (level : ℕ) (cs : List Char) :
    skipBlanks (newline level ++ cs) = skipBlanks cs := by
  rw [skipBlanks, List.dropWhile_append_of_pos]
  · rfl
  · intro c hc
    rcases List.mem_cons.1 hc with rfl | hc
    · rfl
    · rw [List.eq_of_mem_replicate hc]
      rfl

theorem skipBlanks_blank_cons (cs : List Char) : skipBlanks (' ' :: cs) = skipBlanks cs := rfl

theorem skipBlanks_cons {c : Char} (hc : ¬ IsBlank c) (cs : List Char) :
    skipBlanks (c :: cs) = c :: cs := by
  rw [skipBlanks, List.dropWhile_cons_of_neg (by rwa [decide_eq_true_iff])]

theorem mark?_newline_append (mark : Char) (level : ℕ) (cs : List Char) :
    mark? mark (newline level ++ cs) = mark? mark cs := by
  rw [mark?, mark?, skipBlanks_newline_append]

theorem mark?_cons {c : Char} (hc : ¬ IsBlank c) (mark : Char) (cs : List Char) :
    mark? mark (c :: cs) = if c = mark then some cs else none := by
  rw [mark?, skipBlanks_cons hc]

theorem value?_congr {cs cs' : List Char} (h : skipBlanks cs = skipBlanks cs') (fuel : ℕ) :
    value? fuel cs = value? fuel cs' := by
  cases fuel with
  | zero => rfl
  | succ fuel => rw [value?, value?, h]

theorem items?_newline_append (fuel level : ℕ) (cs : List Char) :
    items? fuel (newline level ++ cs) = items? fuel cs := by
  cases fuel with
  | zero => rfl
  | succ fuel => rw [items?, items?, value?_congr (skipBlanks_newline_append level cs)]

theorem fields?_newline_append (fuel level : ℕ) (cs : List Char) :
    fields? fuel (newline level ++ cs) = fields? fuel cs := by
  cases fuel with
  | zero => rfl
  | succ fuel => rw [fields?, fields?, name?, name?, mark?_newline_append]

theorem name?_append {name : String} (h : name.toList.all isPlain = true) (rest : List Char) :
    name? ('"' :: name.toList ++ '"' :: rest) = some (name, rest) := by
  have hname := List.all_eq_true.1 h
  have hquote : ∀ c ∈ ('"' :: rest).head?, isPlain c = false := by
    rintro c hc
    obtain rfl : '"' = c := by simpa using hc
    rfl
  rw [name?, List.cons_append, mark?_cons (by decide), if_pos rfl]
  simp only [Option.bind_eq_bind, Option.bind_some, dropWhile_append_of_head? hname hquote,
    takeWhile_append_of_head? hname hquote, String.ofList_toList]
  rfl

/-! ## Readable values -/

mutual

/-- The numbers are real ones and the names need nothing but quotes. -/
def Readable : Json → Prop
  | natural _ => True
  | single x => x.isFinite = true
  | array items => ReadableItems items
  | object fields => ReadableFields fields

/-- All items are readable. -/
def ReadableItems : List Json → Prop
  | [] => True
  | item :: items => Readable item ∧ ReadableItems items

/-- All names need nothing but quotes, and all values are readable. -/
def ReadableFields : List (String × Json) → Prop
  | [] => True
  | (name, value) :: fields =>
    name.toList.all isPlain = true ∧ Readable value ∧ ReadableFields fields

end

theorem exists_toDigits_eq_cons (n : ℕ) :
    ∃ c cs, Nat.toDigits 10 n = c :: cs ∧ (c.isDigit = true ∨ c = '-') := by
  obtain ⟨c, cs, h⟩ := List.exists_cons_of_ne_nil (@Nat.toDigits_ne_nil n 10)
  exact ⟨c, cs, h, .inl (isDigit_of_mem_toDigits (h ▸ List.mem_cons_self))⟩

theorem exists_jsonChars_eq_cons {x : Float32} (hx : x.isFinite = true) :
    ∃ c cs, Single.jsonChars x = c :: cs ∧ (c.isDigit = true ∨ c = '-') := by
  obtain ⟨s, n, hchars, -⟩ := exists_jsonChars_eq hx
  obtain ⟨c, cs, h, hc⟩ := n.exists_chars_eq_cons
  rw [hchars, h]
  cases s with
  | positive => exact ⟨c, cs, rfl, .inl hc⟩
  | negative => exact ⟨'-', c :: cs, rfl, .inr rfl⟩

/-- A written value starts with a digit, a minus sign or an opening bracket. -/
theorem exists_prettyChars_eq_cons {j : Json} (hj : j.Readable) (level : ℕ) :
    ∃ c cs, j.prettyChars level = c :: cs ∧
      (c.isDigit = true ∨ c = '-' ∨ c = '[' ∨ c = '\x7b') := by
  cases j with
  | natural n =>
    obtain ⟨c, cs, h, hc⟩ := exists_toDigits_eq_cons n
    rw [prettyChars]
    exact ⟨c, cs, h, hc.imp_right .inl⟩
  | single x =>
    obtain ⟨c, cs, h, hc⟩ := exists_jsonChars_eq_cons (by rwa [Readable] at hj)
    rw [prettyChars]
    exact ⟨c, cs, h, hc.imp_right .inl⟩
  | array items =>
    rw [prettyChars]
    cases prettyItems (level + 1) items <;> exact ⟨'[', _, rfl, by decide⟩
  | object fields =>
    rw [prettyChars]
    cases prettyFields (level + 1) fields <;> exact ⟨'\x7b', _, rfl, by decide⟩

/-! ## Lines -/

/-- Texts with commas between them, each but the first on a line of its own. -/
def lines (level : ℕ) : List (List Char) → List Char
  | [] => []
  | [text] => text
  | text :: text' :: texts => text ++ ',' :: (newline level ++ lines level (text' :: texts))

theorem lines_cons (level : ℕ) (text : List Char) (texts : List (List Char)) :
    lines level (text :: texts) =
      text ++ texts.flatMap fun text => ',' :: newline level ++ text := by
  induction texts generalizing text with
  | nil => simp [lines]
  | cons text' texts ih =>
    rw [lines, ih text']
    simp

theorem block_of_ne_nil (left right : Char) (level : ℕ) {texts : List (List Char)}
    (h : texts ≠ []) (rest : List Char) :
    block left right level texts ++ rest =
      left :: (newline (level + 1) ++ (lines (level + 1) texts ++
        (newline level ++ right :: rest))) := by
  obtain ⟨text, texts, rfl⟩ := List.exists_cons_of_ne_nil h
  rw [block, lines_cons]
  simp

theorem delimited_cons {c : Char} (hc : isNumeric c = false) (rest : List Char) :
    Delimited (c :: rest) := by
  intro d hd
  obtain rfl : c = d := by simpa using hd
  exact hc

theorem delimited_newline_append (level : ℕ) (rest : List Char) :
    Delimited (newline level ++ rest) := delimited_cons rfl _

theorem length_block (left right : Char) (level : ℕ) {texts : List (List Char)} (h : texts ≠ []) :
    (lines (level + 1) texts).length + 4 ≤ (block left right level texts).length := by
  have hblock := congrArg List.length (block_of_ne_nil left right level h [])
  simp only [List.append_nil, List.length_append, List.length_cons, newline, List.length_replicate,
    List.length_nil] at hblock
  omega

/-! ## Parts of a value -/

theorem not_isBlank_of_isDigit {c : Char} (hc : c.isDigit = true) : ¬ IsBlank c := by
  intro h
  simp only [IsBlank, List.mem_cons, List.not_mem_nil, or_false] at h
  rcases h with rfl | rfl | rfl | rfl <;> exact absurd hc (by decide)

theorem value?_of_number (fuel : ℕ) {c : Char} (hc : c.isDigit = true ∨ c = '-')
    (cs : List Char) : value? (fuel + 1) (c :: cs) = number? (c :: cs) := by
  have hblank : ¬ IsBlank c := hc.elim not_isBlank_of_isDigit fun h => by rw [h]; decide
  rw [value?, skipBlanks_cons hblank]
  split
  next h =>
    rw [(List.cons.inj h).1] at hc
    exact absurd hc (by decide)
  next h =>
    rw [(List.cons.inj h).1] at hc
    exact absurd hc (by decide)
  next => rfl

/-- Characters that make a number are read as one, with a unit of fuel to each. -/
theorem value?_of_number?_eq_some {j : Json} {chars rest : List Char} {fuel : ℕ}
    (h : ∃ c cs, chars = c :: cs ∧ (c.isDigit = true ∨ c = '-'))
    (hnumber : number? (chars ++ rest) = some (j, rest)) (hfuel : chars.length ≤ fuel) :
    value? fuel (chars ++ rest) = some (j, rest) := by
  obtain ⟨c, cs, rfl, hc⟩ := h
  cases fuel with
  | zero => exact absurd hfuel (by simp)
  | succ fuel => rw [List.cons_append, value?_of_number fuel hc, ← List.cons_append, hnumber]

theorem value?_bracket (fuel : ℕ) {cs : List Char} (h : mark? ']' cs = none) :
    value? (fuel + 1) ('[' :: cs) =
      (items? fuel cs).map fun (items, rest) => (array items, rest) := by
  rw [value?, skipBlanks_cons (by decide)]
  simp only [h]

theorem value?_brace (fuel : ℕ) {cs : List Char} (h : mark? '\x7d' cs = none) :
    value? (fuel + 1) ('\x7b' :: cs) =
      (fields? fuel cs).map fun (fields, rest) => (object fields, rest) := by
  rw [value?, skipBlanks_cons (by decide)]
  simp only [h]

theorem value?_empty_array (fuel : ℕ) (rest : List Char) :
    value? (fuel + 1) ('[' :: ']' :: rest) = some (array [], rest) := by
  rw [value?, skipBlanks_cons (by decide)]
  simp only [mark?_cons (c := ']') (by decide), if_true]

theorem value?_empty_object (fuel : ℕ) (rest : List Char) :
    value? (fuel + 1) ('\x7b' :: '\x7d' :: rest) = some (object [], rest) := by
  rw [value?, skipBlanks_cons (by decide)]
  simp only [mark?_cons (c := '\x7d') (by decide), if_true]

theorem items?_last (fuel level : ℕ) {item : Json} {cs rest : List Char}
    (h : value? fuel cs = some (item, newline level ++ ']' :: rest)) :
    items? (fuel + 1) cs = some ([item], rest) := by
  rw [items?, h]
  simp only [Option.bind_eq_bind, Option.bind_some, mark?_newline_append,
    mark?_cons (c := ']') (by decide), if_true]
  rfl

theorem items?_cons (fuel : ℕ) {item : Json} {items : List Json} {cs cs' rest : List Char}
    (h : value? fuel cs = some (item, ',' :: cs')) (h' : items? fuel cs' = some (items, rest)) :
    items? (fuel + 1) cs = some (item :: items, rest) := by
  rw [items?, h]
  simp only [Option.bind_eq_bind, Option.bind_some, mark?_cons (c := ',') (by decide), if_true, h']
  rfl

theorem fields?_last (fuel level : ℕ) {name : String} {value : Json} {cs cs' rest : List Char}
    (hname : name? cs = some (name, ':' :: cs'))
    (h : value? fuel cs' = some (value, newline level ++ '\x7d' :: rest)) :
    fields? (fuel + 1) cs = some ([(name, value)], rest) := by
  rw [fields?, hname]
  simp only [Option.bind_eq_bind, Option.bind_some, mark?_cons (c := ':') (by decide), if_true, h,
    mark?_newline_append, mark?_cons (c := '\x7d') (by decide)]
  rfl

theorem fields?_cons (fuel : ℕ) {name : String} {value : Json} {fields : List (String × Json)}
    {cs cs' cs'' rest : List Char} (hname : name? cs = some (name, ':' :: cs'))
    (h : value? fuel cs' = some (value, ',' :: cs''))
    (h' : fields? fuel cs'' = some (fields, rest)) :
    fields? (fuel + 1) cs = some ((name, value) :: fields, rest) := by
  rw [fields?, hname]
  simp only [Option.bind_eq_bind, Option.bind_some, mark?_cons (c := ':') (by decide), if_true, h,
    mark?_cons (c := ',') (by decide), h']
  rfl

/-! ## Reading what is written -/

/-- The text of a field. -/
theorem prettyFields_cons (level : ℕ) (name : String) (value : Json)
    (fields : List (String × Json)) :
    prettyFields level ((name, value) :: fields) =
      ('"' :: name.toList ++ '"' :: ':' :: ' ' :: value.prettyChars level) ::
        prettyFields level fields := by
  rw [prettyFields]

theorem mark?_lines_prettyItems {item : Json} (hitem : item.Readable) (items : List Json)
    (level : ℕ) (rest : List Char) :
    mark? ']' (lines level (prettyItems level (item :: items)) ++ rest) = none := by
  obtain ⟨c, cs, h, hc⟩ := exists_prettyChars_eq_cons hitem level
  have hhead : ¬ IsBlank c ∧ c ≠ ']' := by
    rcases hc with hc | rfl | rfl | rfl
    · exact ⟨not_isBlank_of_isDigit hc, fun e => absurd hc (by rw [e]; decide)⟩
    all_goals decide
  rw [prettyItems, lines_cons, h, List.cons_append, List.cons_append, mark?_cons hhead.1,
    if_neg hhead.2]

theorem mark?_lines_prettyFields (field : String × Json) (fields : List (String × Json))
    (level : ℕ) (rest : List Char) :
    mark? '\x7d' (lines level (prettyFields level (field :: fields)) ++ rest) = none := by
  rw [prettyFields_cons, lines_cons, List.cons_append, List.cons_append, List.cons_append,
    mark?_cons (by decide), if_neg (by decide)]

-- The recursion is that of the writer.  Every step of the reader takes a unit of fuel and leaves a
-- text shorter by two characters or more, or by one to a step where it goes down to an item.
mutual

theorem value?_prettyChars : ∀ (j : Json) (level fuel : ℕ) {rest : List Char}, j.Readable →
    Delimited rest → 2 * (j.prettyChars level).length ≤ fuel →
    value? fuel (j.prettyChars level ++ rest) = some (j, rest)
  | natural n, level, fuel, rest, _, hrest, hfuel => by
    rw [prettyChars] at hfuel ⊢
    exact value?_of_number?_eq_some (exists_toDigits_eq_cons n) (number?_toDigits n hrest)
      (by omega)
  | single x, level, fuel, rest, hj, hrest, hfuel => by
    rw [Readable] at hj
    rw [prettyChars] at hfuel ⊢
    exact value?_of_number?_eq_some (exists_jsonChars_eq_cons hj) (number?_jsonChars hj hrest)
      (by omega)
  | array [], level, fuel, rest, _, _, hfuel => by
    simp only [prettyChars, prettyItems, block, List.length_cons, List.length_nil] at hfuel ⊢
    obtain ⟨fuel, rfl⟩ := Nat.exists_eq_succ_of_ne_zero (show fuel ≠ 0 by omega)
    exact value?_empty_array fuel rest
  | array (item :: items), level, fuel, rest, hj, _, hfuel => by
    have hne : prettyItems (level + 1) (item :: items) ≠ [] := by simp [prettyItems]
    have hlength := length_block '[' ']' level hne
    rw [Readable] at hj
    rw [prettyChars] at hfuel ⊢
    obtain ⟨fuel, rfl⟩ := Nat.exists_eq_succ_of_ne_zero (show fuel ≠ 0 by omega)
    rw [block_of_ne_nil _ _ _ hne, value?_bracket fuel (by
        rw [mark?_newline_append, mark?_lines_prettyItems hj.1]),
      items?_newline_append, items?_prettyItems (item :: items) _ _ _ (List.cons_ne_nil _ _) hj
        (by omega), Option.map_some]
  | object [], level, fuel, rest, _, _, hfuel => by
    simp only [prettyChars, prettyFields, block, List.length_cons, List.length_nil] at hfuel ⊢
    obtain ⟨fuel, rfl⟩ := Nat.exists_eq_succ_of_ne_zero (show fuel ≠ 0 by omega)
    exact value?_empty_object fuel rest
  | object ((name, value) :: fields), level, fuel, rest, hj, _, hfuel => by
    have hne : prettyFields (level + 1) ((name, value) :: fields) ≠ [] := by simp [prettyFields]
    have hlength := length_block '\x7b' '\x7d' level hne
    rw [Readable] at hj
    rw [prettyChars] at hfuel ⊢
    obtain ⟨fuel, rfl⟩ := Nat.exists_eq_succ_of_ne_zero (show fuel ≠ 0 by omega)
    rw [block_of_ne_nil _ _ _ hne, value?_brace fuel (by
        rw [mark?_newline_append, mark?_lines_prettyFields]),
      fields?_newline_append, fields?_prettyFields ((name, value) :: fields) _ _ _
        (List.cons_ne_nil _ _) hj (by omega), Option.map_some]

theorem items?_prettyItems : ∀ (items : List Json) (level level' fuel : ℕ) {rest : List Char},
    items ≠ [] → ReadableItems items →
    2 * (lines level (prettyItems level items)).length + 1 ≤ fuel →
    items? fuel (lines level (prettyItems level items) ++ (newline level' ++ ']' :: rest)) =
      some (items, rest)
  | [], _, _, _, _, hne, _, _ => absurd rfl hne
  | [item], level, level', fuel, rest, _, hitems, hfuel => by
    rw [ReadableItems] at hitems
    simp only [prettyItems, lines] at hfuel ⊢
    obtain ⟨fuel, rfl⟩ := Nat.exists_eq_succ_of_ne_zero (show fuel ≠ 0 by omega)
    exact items?_last fuel level' (value?_prettyChars item level fuel hitems.1
      (delimited_newline_append _ _) (by omega))
  | item :: item' :: items, level, level', fuel, rest, _, hitems, hfuel => by
    rw [ReadableItems] at hitems
    rw [prettyItems, prettyItems, lines, ← prettyItems] at hfuel ⊢
    simp only [List.length_append, List.length_cons] at hfuel
    obtain ⟨fuel, rfl⟩ := Nat.exists_eq_succ_of_ne_zero (show fuel ≠ 0 by omega)
    rw [List.append_assoc, List.cons_append, List.append_assoc]
    refine items?_cons fuel (value?_prettyChars item level fuel hitems.1 (delimited_cons rfl _)
      (by omega)) ?_
    rw [items?_newline_append]
    exact items?_prettyItems (item' :: items) level level' fuel (List.cons_ne_nil _ _) hitems.2
      (by omega)

theorem fields?_prettyFields : ∀ (fields : List (String × Json)) (level level' fuel : ℕ)
    {rest : List Char}, fields ≠ [] → ReadableFields fields →
    2 * (lines level (prettyFields level fields)).length + 1 ≤ fuel →
    fields? fuel (lines level (prettyFields level fields) ++ (newline level' ++ '\x7d' :: rest)) =
      some (fields, rest)
  | [], _, _, _, _, hne, _, _ => absurd rfl hne
  | [(name, value)], level, level', fuel, rest, _, hfields, hfuel => by
    rw [ReadableFields] at hfields
    simp only [prettyFields, lines, List.length_append, List.length_cons] at hfuel ⊢
    obtain ⟨fuel, rfl⟩ := Nat.exists_eq_succ_of_ne_zero (show fuel ≠ 0 by omega)
    simp only [List.cons_append, List.append_assoc]
    refine fields?_last fuel level' (name?_append hfields.1 _) ?_
    rw [value?_congr (skipBlanks_blank_cons _)]
    exact value?_prettyChars value level fuel hfields.2.1 (delimited_newline_append _ _) (by omega)
  | (name, value) :: (name', value') :: fields, level, level', fuel, rest, _, hfields, hfuel => by
    rw [ReadableFields] at hfields
    rw [prettyFields_cons, prettyFields, lines, ← prettyFields] at hfuel ⊢
    simp only [List.length_append, List.length_cons] at hfuel
    obtain ⟨fuel, rfl⟩ := Nat.exists_eq_succ_of_ne_zero (show fuel ≠ 0 by omega)
    simp only [List.cons_append, List.append_assoc]
    have hvalue : ∀ more, value? fuel (' ' :: (value.prettyChars level ++ ',' :: more)) =
        some (value, ',' :: more) := by
      intro more
      rw [value?_congr (skipBlanks_blank_cons _)]
      exact value?_prettyChars value level fuel hfields.2.1 (delimited_cons rfl _) (by omega)
    refine fields?_cons fuel (name?_append hfields.1 _) (hvalue _) ?_
    rw [fields?_newline_append]
    exact fields?_prettyFields ((name', value') :: fields) level level' fuel (List.cons_ne_nil _ _)
      hfields.2.2 (by omega)

end

end Json

end TwoSpirals
