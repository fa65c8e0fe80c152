import Mathlib.Data.List.DropRight
import TwoSpirals.Disk

/-!
# What a write leaves on a disk

`Disk.Place` says what makes a path end at the place of a file, and `target_eq_ok_iff` that
`Disk.target` finds these places and no others.  The way to a place leads through directories only,
and a file that is written never takes the place of one.  So a way that is there before a write is
there after it (`walk_put`), a path can be written after it exactly where it could be before
(`target_put_eq_ok_iff`), and what a write comes to is `Disk.Stores`: its file holds the bytes, and
no other location has changed.  What can be read has the length of its bytes (`length_of_read`), and
a directory has a length all the same (`length_and_read_of_directory`).
-/

namespace TwoSpirals

theorem bind_eq_ok_iff {ε α β : Type} {x : Except ε α} {f : α → Except ε β} {b : β} :
    x >>= f = .ok b ↔ ∃ a, x = .ok a ∧ f a = .ok b := by
  cases x with
  | error e => exact ⟨fun h => (nomatch h), fun ⟨_, h, _⟩ => (nomatch h)⟩
  | ok a => exact ⟨fun h => ⟨a, rfl, h⟩, fun ⟨_, rfl, h⟩ => h⟩

namespace Disk

variable {d : Disk} {l l' : Location}

/-! ## Nodes -/

theorem node?_nil (d : Disk) : d.node? [] = some .directory := if_pos rfl

theorem node?_of_ne_nil (d : Disk) (h : l ≠ []) : d.node? l = d.nodes.lookup l := if_neg h

theorem lookup_filter_ne (nodes : List (Location × Node)) (h : l' ≠ l) :
    (nodes.filter fun e => decide (e.1 ≠ l)).lookup l' = nodes.lookup l' := by
  induction nodes with
  | nil => rfl
  | cons e nodes ih =>
    obtain ⟨k, n⟩ := e
    by_cases hk : k = l
    · subst hk
      rw [List.filter_cons_of_neg (by simp), ih, List.lookup_cons, beq_false_of_ne h]
    · rw [List.filter_cons_of_pos (by simpa using hk), List.lookup_cons, List.lookup_cons, ih]

theorem node?_put_self (d : Disk) (n : Node) (h : l ≠ []) : (d.put l n).node? l = some n := by
  rw [node?_of_ne_nil _ h, put, List.lookup_cons_self]

theorem node?_put_of_ne (d : Disk) (n : Node) (h : l' ≠ l) : (d.put l n).node? l' = d.node? l' := by
  by_cases hnil : l' = []
  · rw [hnil, node?_nil, node?_nil]
  · rw [node?_of_ne_nil _ hnil, node?_of_ne_nil _ hnil, put, List.lookup_cons, beq_false_of_ne h]
    exact lookup_filter_ne d.nodes h

/-! ## Places -/

/-- The path ends with `name`, which is a place for a file in the directory `here`. -/
structure Place (d : Disk) (path : List Char) (here : Location) (name : Name) : Prop where
  check : Path.check path = .ok ()
  walk : ∃ front, Path.split path = front ++ [name] ∧ d.walk [] front = .ok here
  node?_here : d.node? here = some .directory
  isHere : Path.isHere name = false
  isUp : Path.isUp name = false
  checkName : Path.checkName name = .ok ()
  node?_ne : d.node? (here ++ [name]) ≠ some .directory

variable {path : List Char} {here : Location} {name : Name}

theorem place_eq_ok_iff {slash : Bool} :
    d.place here name slash = .ok l ↔
      d.node? here = some .directory ∧ slash = false ∧ Path.isHere name = false ∧
        Path.isUp name = false ∧ Path.checkName name = .ok () ∧
        d.node? (here ++ [name]) ≠ some .directory ∧ l = here ++ [name] := by
  constructor
  · intro h
    unfold place at h
    split at h
    · exact nomatch h
    · exact nomatch h
    · rename_i hhere
      split at h
      · exact nomatch h
      · rename_i hkind
        obtain ⟨⟨⟩, hname, h⟩ := bind_eq_ok_iff.1 h
        split at h
        · exact nomatch h
        · rename_i hfree
          simp only [not_or, Bool.not_eq_true] at hkind
          exact ⟨hhere, hkind.1, hkind.2.1, hkind.2.2, hname, hfree, (Except.ok.inj h).symm⟩
  · rintro ⟨hhere, rfl, hhere', hup, hname, hfree, rfl⟩
    unfold place
    rw [hhere]
    simp only [hhere', hup, hname, Bool.false_eq_true, or_self, if_false]
    rfl

/-- Names without the empty ones at the end are as many only where there are none. -/
theorem rdropWhile_isEmpty_eq {names : List Name}
    (h : ¬ ((names.reverse.dropWhile (· = [])).reverse).length < names.length) :
    (names.reverse.dropWhile (· = [])).reverse = names :=
  (List.rdropWhile_prefix (p := fun name : Name => decide (name = [])) names).eq_of_length_le
    (Nat.not_lt.1 h)

theorem target_eq_ok_iff :
    d.target path = .ok l ↔ ∃ here name, d.Place path here name ∧ l = here ++ [name] := by
  unfold target
  constructor
  · intro h
    obtain ⟨⟨⟩, hcheck, h⟩ := bind_eq_ok_iff.1 h
    dsimp only at h
    split at h
    · exact nomatch h
    · rename_i name hlast
      obtain ⟨here, hwalk, h⟩ := bind_eq_ok_iff.1 h
      obtain ⟨hhere, hslash, hkind, hup, hname, hfree, rfl⟩ := place_eq_ok_iff.1 h
      have hkept := rdropWhile_isEmpty_eq (of_decide_eq_false hslash)
      rw [hkept] at hlast hwalk
      exact ⟨here, name, ⟨hcheck, ⟨_, (List.dropLast_append_getLast? name hlast).symm, hwalk⟩,
        hhere, hkind, hup, hname, hfree⟩, rfl⟩
  · rintro ⟨here, name, ⟨hcheck, ⟨front, hsplit, hwalk⟩, hhere, hkind, hup, hname, hfree⟩, rfl⟩
    have hne : name ≠ [] := by
      rintro rfl
      exact absurd hkind (by decide)
    have hkept : ((front ++ [name]).reverse.dropWhile (· = [])).reverse = front ++ [name] :=
      List.rdropWhile_concat_neg _ _ _ (by simpa using hne)
    refine bind_eq_ok_iff.2 ⟨(), hcheck, ?_⟩
    simp only [hsplit, hkept, List.getLast?_concat, List.dropLast_concat, Nat.lt_irrefl,
      decide_false]
    refine bind_eq_ok_iff.2 ⟨here, hwalk, ?_⟩
    exact place_eq_ok_iff.2 ⟨hhere, rfl, hkind, hup, hname, hfree, rfl⟩

/-! ## Ways -/

theorem enter_eq_ok_iff :
    d.enter here name = .ok l ↔
      d.node? here = some .directory ∧
        if Path.isHere name then l = here
        else if Path.isUp name then l = here.dropLast
        else Path.checkName name = .ok () ∧ (d.node? (here ++ [name])).isSome = true ∧
          l = here ++ [name] := by
  unfold enter
  rcases d.node? here with _ | _ | _
  · simp
  · simp only [true_and]
    split_ifs
    · simp [eq_comm]
    · simp [eq_comm]
    · rw [bind_eq_ok_iff]
      rcases d.node? (here ++ [name]) with _ | node <;> simp [eq_comm, Unique.exists_iff]
  · simp

/-- A way that ends in a directory starts in one. -/
theorem node?_of_walk {names : List Name} (h : d.walk here names = .ok l)
    (hdir : d.node? l = some .directory) : d.node? here = some .directory := by
  cases names with
  | nil =>
    obtain rfl := Except.ok.inj h
    exact hdir
  | cons name names =>
    obtain ⟨next, henter, -⟩ := bind_eq_ok_iff.1 (List.foldlM_cons.symm.trans h)
    exact (enter_eq_ok_iff.1 henter).1

variable {bytes : List UInt8} (hfree : d.node? l ≠ some .directory)
include hfree

theorem ne_nil_of_node?_ne : l ≠ [] := by
  rintro rfl
  exact hfree (node?_nil d)

/-- A write neither makes a directory nor takes one away. -/
theorem node?_put_eq_directory_iff :
    (d.put l (.file bytes)).node? l' = some .directory ↔ d.node? l' = some .directory := by
  by_cases hl : l' = l
  · subst hl
    rw [node?_put_self _ _ (ne_nil_of_node?_ne hfree)]
    exact iff_of_false nofun hfree
  · rw [node?_put_of_ne _ _ hl]

theorem node?_put_isSome (bytes : List UInt8) (h : (d.node? l').isSome = true) :
    ((d.put l (.file bytes)).node? l').isSome = true := by
  by_cases hl : l' = l
  · rw [hl, node?_put_self _ _ (ne_nil_of_node?_ne hfree)]
    rfl
  · rwa [node?_put_of_ne _ _ hl]

theorem enter_put {there : Location} (h : d.enter here name = .ok there) :
    (d.put l (.file bytes)).enter here name = .ok there := by
  obtain ⟨hhere, hthere⟩ := enter_eq_ok_iff.1 h
  refine enter_eq_ok_iff.2 ⟨(node?_put_eq_directory_iff hfree).2 hhere, ?_⟩
  split_ifs at hthere ⊢
  · exact hthere
  · exact hthere
  · exact ⟨hthere.1, node?_put_isSome hfree bytes hthere.2.1, hthere.2.2⟩

theorem walk_put {names : List Name} {there : Location} (h : d.walk here names = .ok there) :
    (d.put l (.file bytes)).walk here names = .ok there := by
  induction names generalizing here with
  | nil => exact h
  | cons name names ih =>
    obtain ⟨next, henter, hwalk⟩ := bind_eq_ok_iff.1 (List.foldlM_cons.symm.trans h)
    exact List.foldlM_cons.trans (bind_eq_ok_iff.2 ⟨next, enter_put hfree henter, ih hwalk⟩)

theorem locate_put (h : d.locate path = .ok l') :
    (d.put l (.file bytes)).locate path = .ok l' := by
  obtain ⟨⟨⟩, hcheck, hwalk⟩ := bind_eq_ok_iff.1 h
  exact bind_eq_ok_iff.2 ⟨(), hcheck, walk_put hfree hwalk⟩

/-- Into a directory no way leads over a file that was written, so each was there before. -/
theorem walk_of_walk_put {names : List Name} {there : Location}
    (h : (d.put l (.file bytes)).walk here names = .ok there)
    (hdir : (d.put l (.file bytes)).node? there = some .directory) :
    d.walk here names = .ok there := by
  induction names generalizing here with
  | nil => exact h
  | cons name names ih =>
    obtain ⟨next, henter, hwalk⟩ := bind_eq_ok_iff.1 (List.foldlM_cons.symm.trans h)
    refine List.foldlM_cons.trans (bind_eq_ok_iff.2 ⟨next, ?_, ih hwalk⟩)
    obtain ⟨hhere, hnext⟩ := enter_eq_ok_iff.1 henter
    refine enter_eq_ok_iff.2 ⟨(node?_put_eq_directory_iff hfree).1 hhere, ?_⟩
    split_ifs at hnext ⊢
    · exact hnext
    · exact hnext
    · obtain ⟨hname, -, rfl⟩ := hnext
      have hthere := (node?_put_eq_directory_iff hfree).1 (node?_of_walk hwalk hdir)
      exact ⟨hname, Option.isSome_of_eq_some hthere, rfl⟩

/-- A write opens no place and closes none. -/
theorem place_put_iff : (d.put l (.file bytes)).Place path here name ↔ d.Place path here name := by
  constructor
  · rintro ⟨hcheck, ⟨front, hsplit, hwalk⟩, hhere, hkind, hup, hname, hne⟩
    exact ⟨hcheck, ⟨front, hsplit, walk_of_walk_put hfree hwalk hhere⟩,
      (node?_put_eq_directory_iff hfree).1 hhere, hkind, hup, hname,
      mt (node?_put_eq_directory_iff hfree).2 hne⟩
  · rintro ⟨hcheck, ⟨front, hsplit, hwalk⟩, hhere, hkind, hup, hname, hne⟩
    exact ⟨hcheck, ⟨front, hsplit, walk_put hfree hwalk⟩,
      (node?_put_eq_directory_iff hfree).2 hhere, hkind, hup, hname,
      mt (node?_put_eq_directory_iff hfree).1 hne⟩

omit hfree

/-- Where a file stands in a place, the path of the place leads to it. -/
theorem Place.locate (h : d.Place path here name)
    (hfile : d.node? (here ++ [name]) = some (.file bytes)) :
    d.locate path = .ok (here ++ [name]) := by
  obtain ⟨front, hsplit, hwalk⟩ := h.walk
  refine bind_eq_ok_iff.2 ⟨(), h.check, ?_⟩
  rw [hsplit, Disk.walk, List.foldlM_append]
  refine bind_eq_ok_iff.2 ⟨here, hwalk, ?_⟩
  rw [List.foldlM_cons, enter, h.node?_here]
  simp only [h.isHere, h.isUp, h.checkName, hfile, Bool.false_eq_true, if_false]
  rfl

/-! ## Files -/

variable {p q : String} {content : List UInt8}

/-- `d'` is `d` after a write: the file under the path holds the bytes and nothing else, and
whatever is not in its place is as it was, file by file and location by location. -/
structure Stores (d : Disk) (p : String) (bytes : List UInt8) (d' : Disk) : Prop where
  read : d'.read p = .ok bytes
  read_of_ne : ∀ q content, d.read q = .ok content → d.locate q.toList ≠ d.target p.toList →
    d'.read q = .ok content
  node?_of_ne : ∀ l, d.target p.toList ≠ .ok l → d'.node? l = d.node? l

theorem bytesAt_eq_ok_iff : d.bytesAt l = .ok bytes ↔ d.node? l = some (.file bytes) := by
  unfold bytesAt
  rcases d.node? l with _ | _ | content <;> simp

theorem read_eq_ok_iff : d.read p = .ok bytes ↔
    ∃ l, d.locate p.toList = .ok l ∧ d.node? l = some (.file bytes) := by
  simp only [read, bind_eq_ok_iff, bytesAt_eq_ok_iff]

theorem read_of_locate (h : d.locate p.toList = .ok l) : d.read p = d.bytesAt l := by
  rw [read, h]
  rfl

theorem length_eq_ok_iff {n : Nat} :
    d.length p = .ok n ↔ ∃ l, d.locate p.toList = .ok l ∧ d.lengthAt l = n := by
  unfold length
  cases d.locate p.toList <;> simp [Except.map]

theorem length_eq_error_iff {e : FileError} :
    d.length p = .error e ↔ d.locate p.toList = .error e := by
  unfold length
  cases d.locate p.toList <;> simp [Except.map]

/-- A file that can be read has the length of its bytes. -/
theorem length_of_read (h : d.read p = .ok bytes) : d.length p = .ok bytes.length := by
  obtain ⟨l, hlocate, hnode⟩ := read_eq_ok_iff.1 h
  refine length_eq_ok_iff.2 ⟨l, hlocate, ?_⟩
  rw [lengthAt, hnode]

/-- A directory can be opened and has the length that the disk gives it, but it cannot be read. -/
theorem length_and_read_of_directory (h : d.locate p.toList = .ok l)
    (hnode : d.node? l = some .directory) :
    d.length p = .ok (d.directoryLength d.nodes l) ∧ d.read p = .error .isDirectory := by
  refine ⟨length_eq_ok_iff.2 ⟨l, h, ?_⟩, ?_⟩
  · rw [lengthAt, hnode]
  · rw [read_of_locate h, bytesAt, hnode]

/-- All bytes of a file are read where as many are asked for. -/
theorem readAt_of_bytesAt (h : d.bytesAt l = .ok bytes) : d.readAt l bytes.length = .ok bytes := by
  rw [readAt, h]
  split_ifs with hzero
  · rw [List.eq_nil_of_length_eq_zero hzero]
  · rw [Except.map, List.take_length]

theorem readAt_of_error {e : FileError} {count : Nat} (hcount : 0 < count)
    (h : d.bytesAt l = .error e) : d.readAt l count = .error e := by
  rw [readAt, if_neg hcount.ne', h]
  rfl

theorem write_of_target (h : d.target p.toList = .ok l) :
    d.write p bytes = .ok (d.put l (.file bytes)) :=
  bind_eq_ok_iff.2 ⟨l, h, rfl⟩

theorem write_of_target_error {e : FileError} (h : d.target p.toList = .error e) :
    d.write p bytes = .error e := by
  rw [write, h]
  rfl

theorem node?_ne_of_target (h : d.target p.toList = .ok l) : d.node? l ≠ some .directory := by
  obtain ⟨_, _, hplace, rfl⟩ := target_eq_ok_iff.1 h
  exact hplace.node?_ne

/-- A path can be written after another write exactly where it could be before, and to the same
place. -/
theorem target_put_eq_ok_iff {l₁ l₂ : Location} (bytes : List UInt8)
    (h₁ : d.target p.toList = .ok l₁) :
    (d.put l₁ (.file bytes)).target q.toList = .ok l₂ ↔ d.target q.toList = .ok l₂ := by
  rw [target_eq_ok_iff, target_eq_ok_iff]
  simp only [place_put_iff (node?_ne_of_target h₁)]

theorem target_put {l₁ l₂ : Location} (bytes : List UInt8) (h₁ : d.target p.toList = .ok l₁)
    (h₂ : d.target q.toList = .ok l₂) : (d.put l₁ (.file bytes)).target q.toList = .ok l₂ :=
  (target_put_eq_ok_iff bytes h₁).2 h₂

theorem locate_put_self (bytes : List UInt8) (h : d.target p.toList = .ok l) :
    (d.put l (.file bytes)).locate p.toList = .ok l ∧
      (d.put l (.file bytes)).node? l = some (.file bytes) := by
  obtain ⟨here, name, hplace, rfl⟩ := target_eq_ok_iff.1 h
  have hfree := hplace.node?_ne
  have hself := node?_put_self d (.file bytes) (ne_nil_of_node?_ne hfree)
  exact ⟨((place_put_iff hfree).2 hplace).locate hself, hself⟩

theorem stores_put (bytes : List UInt8) (h : d.target p.toList = .ok l) :
    d.Stores p bytes (d.put l (.file bytes)) := by
  have hfree := node?_ne_of_target h
  refine ⟨read_eq_ok_iff.2 ⟨l, locate_put_self bytes h⟩, ?_, ?_⟩
  · intro q content hread hne
    obtain ⟨l, hlocate, hnode⟩ := read_eq_ok_iff.1 hread
    refine read_eq_ok_iff.2 ⟨l, locate_put hfree hlocate, ?_⟩
    rw [node?_put_of_ne, hnode]
    rintro rfl
    exact hne (hlocate.trans h.symm)
  · intro l hl
    refine node?_put_of_ne _ _ ?_
    rintro rfl
    exact hl h

end Disk

end TwoSpirals
