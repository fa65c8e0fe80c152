import TwoSpirals.Proofs.Disk
import TwoSpirals.Proofs.Single.Bytes

/-!
# Files of numbers on a disk

Reading and writing numbers as functions of the disk.  What is under a path is opened, its length is
compared and then it is read, and each of these can be what fails (`run_readSingles_of_length_error`
and those after it).  What is written under a path is read again, and a file of the right length is
read as the numbers of its bytes, four to a number with the low one first.
`readSingles_writeSingles` says both, and that writing what was read makes the same file again, but
for the bytes of a `NaN`.
-/

namespace TwoSpirals

/-! ## Reading and writing as functions of the disk -/

theorem run_bind {σ α β : Type} (x : StateM σ α) (f : α → StateM σ β) (s : σ) :
    (x >>= f).run s = (f (x.run s).1).run (x.run s).2 := rfl

section

variable (d : Disk)

theorem run_openPath (path : String) :
    (Files.openPath path : StateM Disk _).run d = (d.locate path.toList, d) := rfl

theorem run_length (l : Location) :
    (Files.length (m := StateM Disk) l).run d = (.ok (d.lengthAt l), d) := rfl

theorem run_readUpTo (l : Location) (count : Nat) :
    (Files.readUpTo (m := StateM Disk) l count).run d = (d.readAt l count, d) := rfl

theorem run_write (path : String) (bytes : List UInt8) :
    (Files.write path bytes : StateM Disk _).run d =
      match d.write path bytes with
      | .ok d' => (.ok (), d')
      | .error e => (.error e, d) := by
  simp only [Files.write, StateT.run_bind, StateT.run_get, pure_bind]
  cases d.write path bytes <;> rfl

theorem run_readSingles (path : String) (expected : Nat) :
    (readSingles path expected : StateM Disk _).run d =
      (match d.locate path.toList with
        | .error cause => .error (.file path cause)
        | .ok l =>
          if d.lengthAt l ≠ expected * 4 then
            .error (.shape ⟨"input bytes", d.lengthAt l, expected * 4⟩)
          else
            match d.readAt l (expected * 4) with
            | .error cause => .error (.file path cause)
            | .ok bytes =>
              if bytes.length ≠ expected * 4 then
                .error (.shape ⟨"input bytes", bytes.length, expected * 4⟩)
              else .ok (Single.decode bytes), d) := by
  rw [readSingles, run_bind, run_openPath]
  cases d.locate path.toList with
  | error cause => rfl
  | ok l =>
    dsimp only
    rw [run_bind, run_length]
    dsimp only
    split_ifs with hlength
    · rfl
    rw [run_bind, run_readUpTo]
    cases d.readAt l (expected * 4) with
    | error cause => rfl
    | ok bytes =>
      dsimp only
      split_ifs <;> rfl

end

variable {d : Disk} {path : String} {bytes : List UInt8} {cause : FileError}

theorem run_write_of_target {l : Location} (h : d.target path.toList = .ok l) :
    (Files.write path bytes : StateM Disk _).run d = (.ok (), d.put l (.file bytes)) := by
  rw [run_write, Disk.write_of_target h]

theorem run_write_of_target_error (h : d.target path.toList = .error cause) :
    (Files.write path bytes : StateM Disk _).run d = (.error cause, d) := by
  rw [run_write, Disk.write_of_target_error h]

theorem run_writeSingles_of_target {l : Location} (data : List Float32)
    (h : d.target path.toList = .ok l) :
    (writeSingles path data : StateM Disk _).run d =
      (.ok (), d.put l (.file (Single.encode data))) := by
  rw [writeSingles, run_bind, run_write_of_target h]
  rfl

theorem run_writeSingles_of_target_error (data : List Float32)
    (h : d.target path.toList = .error cause) :
    (writeSingles path data : StateM Disk _).run d = (.error (.file path cause), d) := by
  rw [writeSingles, run_bind, run_write_of_target_error h]
  rfl

/-! ## Ends of reading numbers -/

section

variable {n got : Nat}

theorem run_readSingles_of_length_error (h : d.length path = .error cause) (n : Nat) :
    (readSingles path n : StateM Disk _).run d = (.error (.file path cause), d) := by
  rw [run_readSingles, Disk.length_eq_error_iff.1 h]

/-- Whatever has another length is refused for it, whether it could be read or not. -/
theorem run_readSingles_of_length_ne (h : d.length path = .ok got) (hn : got ≠ 4 * n) :
    (readSingles path n : StateM Disk _).run d =
      (.error (.shape ⟨"input bytes", got, 4 * n⟩), d) := by
  obtain ⟨l, hlocate, rfl⟩ := Disk.length_eq_ok_iff.1 h
  rw [run_readSingles, hlocate, Nat.mul_comm n 4]
  simp only [if_pos hn]

/-- A directory may have the right length.  It fails where it is read, if anything is. -/
theorem run_readSingles_of_read_error (hpos : 0 < n) (h : d.length path = .ok (4 * n))
    (hread : d.read path = .error cause) :
    (readSingles path n : StateM Disk _).run d = (.error (.file path cause), d) := by
  obtain ⟨l, hlocate, hlength⟩ := Disk.length_eq_ok_iff.1 h
  rw [Disk.read_of_locate hlocate] at hread
  have hat : d.readAt l (4 * n) = .error cause := Disk.readAt_of_error (by omega) hread
  rw [run_readSingles, hlocate, Nat.mul_comm n 4]
  simp only [hlength, hat, ne_eq, not_true_eq_false, if_false]

theorem run_readSingles_of_length (h : d.read path = .ok bytes) (hn : bytes.length = 4 * n) :
    (readSingles path n : StateM Disk _).run d = (.ok (Single.decode bytes), d) := by
  obtain ⟨l, hlocate, hlength⟩ := Disk.length_eq_ok_iff.1 (Disk.length_of_read h)
  rw [Disk.read_of_locate hlocate] at h
  have hat : d.readAt l bytes.length = .ok bytes := Disk.readAt_of_bytesAt h
  rw [run_readSingles, hlocate, Nat.mul_comm n 4, ← hn]
  simp only [hlength, hat, ne_eq, not_true_eq_false, if_false]

theorem run_readSingles_encode {data : List Float32}
    (h : d.read path = .ok (Single.encode data)) (hn : data.length = n) :
    (readSingles path n : StateM Disk _).run d = (.ok data, d) := by
  have hlength : (Single.encode data).length = 4 * n := by
    rw [Single.length_encode, hn]
  rw [run_readSingles_of_length h hlength, Single.decode_encode]

end

/-! ## Files read and written -/

/-- Numbers that are written are read again as they were.  A file is read where its length is that
of the numbers asked for, and then writing them makes a file of the same bytes, but for those of a
`NaN`.  Reading leaves the disk alone. -/
theorem readSingles_writeSingles (d : Disk) :
    (∀ (path : String) (l : Location), d.target path.toList = .ok l → ∀ xs : List Float32,
      ∃ bytes d', (writeSingles path xs : StateM Disk _).run d = (.ok (), d') ∧
        d.Stores path bytes d' ∧ bytes.length = 4 * xs.length ∧
        (∀ (i : Nat) (hi : i < xs.length), Single.patternAt bytes i = xs[i].toBits.toNat) ∧
        (readSingles path xs.length : StateM Disk _).run d' = (.ok xs, d')) ∧
    ∀ (path : String) (n : Nat),
      ((readSingles path n : StateM Disk _).run d).2 = d ∧
      ∀ bytes, d.read path = .ok bytes →
        (bytes.length ≠ 4 * n →
          (readSingles path n : StateM Disk _).run d =
            (.error (.shape ⟨"input bytes", bytes.length, 4 * n⟩), d)) ∧
        (bytes.length = 4 * n →
          ∃ xs, (readSingles path n : StateM Disk _).run d = (.ok xs, d) ∧ xs.length = n ∧
            (∀ (i : Nat) (hi : i < xs.length),
              xs[i] = .ofBits (.ofNat (Single.patternAt bytes i))) ∧
            ∀ (copy : String) (l : Location), d.target copy.toList = .ok l →
              ∃ bytes' d', (writeSingles copy xs : StateM Disk _).run d = (.ok (), d') ∧
                d.Stores copy bytes' d' ∧ bytes'.length = bytes.length ∧
                ∀ k, (∀ x ∈ xs[k / 4]?, x.isNaN = false) → bytes'[k]? = bytes[k]?) := by
  constructor
  · intro path l htarget xs
    have hstores := Disk.stores_put (Single.encode xs) htarget
    exact ⟨_, _, run_writeSingles_of_target xs htarget, hstores, Single.length_encode xs,
      Single.patternAt_encode xs, run_readSingles_encode hstores.read rfl⟩
  · intro path n
    refine ⟨by rw [run_readSingles], fun bytes hread =>
      ⟨run_readSingles_of_length_ne (Disk.length_of_read hread), ?_⟩⟩
    intro hn
    have hlength : (Single.decode bytes).length = n := by
      rw [Single.length_decode, hn, Nat.mul_div_cancel_left n four_pos]
    refine ⟨_, run_readSingles_of_length hread hn, hlength, Single.getElem_decode bytes, ?_⟩
    intro copy l htarget
    refine ⟨_, _, run_writeSingles_of_target _ htarget, Disk.stores_put _ htarget, ?_,
      Single.getElem?_encode_decode hn⟩
    rw [Single.length_encode, hlength, hn]

theorem readSingles_writeSingles_one_and_nan :
    let d : Disk :=
      { nodes := [(["b".toList], .file [0, 0, 0x80, 0x3f, 0xff, 0xff, 0xff, 0x7f])] }
    (∃ d', (writeSingles "b" [-0, Single.infinity, 1] : StateM Disk _).run d = (.ok (), d') ∧
      (readSingles "b" 3 : StateM Disk _).run d' = (.ok [-0, Single.infinity, 1], d')) ∧
    (readSingles "b" 1 : StateM Disk _).run d = (.error (.shape ⟨"input bytes", 8, 4⟩), d) ∧
    ∃ xs bytes' d', (readSingles "b" 2 : StateM Disk _).run d = (.ok xs, d) ∧
      xs[0]? = some 1 ∧ (writeSingles "./b" xs : StateM Disk _).run d = (.ok (), d') ∧
      d'.read "./b" = .ok bytes' ∧ bytes'.length = 8 ∧ bytes'[3]? = some 0x3f := by
  intro d
  have hb : d.target "b".toList = .ok ["b".toList] := by decide +kernel
  have hb' : d.target "./b".toList = .ok ["b".toList] := by decide +kernel
  have hread : d.read "b" = .ok [0, 0, 0x80, 0x3f, 0xff, 0xff, 0xff, 0x7f] := by decide +kernel
  obtain ⟨hwrite, hfile⟩ := readSingles_writeSingles d
  obtain ⟨_, d', hrun, -, -, -, hagain⟩ := hwrite "b" _ hb [-0, Single.infinity, 1]
  obtain ⟨xs, hxs, hlength, hgetElem, hcopy⟩ := ((hfile "b" 2).2 _ hread).2 rfl
  obtain ⟨bytes', d'', hrun', hstores, hlength', hbytes⟩ := hcopy "./b" _ hb'
  have hone : xs[0]? = some 1 := by
    rw [List.getElem?_eq_getElem (by omega), hgetElem 0 (by omega)]
    decide +kernel
  refine ⟨⟨d', hrun, hagain⟩, ((hfile "b" 1).2 _ hread).1 (by decide), xs, bytes', d'', hxs, hone,
    hrun', hstores.read, hlength', ?_⟩
  refine hbytes 3 fun x hx => ?_
  obtain rfl := Option.some.inj (hone.symm.trans hx)
  rfl

end TwoSpirals
