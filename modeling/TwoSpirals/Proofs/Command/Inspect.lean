import TwoSpirals.Command.Inspect
import TwoSpirals.Proofs.Count
import TwoSpirals.Proofs.Listing
import TwoSpirals.Proofs.Single.Reader
import TwoSpirals.Proofs.Trace

/-!
# How inspecting ends

The arguments are read in order and the first that cannot be read is the one reported
(`FirstFailure`).  What is shown of a program at work are the entries of its trace and the result of
its evaluation, which are made apart and agree all the same (`ShowsRun`): the registers that the
last step leaves are those that the evaluation ends with, and the steps that fired are counted where
the stars stand.
-/

namespace TwoSpirals

theorem ProgramId.length_steps (p : ProgramId) : p.steps.length = 256 := by
  revert p
  decide +kernel

/-! ## Lines -/

namespace Trace.Entry

variable (e : Trace.Entry)

/-- The line of an entry without its end. -/
def body : List Char :=
  (Nat.toDigits 10 e.index).leftpad 4 ' ' ++ ' ' :: (if e.fired then '*' else ' ') :: ' ' ::
    (e.step.chars.rightpad 32 ' ' ++ " r0 = ".toList ++ Single.chars e.registers.r0)

theorem line_eq_body : e.line = e.body ++ ['\n'] := by simp [line, body]

/-- Only the mark of a step that fired is a star, and nothing is a line break. -/
theorem mem_body_iff {c : Char} (hc : c = '\n' ∨ c = '*') :
    c ∈ e.body ↔ c = if e.fired then '*' else ' ' := by
  have hblank : c ≠ ' ' := by rcases hc with rfl | rfl <;> decide
  have hdigits : c ∉ Nat.toDigits 10 e.index :=
    not_mem_toDigits (by rcases hc with rfl | rfl <;> rfl) _
  have hnumeric : Json.isNumeric c = false := by rcases hc with rfl | rfl <;> rfl
  have hnumber : c ∉ Single.chars e.registers.r0 :=
    Single.not_mem_chars hnumeric (by rcases hc with rfl | rfl <;> decide) _
  have hstep : c ∉ e.step.chars :=
    e.step.not_mem_chars hnumeric (by rcases hc with rfl | rfl <;> decide)
  have hword : c ∉ " r0 = ".toList := by rcases hc with rfl | rfl <;> decide
  simp only [body, List.leftpad, List.rightpad, List.mem_append, List.mem_cons, List.mem_replicate,
    hblank, hdigits, hnumber, hstep, hword, and_false, or_false, false_or]

theorem newline_not_mem_body : '\n' ∉ e.body := by
  rw [e.mem_body_iff (.inl rfl)]
  cases e.fired <;> decide

theorem star_mem_body_iff : '*' ∈ e.body ↔ e.fired = true := by
  rw [e.mem_body_iff (.inr rfl)]
  cases e.fired <;> decide

end Trace.Entry

/-- The line of a result without its end. -/
def resultBody (result : Float32) (fired total : Nat) : List Char :=
  "result ".toList ++ Single.chars result ++ " (".toList ++ Nat.toDigits 10 fired ++
    " of ".toList ++ Nat.toDigits 10 total ++ " steps fired)".toList

theorem resultLine_eq_body (result : Float32) (fired total : Nat) :
    resultLine result fired total = resultBody result fired total ++ ['\n'] := by
  have hend : " steps fired)\n".toList = " steps fired)".toList ++ ['\n'] := by
    decide +kernel
  unfold resultLine resultBody
  rw [hend, ← List.append_assoc]

theorem not_mem_resultBody {c : Char} (hc : c = '\n' ∨ c = '*') (result : Float32)
    (fired total : Nat) : c ∉ resultBody result fired total := by
  have hdigits (n : Nat) : c ∉ Nat.toDigits 10 n :=
    not_mem_toDigits (by rcases hc with rfl | rfl <;> rfl) n
  have hnumber : c ∉ Single.chars result := by
    rcases hc with rfl | rfl <;> exact Single.not_mem_chars rfl (by decide) _
  have happend {us vs : List Char} (hus : c ∉ us) (hvs : c ∉ vs) : c ∉ us ++ vs := fun h =>
    (List.mem_append.1 h).elim hus hvs
  refine happend (happend (happend (happend (happend (happend ?_ hnumber) ?_) (hdigits _)) ?_)
    (hdigits _)) ?_ <;> rcases hc with rfl | rfl <;> decide +kernel

/-! ## Traces -/

namespace ProgramId

variable (t : Trig) (p : ProgramId) (x0 x1 : Float32)

/-- The lines of a program at work, without their ends. -/
def traceLines : List (List Char) :=
  ((p.trace x0 x1).entries t).map Trace.Entry.body ++
    [resultBody (p.evaluate t x0 x1) (((p.trace x0 x1).entries t).countP (·.fired)) p.steps.length]

theorem newline_not_mem_traceLines {cs : List Char} (hcs : cs ∈ p.traceLines t x0 x1) :
    '\n' ∉ cs := by
  rw [traceLines, List.mem_append, List.mem_map, List.mem_singleton] at hcs
  rcases hcs with ⟨e, -, rfl⟩ | rfl
  · exact e.newline_not_mem_body
  · exact not_mem_resultBody (.inl rfl) _ _ _

theorem splitOn_traceText :
    (p.traceText t x0 x1).toList.splitOn '\n' = p.traceLines t x0 x1 ++ [[]] := by
  have hline : Trace.Entry.line = fun e => e.body ++ ['\n'] := funext Trace.Entry.line_eq_body
  have htext : (p.traceText t x0 x1).toList =
      (p.traceLines t x0 x1).flatMap fun cs => cs ++ ['\n'] := by
    rw [traceText, String.toList_ofList, hline, resultLine_eq_body, traceLines, List.flatMap_append,
      List.flatMap_map, List.flatMap_singleton]
  rw [htext, Text.splitOn_flatMap_lines (fun cs => cs)
    fun _ => p.newline_not_mem_traceLines t x0 x1, List.map_id']

theorem entries_trace :
    (p.trace x0 x1).entries t = (Trace.after t p.steps x0 x1 0).entries t := rfl

theorem length_entries_trace : ((p.trace x0 x1).entries t).length = 256 := by
  rw [entries_trace, Trace.length_entries_after, p.length_steps]

theorem length_traceLines : (p.traceLines t x0 x1).length = 257 := by
  rw [traceLines, List.length_append, List.length_map, length_entries_trace, List.length_singleton]

theorem getElem?_traceLines {i : Nat} (h : i < p.steps.length) :
    (p.traceLines t x0 x1)[i]? = some (Trace.entryAt t p.steps x0 x1 i h).body := by
  have hlt : i < (((p.trace x0 x1).entries t).map Trace.Entry.body).length := by
    rw [List.length_map, length_entries_trace, ← p.length_steps]
    exact h
  rw [traceLines, List.getElem?_append_left hlt, List.getElem?_map, entries_trace,
    Trace.getElem?_entries_after i (Nat.zero_le _), Nat.zero_add, Trace.entryAt?_of_lt h,
    Option.map_some]

/-- There are as many lines with a star as there are steps that fired. -/
theorem countP_star_traceLines :
    (p.traceLines t x0 x1).countP (fun cs => '*' ∈ cs) =
      ((p.trace x0 x1).entries t).countP (·.fired) := by
  rw [traceLines, List.countP_append, List.countP_map, List.countP_singleton,
    if_neg (by simpa using not_mem_resultBody (.inr rfl) _ _ _), Nat.add_zero]
  refine List.countP_congr fun e _ => ?_
  simpa using e.star_mem_body_iff

theorem getElem?_traceLines_last :
    (p.traceLines t x0 x1)[256]? = some (resultBody (registersAfter t p.steps x0 x1 256).r0
      ((p.traceLines t x0 x1).countP fun cs => '*' ∈ cs) 256) := by
  have hlength : (((p.trace x0 x1).entries t).map Trace.Entry.body).length = 256 := by
    rw [List.length_map, length_entries_trace]
  have hresult : (registersAfter t p.steps x0 x1 256).r0 = p.evaluate t x0 x1 := by
    rw [← p.length_steps, r0_registersAfter_length, evaluate]
  rw [countP_star_traceLines, hresult, traceLines, List.getElem?_append_right hlength.le, hlength,
    p.length_steps]
  rfl

end ProgramId

/-- The lines show a program at work, and then what came of it: for each step its index, a star if
it fired, the step and the `r0` behind it, and at last the `r0` of the last line once more, and the
number of lines with a star. -/
structure ShowsRun (t : Trig) (p : ProgramId) (x0 x1 : Float32) (lines : List (List Char)) :
    Prop where
  length_steps : p.steps.length = 256
  length_lines : lines.length = 257
  step_line : ∀ (i : Nat) (h : i < p.steps.length), ∃ mark,
    lines[i]? = some ((Nat.toDigits 10 i).leftpad 4 ' ' ++ ' ' :: mark :: ' ' ::
      (p.steps[i].chars.rightpad 32 ' ' ++ " r0 = ".toList ++
        Single.chars (registersAfter t p.steps x0 x1 (i + 1)).r0)) ∧
    mark = if (registersAfter t p.steps x0 x1 i).passes p.steps[i].guard then '*' else ' '
  star_iff : ∀ (i : Nat) (h : i < p.steps.length), ∀ line ∈ lines[i]?,
    '*' ∈ line ↔ (registersAfter t p.steps x0 x1 i).passes p.steps[i].guard = true
  result_line : lines[256]? = some ("result ".toList ++
    Single.chars (registersAfter t p.steps x0 x1 256).r0 ++ " (".toList ++
    Nat.toDigits 10 (lines.countP fun line => '*' ∈ line) ++ " of ".toList ++
    Nat.toDigits 10 256 ++ " steps fired)".toList)

theorem ProgramId.showsRun_traceLines (t : Trig) (p : ProgramId) (x0 x1 : Float32) :
    ShowsRun t p x0 x1 (p.traceLines t x0 x1) where
  length_steps := p.length_steps
  length_lines := p.length_traceLines t x0 x1
  step_line i h := ⟨_, p.getElem?_traceLines t x0 x1 h, rfl⟩
  star_iff i h line hline := by
    rw [p.getElem?_traceLines t x0 x1 h] at hline
    obtain rfl := Option.some.inj hline
    exact (Trace.entryAt t p.steps x0 x1 i h).star_mem_body_iff
  result_line := p.getElem?_traceLines_last t x0 x1

namespace Command

/-! ## Arguments -/

/-- The first argument is the number of a program and the others are numbers. -/
def Accepts : List String → Prop
  | [] => False
  | program :: inputs => (∃ n, Count.Writes program.toList n ∧ n ≤ 4) ∧
      ∀ arg ∈ inputs, ∃ x, Single.Writes arg.toList x

/-- The first argument that cannot be read, and the line that says so. -/
inductive FirstFailure : List String → String → Prop
  | invalid {program : String} {inputs : List String}
      (h : ¬ ∃ n, Count.Writes program.toList n ∧ n < 2 ^ 64) :
      FirstFailure (program :: inputs) ("invalid program: " ++ program)
  | unknown {program : String} {inputs : List String} {n : Nat}
      (h : Count.Writes program.toList n) (hn : 5 ≤ n) (hlt : n < 2 ^ 64) :
      FirstFailure (program :: inputs)
        ("unknown program " ++ toString n ++ ", there are only 5 programs")
  | x0 {program arg0 arg1 : String} {n : Nat} (h : Count.Writes program.toList n) (hn : n ≤ 4)
      (h0 : ¬ ∃ x, Single.Writes arg0.toList x) :
      FirstFailure [program, arg0, arg1] ("invalid x0: " ++ arg0)
  | x1 {program arg0 arg1 : String} {n : Nat} {x0 : Float32}
      (h : Count.Writes program.toList n) (hn : n ≤ 4) (h0 : Single.Writes arg0.toList x0)
      (h1 : ¬ ∃ x, Single.Writes arg1.toList x) :
      FirstFailure [program, arg0, arg1] ("invalid x1: " ++ arg1)

theorem readProgram_of_writes {arg : String} {p : ProgramId} (h : Count.Writes arg.toList p) :
    readProgram arg = .ok p := by
  have hlt : (p : ℕ) < Count.limit := p.isLt.trans (by decide)
  have hp : ProgramId.ofNat p = .ok p := dif_pos p.isLt
  rw [readProgram, Count.ofChars_of_writes h hlt]
  show (ProgramId.ofNat p).mapError _ = _
  rw [hp]
  rfl

theorem readProgram_of_unknown {arg : String} {n : Nat} (h : Count.Writes arg.toList n)
    (hn : 5 ≤ n) (hlt : n < 2 ^ 64) :
    readProgram arg =
      .error ("unknown program " ++ toString n ++ ", there are only 5 programs") := by
  have hp : ProgramId.ofNat n = .error ⟨n, 5⟩ := dif_neg (Nat.not_lt.2 hn)
  have hmessage : UnknownProgram.message ⟨n, 5⟩ =
      "unknown program " ++ toString n ++ ", there are only 5 programs" := by
    show "unknown program " ++ toString n ++ ", there are only " ++ toString 5 ++ " programs" = _
    rw [String.append_assoc, String.append_assoc]
    exact congrArg _ (by decide +kernel)
  rw [readProgram, Count.ofChars_of_writes h hlt]
  show (ProgramId.ofNat n).mapError _ = _
  rw [hp, ← hmessage]
  rfl

theorem readProgram_of_invalid {arg : String}
    (h : ¬ ∃ n, Count.Writes arg.toList n ∧ n < 2 ^ 64) :
    readProgram arg = .error ("invalid program: " ++ arg) := by
  rw [readProgram]
  cases hread : Count.ofChars arg.toList with
  | error e => rfl
  | ok n => exact absurd ⟨n, Count.ofChars_eq_ok_iff.1 hread⟩ h

theorem readInput_of_writes {what arg : String} {x : Float32} (h : Single.Writes arg.toList x) :
    readInput what arg = .ok x := by
  rw [readInput, Single.ofText?, Single.ofChars?_eq_some_iff.2 h]

theorem readInput_of_invalid {what arg : String} (h : ¬ ∃ x, Single.Writes arg.toList x) :
    readInput what arg = .error ("invalid " ++ what ++ ": " ++ arg) := by
  rw [readInput, Single.ofText?]
  cases hread : Single.ofChars? arg.toList with
  | none => rfl
  | some x => exact absurd ⟨x, Single.ofChars?_eq_some_iff.1 hread⟩ h

/-! ## Ends -/

section

variable {t : Trig} {command program arg0 arg1 line : String} {p : ProgramId} {x0 x1 : Float32}

theorem inspect_one (h : Count.Writes program.toList p) :
    inspect t command [program] = .success p.listing := by
  simp only [inspect, inspectText, readProgram_of_writes h]
  rfl

theorem inspect_three (h : Count.Writes program.toList p) (h0 : Single.Writes arg0.toList x0)
    (h1 : Single.Writes arg1.toList x1) :
    inspect t command [program, arg0, arg1] = .success (p.traceText t x0 x1) := by
  simp only [inspect, inspectText, readProgram_of_writes h, readInput_of_writes h0,
    readInput_of_writes h1]
  rfl

/-- What is wrong with the program is reported before the other arguments are looked at. -/
theorem inspect_of_readProgram {inputs : List String}
    (hinputs : inputs.length = 0 ∨ inputs.length = 2) (h : readProgram program = .error line) :
    inspect t command (program :: inputs) = .failure 2 line := by
  rcases hinputs with hinputs | hinputs
  · obtain rfl := List.length_eq_zero_iff.1 hinputs
    simp only [inspect, inspectText, h]
    rfl
  · obtain ⟨arg0, arg1, rfl⟩ := List.length_eq_two.1 hinputs
    simp only [inspect, inspectText, h]
    rfl

theorem inspect_of_x0 (h : Count.Writes program.toList p)
    (h0 : ¬ ∃ x, Single.Writes arg0.toList x) :
    inspect t command [program, arg0, arg1] = .failure 2 ("invalid x0: " ++ arg0) := by
  simp only [inspect, inspectText, readProgram_of_writes h, readInput_of_invalid h0]
  rfl

theorem inspect_of_x1 (h : Count.Writes program.toList p) (h0 : Single.Writes arg0.toList x0)
    (h1 : ¬ ∃ x, Single.Writes arg1.toList x) :
    inspect t command [program, arg0, arg1] = .failure 2 ("invalid x1: " ++ arg1) := by
  simp only [inspect, inspectText, readProgram_of_writes h, readInput_of_writes h0,
    readInput_of_invalid h1]
  rfl

end

theorem inspect_of_firstFailure (t : Trig) {args : List String} {command line : String}
    (hargs : args.length = 1 ∨ args.length = 3) (h : FirstFailure args line) :
    inspect t command args = .failure 2 line := by
  cases h with
  | invalid h => exact inspect_of_readProgram (by simpa using hargs) (readProgram_of_invalid h)
  | unknown h hn hlt =>
    exact inspect_of_readProgram (by simpa using hargs) (readProgram_of_unknown h hn hlt)
  | @x0 program arg0 arg1 n h hn h0 =>
    exact inspect_of_x0 (p := ⟨n, Nat.lt_succ_of_le hn⟩) h h0
  | @x1 program arg0 arg1 n x0 h hn h0 h1 =>
    exact inspect_of_x1 (p := ⟨n, Nat.lt_succ_of_le hn⟩) h h0 h1

theorem accepts_or_firstFailure {args : List String} (hargs : args.length = 1 ∨ args.length = 3) :
    Accepts args ∨ ∃ line, FirstFailure args line := by
  obtain ⟨program, inputs, rfl⟩ := List.exists_cons_of_ne_nil (l := args) fun hnil => by
    rw [hnil] at hargs
    exact absurd hargs (by decide)
  by_cases hprogram : ∃ n, Count.Writes program.toList n ∧ n < 2 ^ 64
  swap
  · exact .inr ⟨_, .invalid hprogram⟩
  obtain ⟨n, h, hlt⟩ := hprogram
  by_cases hn : n ≤ 4
  swap
  · exact .inr ⟨_, .unknown h (Nat.not_le.1 hn) hlt⟩
  rcases hargs with hargs | hargs
  · obtain rfl : inputs = [] := List.length_eq_zero_iff.1 (Nat.succ.inj hargs)
    exact .inl ⟨⟨n, h, hn⟩, fun _ h => nomatch h⟩
  · obtain ⟨arg0, arg1, rfl⟩ := List.length_eq_two.1 (Nat.succ.inj hargs)
    by_cases h0 : ∃ x, Single.Writes arg0.toList x
    swap
    · exact .inr ⟨_, .x0 h hn h0⟩
    obtain ⟨x0, h0⟩ := h0
    by_cases h1 : ∃ x, Single.Writes arg1.toList x
    swap
    · exact .inr ⟨_, .x1 h hn h0 h1⟩
    refine .inl ⟨⟨n, h, hn⟩, fun arg harg => ?_⟩
    rcases List.mem_pair.1 harg with rfl | rfl
    · exact ⟨x0, h0⟩
    · exact h1

theorem exists_inspect_of_accepts (t : Trig) (command : String) {args : List String}
    (hargs : args.length = 1 ∨ args.length = 3) (h : Accepts args) :
    ∃ stdout, inspect t command args = .success stdout := by
  obtain ⟨program, inputs, rfl⟩ := List.exists_cons_of_ne_nil (l := args) fun hnil => by
    rw [hnil] at h
    exact h
  obtain ⟨⟨n, hn, hle⟩, hinputs⟩ := h
  rcases hargs with hargs | hargs
  · obtain rfl : inputs = [] := List.length_eq_zero_iff.1 (Nat.succ.inj hargs)
    exact ⟨_, inspect_one (p := ⟨n, Nat.lt_succ_of_le hle⟩) hn⟩
  · obtain ⟨arg0, arg1, rfl⟩ := List.length_eq_two.1 (Nat.succ.inj hargs)
    obtain ⟨x0, h0⟩ := hinputs arg0 (by simp)
    obtain ⟨x1, h1⟩ := hinputs arg1 (by simp)
    exact ⟨_, inspect_three (p := ⟨n, Nat.lt_succ_of_le hle⟩) hn h0 h1⟩

/-- How the command ends.  It succeeds exactly where it accepts its arguments.  Otherwise it prints
nothing but the line about the first of them that cannot be read, whatever the others are.  For an
input pair it prints a line for each step and one for the result. -/
theorem inspect_ends (t : Trig) (command : String) (args : List String)
    (hargs : args.length = 1 ∨ args.length = 3) :
    ((inspect t command args).code = 0 ↔ Accepts args) ∧
    (¬ Accepts args → ∃ line, FirstFailure args line ∧ inspect t command args = .failure 2 line) ∧
    (∀ line, FirstFailure args line → inspect t command args = .failure 2 line) ∧
    (∀ (program : String) (p : ProgramId), args = [program] → Count.Writes program.toList p →
      inspect t command args = .success p.listing) ∧
    ∀ (program arg0 arg1 : String) (p : ProgramId) (x0 x1 : Float32),
      args = [program, arg0, arg1] → Count.Writes program.toList p →
      Single.Writes arg0.toList x0 → Single.Writes arg1.toList x1 →
      ∃ stdout lines, inspect t command args = .success stdout ∧
        stdout.toList.splitOn '\n' = lines ++ [[]] ∧ ShowsRun t p x0 x1 lines := by
  have hfails : ∀ line, FirstFailure args line → inspect t command args = .failure 2 line :=
    fun line => inspect_of_firstFailure t hargs
  refine ⟨⟨fun hcode => ?_, fun h => ?_⟩, fun h => ?_, hfails, ?_, ?_⟩
  · refine (accepts_or_firstFailure hargs).resolve_right ?_
    rintro ⟨line, hline⟩
    rw [hfails line hline] at hcode
    have htwo : 2 = 0 := hcode
    exact absurd htwo (by decide)
  · obtain ⟨stdout, hstdout⟩ := exists_inspect_of_accepts t command hargs h
    rw [hstdout]
    rfl
  · obtain ⟨line, hline⟩ := (accepts_or_firstFailure hargs).resolve_left h
    exact ⟨line, hline, hfails line hline⟩
  · rintro program p rfl h
    exact inspect_one h
  · rintro program arg0 arg1 p x0 x1 rfl h h0 h1
    exact ⟨_, _, inspect_three h h0 h1, p.splitOn_traceText t x0 x1, p.showsRun_traceLines t x0 x1⟩

theorem inspect_ends_signs :
    Count.Writes "+003".toList 3 ∧ Single.Writes "-2.5e-1".toList (-0.25) ∧
    Single.Writes "+iNf".toList Single.infinity ∧
    (inspect .platform "programs" ["+003", "-2.5e-1", "+iNf"]).code = 0 ∧
    (∃ stdout lines, inspect .platform "programs" ["+003", "-2.5e-1", "+iNf"] = .success stdout ∧
      stdout.toList.splitOn '\n' = lines ++ [[]] ∧
      ShowsRun .platform 3 (-0.25) Single.infinity lines) ∧
    (∃ line, FirstFailure ["3", "0x1", ""] line ∧
      inspect .platform "programs" ["3", "0x1", ""] = .failure 2 line) ∧
    inspect .platform "programs" ["5", "0x1", ""] =
      .failure 2 "unknown program 5, there are only 5 programs" := by
  have hp : Count.Writes "+003".toList 3 := (Count.ofChars_eq_ok_iff.1 (by decide +kernel)).1
  have h0 : Single.Writes "-2.5e-1".toList (-0.25) :=
    Single.ofChars?_eq_some_iff.1 (by decide +kernel)
  have h1 : Single.Writes "+iNf".toList Single.infinity :=
    Single.ofChars?_eq_some_iff.1 (by decide +kernel)
  have hbad : ¬ ∃ x, Single.Writes "0x1".toList x := by
    rintro ⟨x, h⟩
    have hnone : Single.ofChars? "0x1".toList = none := by decide +kernel
    exact nomatch hnone.symm.trans (Single.ofChars?_eq_some_iff.2 h)
  have hnot : ¬ Accepts ["3", "0x1", ""] := fun h => hbad (h.2 "0x1" (by decide))
  have hunknown : FirstFailure ["5", "0x1", ""] "unknown program 5, there are only 5 programs" :=
    .unknown (n := 5) (Count.ofChars_eq_ok_iff.1 (by decide +kernel)).1 (by decide) (by decide)
  obtain ⟨haccepts, -, -, -, hrun⟩ :=
    inspect_ends .platform "programs" ["+003", "-2.5e-1", "+iNf"] (.inr rfl)
  obtain ⟨-, hfirst, -⟩ := inspect_ends .platform "programs" ["3", "0x1", ""] (.inr rfl)
  obtain ⟨-, -, hfails, -⟩ := inspect_ends .platform "programs" ["5", "0x1", ""] (.inr rfl)
  refine ⟨hp, h0, h1, haccepts.2 ⟨⟨3, hp, by decide⟩, fun arg harg => ?_⟩,
    hrun _ _ _ 3 _ _ rfl hp h0 h1, hfirst hnot, hfails _ hunknown⟩
  rcases List.mem_pair.1 harg with rfl | rfl
  · exact ⟨_, h0⟩
  · exact ⟨_, h1⟩

end Command

end TwoSpirals
