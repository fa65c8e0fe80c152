import TwoSpirals.Proofs.Count
import TwoSpirals.Proofs.Text.Blank
import TwoSpirals.Settings

/-!
# Settings from an environment

An environment is `Readable` if each of its variables is unset or has a value that is read.  Settings
are made from these environments and from no others (`exists_ofEnvironment_iff`).  What the values
must be is said by `AsksFor` and `Chooses`, character by character, and `ofEnvironment_grammar` says
of every environment what comes out of it, with the errors.
-/

namespace TwoSpirals

/-- Each variable is unset or has a value that can be read. -/
def Environment.Readable (env : Environment) : Prop :=
  (∀ value ∈ env.samples, ∃ n, Settings.readSamples value = .ok n) ∧
    ∀ value ∈ env.parallel, ∃ b, Settings.readParallel value = .ok b

namespace Settings

variable {env : Environment}

/-- The number of samples that the variables ask for. -/
def samplesOf (env : Environment) : Except Error { n : Nat // 0 < n } :=
  match env.samples with
  | some value => readSamples value
  | none => .ok ⟨10, Nat.succ_pos 9⟩

/-- Whether the variables ask for a parallel run. -/
def parallelOf (env : Environment) : Except Error Bool :=
  match env.parallel with
  | some value => readParallel value
  | none => .ok true

theorem ofEnvironment_eq (env : Environment) :
    ofEnvironment env = (samplesOf env).bind fun n => (parallelOf env).map fun parallel =>
      { samples := n.1, samples_pos := n.2, parallel } := by
  obtain ⟨samples, parallel⟩ := env
  cases samples with
  | none => cases parallel <;> rfl
  | some value => cases parallel <;> rfl

theorem exists_samplesOf_iff :
    (∃ n, samplesOf env = .ok n) ↔ ∀ value ∈ env.samples, ∃ n, readSamples value = .ok n := by
  unfold samplesOf
  cases env.samples with
  | none => exact iff_of_true ⟨_, rfl⟩ nofun
  | some value => simp

theorem exists_parallelOf_iff :
    (∃ b, parallelOf env = .ok b) ↔ ∀ value ∈ env.parallel, ∃ b, readParallel value = .ok b := by
  unfold parallelOf
  cases env.parallel with
  | none => exact iff_of_true ⟨_, rfl⟩ nofun
  | some value => simp

/-- Settings are made exactly where the variables can be read. -/
theorem exists_ofEnvironment_iff : (∃ s, ofEnvironment env = .ok s) ↔ env.Readable := by
  rw [Environment.Readable, ← exists_samplesOf_iff, ← exists_parallelOf_iff, ofEnvironment_eq]
  cases samplesOf env with
  | error e => simp [Except.bind]
  | ok n =>
    cases parallelOf env with
    | error e => simp [Except.bind, Except.map]
    | ok b => simp [Except.bind, Except.map]

theorem exists_error_of_not_readable (h : ¬ env.Readable) : ∃ e, ofEnvironment env = .error e := by
  rw [← exists_ofEnvironment_iff] at h
  cases hs : ofEnvironment env with
  | error e => exact ⟨e, rfl⟩
  | ok s => exact absurd ⟨s, hs⟩ h

/-! ## Grammar -/

/-- A value of `SAMPLES`, where it is set, that asks for `n` samples. -/
def AsksFor : Option String → Nat → Prop
  | none, n => n = 10
  | some value, n =>
    ∃ t, Text.Stripped value.toList t ∧ Count.Writes t n ∧ 1 ≤ n ∧ n ≤ 2 ^ 64 - 1

/-- A value of `PARALLEL`, where it is set, that stands for `b`. -/
def Chooses : Option String → Bool → Prop
  | none, b => b = true
  | some value, b =>
    ∃ t, Text.Stripped value.toList t ∧ t.map Char.toLower ∈
      ((if b then ["1", "true", "yes"] else ["0", "false", "no"]).map String.toList)

theorem readSamples_eq_ok_iff {value : String} {n : { n : Nat // 0 < n }} :
    readSamples value = .ok n ↔ AsksFor (some value) n := by
  have hread : readSamples value = .ok n ↔ Count.positive (Text.trim value.toList) = .ok n := by
    unfold readSamples
    cases Count.positive (Text.trim value.toList) <;> simp [Except.mapError]
  simp only [hread, Count.positive_eq_ok_iff, AsksFor, Text.stripped_iff, exists_eq_left']
  have hlimit : n.1 < Count.limit ↔ n.1 ≤ 2 ^ 64 - 1 := Nat.lt_iff_le_pred (by decide)
  have hpos : 1 ≤ n.1 := n.2
  simp only [hlimit, hpos, true_and]

theorem readSamples_eq_error_iff {value : String} {e : Error} :
    readSamples value = .error e ↔
      ∃ cause, e = .samples value cause ∧
        ∃ t, Text.Stripped value.toList t ∧ Count.Fails t cause := by
  have hread : readSamples value = .error e ↔
      ∃ cause, e = .samples value cause ∧
        Count.positive (Text.trim value.toList) = .error cause := by
    unfold readSamples
    cases Count.positive (Text.trim value.toList) <;> simp [Except.mapError, eq_comm]
  simp only [hread, Count.positive_eq_error_iff, Text.stripped_iff, exists_eq_left']

theorem flag?_eq_some_iff {word : List Char} {b : Bool} :
    flag? word = some b ↔
      word ∈ ((if b then ["1", "true", "yes"] else ["0", "false", "no"]).map String.toList) := by
  constructor
  · intro h
    unfold flag? at h
    split_ifs at h with htrue hfalse
    · obtain rfl := Option.some.inj h
      exact htrue
    · obtain rfl := Option.some.inj h
      exact hfalse
  · -- No word stands for both.
    intro h
    cases b with
    | true => exact if_pos h
    | false =>
      have hnot : word ∉ ["1".toList, "true".toList, "yes".toList] := by
        simp only [Bool.false_eq_true, if_false, List.map_cons, List.map_nil, List.mem_cons,
          List.not_mem_nil, or_false] at h
        rcases h with rfl | rfl | rfl <;> decide
      rw [flag?, if_neg hnot]
      exact if_pos h

theorem chooses_iff {value : String} {b : Bool} :
    Chooses (some value) b ↔ flag? ((Text.trim value.toList).map Char.toLower) = some b := by
  simp only [Chooses, Text.stripped_iff, exists_eq_left', flag?_eq_some_iff]

theorem readParallel_eq_ok_iff {value : String} {b : Bool} :
    readParallel value = .ok b ↔ Chooses (some value) b := by
  rw [chooses_iff, readParallel]
  cases flag? ((Text.trim value.toList).map Char.toLower) <;> simp

theorem readParallel_eq_error_iff {value : String} {e : Error} :
    readParallel value = .error e ↔ e = .parallel value ∧ ∀ b, ¬ Chooses (some value) b := by
  simp only [chooses_iff, readParallel]
  cases flag? ((Text.trim value.toList).map Char.toLower) <;> simp [eq_comm]

theorem AsksFor.pos {value? : Option String} {n : Nat} (h : AsksFor value? n) : 0 < n := by
  cases value? with
  | none =>
    obtain rfl : n = 10 := h
    decide
  | some value =>
    obtain ⟨t, -, -, hpos, -⟩ := h
    exact hpos

theorem samplesOf_eq_ok_iff {n : { n : Nat // 0 < n }} :
    samplesOf env = .ok n ↔ AsksFor env.samples n := by
  unfold samplesOf
  cases env.samples with
  | none =>
    constructor
    · intro h
      obtain rfl := Except.ok.inj h
      rfl
    · intro h
      exact congrArg Except.ok (Subtype.ext h.symm)
  | some value => exact readSamples_eq_ok_iff

theorem exists_samplesOf_iff_asksFor :
    (∃ n, samplesOf env = .ok n) ↔ ∃ n, AsksFor env.samples n :=
  ⟨fun ⟨n, h⟩ => ⟨n, samplesOf_eq_ok_iff.1 h⟩,
    fun ⟨n, h⟩ => ⟨⟨n, h.pos⟩, samplesOf_eq_ok_iff.2 h⟩⟩

theorem samplesOf_eq_error_iff {e : Error} :
    samplesOf env = .error e ↔ ∃ value cause, e = .samples value cause ∧ env.samples = some value ∧
      ∃ t, Text.Stripped value.toList t ∧ Count.Fails t cause := by
  unfold samplesOf
  cases env.samples with
  | none => simp
  | some value => simp [readSamples_eq_error_iff]

theorem parallelOf_eq_ok_iff {b : Bool} : parallelOf env = .ok b ↔ Chooses env.parallel b := by
  unfold parallelOf
  cases env.parallel with
  | none => simp [Chooses, eq_comm]
  | some value => exact readParallel_eq_ok_iff

theorem parallelOf_eq_error_iff {e : Error} :
    parallelOf env = .error e ↔ ∃ value, e = .parallel value ∧ env.parallel = some value ∧
      ∀ b, ¬ Chooses (some value) b := by
  unfold parallelOf
  cases env.parallel with
  | none => simp
  | some value => simp [readParallel_eq_error_iff]

/-- The number of samples is read first, so that an error in it is the one reported. -/
theorem ofEnvironment_eq_error_iff {e : Error} :
    ofEnvironment env = .error e ↔ samplesOf env = .error e ∨
      (∃ n, samplesOf env = .ok n) ∧ parallelOf env = .error e := by
  rw [ofEnvironment_eq]
  cases samplesOf env with
  | error e' => simp [Except.bind]
  | ok n => cases parallelOf env <;> simp [Except.bind, Except.map]

theorem ofEnvironment_eq_ok_iff {s : Settings} :
    ofEnvironment env = .ok s ↔ samplesOf env = .ok ⟨s.samples, s.samples_pos⟩ ∧
      parallelOf env = .ok s.parallel := by
  obtain ⟨samples, samples_pos, parallel⟩ := s
  rw [ofEnvironment_eq]
  cases samplesOf env with
  | error e => simp [Except.bind]
  | ok n =>
    cases parallelOf env <;> simp [Except.bind, Except.map, Subtype.ext_iff]

/-- What an environment makes: settings where both of its values have their grammar, and else the
error of the first that has not.  The errors of a count exclude each other, and an error of
`SAMPLES` does not depend on `PARALLEL`. -/
theorem ofEnvironment_grammar (env : Environment) :
    (∀ s, ofEnvironment env = .ok s ↔
      AsksFor env.samples s.samples ∧ Chooses env.parallel s.parallel) ∧
    (∀ value cause, ofEnvironment env = .error (.samples value cause) ↔
      env.samples = some value ∧ ∃ t, Text.Stripped value.toList t ∧ Count.Fails t cause) ∧
    (∀ value, ofEnvironment env = .error (.parallel value) ↔
      (∃ n, AsksFor env.samples n) ∧ env.parallel = some value ∧
        ∀ b, ¬ Chooses (some value) b) ∧
    (∀ value, (Error.parallel value).message = "PARALLEL=" ++ value ++ ": expected a boolean") ∧
    (∀ value cause, (Error.samples value cause).message = "SAMPLES=" ++ value ++ ": " ++
      match cause with
      | .empty => "cannot parse integer from empty string"
      | .tooLarge => "number too large to fit in target type"
      | .invalidDigit => "invalid digit found in string"
      | .zero => "number would be zero for non-zero type") := by
  refine ⟨fun s => ?_, fun value cause => ?_, fun value => ?_, fun value => rfl,
    fun value cause => by cases cause <;> rfl⟩
  · rw [ofEnvironment_eq_ok_iff, samplesOf_eq_ok_iff, parallelOf_eq_ok_iff]
  · rw [ofEnvironment_eq_error_iff, samplesOf_eq_error_iff, parallelOf_eq_error_iff]
    simp
  · rw [ofEnvironment_eq_error_iff, samplesOf_eq_error_iff, parallelOf_eq_error_iff,
      exists_samplesOf_iff_asksFor]
    simp

-- Twenty digits are too many before the letter is seen, nineteen are not.
example : ofEnvironment { samples := some " 99999999999999999999x", parallel := some "maybe" } =
    .error (.samples " 99999999999999999999x" .tooLarge) := rfl

example : ofEnvironment { samples := some " 9999999999999999999x", parallel := some "maybe" } =
    .error (.samples " 9999999999999999999x" .invalidDigit) := rfl

end Settings

end TwoSpirals
