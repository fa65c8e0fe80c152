import TwoSpirals.Count
import TwoSpirals.Text.Blank

/-!
# Settings

How many samples a run takes and whether it may evaluate them in parallel.  `Settings.ofEnvironment`
reads both from the variables `SAMPLES` and `PARALLEL`, and falls back on ten samples in parallel.
-/

namespace TwoSpirals

/-- The settings of a run. -/
structure Settings where
  samples : Nat := 10
  samples_pos : 0 < samples := by decide
  parallel : Bool := true
deriving DecidableEq

/-- The variables that the settings are read from, where they are set. -/
structure Environment where
  samples : Option String := none
  parallel : Option String := none

namespace Settings

/-- What can be wrong with the variables, with the value as it was set. -/
inductive Error where
  | samples (value : String) (cause : Count.Error)
  | parallel (value : String)
deriving DecidableEq

/-- The wording of the error. -/
def Error.message : Error → String
  | samples value cause => "SAMPLES=" ++ value ++ ": " ++ cause.message
  | parallel value => "PARALLEL=" ++ value ++ ": expected a boolean"

/-- The number of floats in an input. -/
def inputLength (s : Settings) : Nat := s.samples * 2

/-- The number of floats in an output. -/
def outputLength (s : Settings) : Nat := s.samples * 5

/-- The truth value that a word stands for. -/
def flag? (word : List Char) : Option Bool :=
  if word ∈ ["1".toList, "true".toList, "yes".toList] then some true
  else if word ∈ ["0".toList, "false".toList, "no".toList] then some false
  else none

/-- The value of `SAMPLES`, blanks around it aside. -/
def readSamples (value : String) : Except Error { n : Nat // 0 < n } :=
  (Count.positive (Text.trim value.toList)).mapError (.samples value)

/-- The value of `PARALLEL`, blanks around it and the case of its letters aside. -/
def readParallel (value : String) : Except Error Bool :=
  match flag? ((Text.trim value.toList).map Char.toLower) with
  | some b => .ok b
  | none => .error (.parallel value)

/-- The settings that the variables make.  `SAMPLES` is read first. -/
def ofEnvironment (env : Environment) : Except Error Settings := do
  let ⟨samples, samples_pos⟩ ←
    match env.samples with
    | some value => readSamples value
    | none => .ok ⟨10, by decide⟩
  let parallel ←
    match env.parallel with
    | some value => readParallel value
    | none => .ok true
  return { samples, samples_pos, parallel }

end Settings

end TwoSpirals
