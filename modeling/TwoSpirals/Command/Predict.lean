import TwoSpirals.Command.Outcome
import TwoSpirals.Run

/-!
# Predicting a file

`predict` evaluates the programs on a file of input pairs.  It writes the predictions to another
file, or prints them where there is none.
-/

namespace TwoSpirals

/-- The number of a program and its predictions. -/
def Predictions.line (p : Predictions) (program : ProgramId) : List Char :=
  program.chars ++ ':' :: ' ' ::
    ([' '].intercalate ((p.row program).map Single.chars) ++ ['\n'])

/-- A line for each program. -/
def Predictions.text (p : Predictions) : String := String.ofList (ProgramId.all.flatMap p.line)

namespace Command

variable {m : Type → Type} [Monad m] [Files m]

/-- The predictions for a file, with the settings of an environment. -/
def predictFile (t : Trig) (env : Environment) (input : String) (output : Option String) :
    m (Except RunError Predictions) :=
  match Settings.ofEnvironment env with
  | .error e => return .error (.invalidSettings e.message)
  | .ok s => do return (← runFiles t s input output).2

/-- `driver <input_path> [output_path]`, called by the name `command`. -/
def predict (t : Trig) (env : Environment) (command : String) (args : List String) :
    m Outcome := do
  match args with
  | [input] =>
    match ← predictFile t env input none with
    | .ok p => return .success p.text
    | .error e => return .failure 1 ("Error running batch: " ++ e.message)
  | [input, output] =>
    match ← predictFile t env input (some output) with
    | .ok _ => return .success ""
    | .error e => return .failure 1 ("Error running batch: " ++ e.message)
  | _ => return .failure 2 (RunError.usage (command ++ " <input_path> [output_path]")).message

end Command

end TwoSpirals
