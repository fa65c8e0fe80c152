import TwoSpirals.Command.Dataset
import TwoSpirals.Command.Evaluate
import TwoSpirals.Command.Inspect
import TwoSpirals.Command.Predict

/-!
# The tools

The four commands of this library under the names they are called by.
-/

namespace TwoSpirals

/-- A command. -/
inductive Tool where
  | inspect
  | predict
  | dataset
  | evaluate
deriving DecidableEq

namespace Tool

/-- The name of a command. -/
def name : Tool → String
  | inspect => "programs"
  | predict => "driver"
  | dataset => "mkspiral"
  | evaluate => "spiral-gp"

/-- The command of a name. -/
def ofName? (name : String) : Option Tool :=
  [inspect, predict, dataset, evaluate].find? fun tool => tool.name = name

variable {m : Type → Type} [Monad m] [Files m]

/-- Runs a command that is called by the name `command`. -/
def runAs (t : Trig) (tool : Tool) (env : Environment) (command : String) (args : List String) :
    m Outcome :=
  match tool with
  | inspect => return Command.inspect t command args
  | predict => Command.predict t env command args
  | dataset => Command.dataset command args
  | evaluate => Command.evaluate t env command args

/-- Runs a command under its own name. -/
def run (t : Trig) (tool : Tool) (env : Environment) (args : List String) : m Outcome :=
  tool.runAs t env tool.name args

end Tool

end TwoSpirals
