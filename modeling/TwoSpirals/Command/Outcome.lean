/-!
# Outcomes of commands

What a command leaves behind besides files: an exit code and what it printed.
-/

namespace TwoSpirals

/-- The end of a command. -/
structure Outcome where
  code : Nat := 0
  stdout : String := ""
  stderr : String := ""
deriving DecidableEq

namespace Outcome

/-- The end of a command that succeeds. -/
def success (stdout : String) : Outcome := { stdout }

/-- The end of a command that fails and has printed nothing but why. -/
def failure (code : Nat) (line : String) : Outcome := { code, stderr := line ++ "\n" }

end Outcome

end TwoSpirals
