import TwoSpirals.Command.Tool

/-!
# The command line

The first argument names a tool and the others are its own.  Here and only here the library meets
the machine's files, its environment and its standard streams.
-/

namespace TwoSpirals

/-- The machine's report of a failure. -/
def FileError.ofSystem : IO.Error → FileError
  | .alreadyExists _ code reason
  | .inappropriateType _ code reason
  | .interrupted _ code reason
  | .invalidArgument _ code reason
  | .noFileOrDirectory _ code reason
  | .noSuchThing _ code reason
  | .permissionDenied _ code reason
  | .resourceExhausted _ code reason
  | .hardwareFault code reason
  | .illegalOperation code reason
  | .otherError code reason
  | .protocolError code reason
  | .resourceBusy code reason
  | .resourceVanished code reason
  | .timeExpired code reason
  | .unsatisfiedConstraints code reason
  | .unsupportedOperation code reason => .system code.toNat reason
  | .unexpectedEof => .system 0 "unexpected end of file"
  | .userError reason => .system 0 reason

/-- An action on the machine's files.  No path with an end inside it reaches the machine. -/
def onMachine {α : Type} (path : String) (act : IO α) : IO (Except FileError α) := do
  if '\x00' ∈ path.toList then
    return .error .nulInPath
  try
    return .ok (← act)
  catch e =>
    return .error (.ofSystem e)

instance : Files IO where
  Handle := String × IO.FS.Handle
  openPath path := onMachine path do return (path, ← IO.FS.Handle.mk path .read)
  -- An open file does not tell its length here, so the path is asked once more.
  length file := onMachine file.1 do
    return (← (← IO.FS.realPath file.1).metadata).byteSize.toNat
  readUpTo file count := onMachine file.1 do
    if count = 0 then return []
    return (← file.2.read count.toUSize).toList
  write path bytes := onMachine path (IO.FS.writeBinFile path ⟨bytes.toArray⟩)

end TwoSpirals

open TwoSpirals

/-- Runs a tool. -/
def main (args : List String) : IO UInt32 := do
  match args with
  | [] =>
    IO.eprintln "no tool named"
    return 2
  | name :: args =>
    match Tool.ofName? name with
    | none =>
      IO.eprintln ("no tool named " ++ name)
      return 2
    | some tool =>
      let samples ← IO.getEnv "SAMPLES"
      let parallel ← IO.getEnv "PARALLEL"
      let outcome : Outcome ← tool.run .platform { samples, parallel } args
      IO.print outcome.stdout
      IO.eprint outcome.stderr
      return outcome.code.toUInt32
