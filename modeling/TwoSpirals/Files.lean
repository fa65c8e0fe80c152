import TwoSpirals.Batch
import TwoSpirals.Single.Bytes

/-!
# Files

`Files` is what this library asks of a place that holds files: to open what is under a path, to tell
its length, to read from its front, and to make a file hold given bytes and nothing else.
`readSingles` and `writeSingles` are the files of numbers built on it, four bytes to a number.
-/

namespace TwoSpirals

/-- Why a file cannot be read or written. -/
inductive FileError where
  /-- A path has no end inside it. -/
  | nulInPath
  /-- The system's number for the failure, and its words. -/
  | system (code : Nat) (reason : String)
deriving DecidableEq

namespace FileError

/-- The wording of the error. -/
def message : FileError → String
  | nulInPath => "file name contained an unexpected NUL byte"
  | system code reason => s!"{reason} (os error {code})"

/-- Nothing has the name. -/
def notFound : FileError := system 2 "No such file or directory"

/-- A file stands where the path needs a directory. -/
def notDirectory : FileError := system 20 "Not a directory"

/-- A directory stands where the path needs a file. -/
def isDirectory : FileError := system 21 "Is a directory"

/-- A name or the path as a whole has too many bytes. -/
def nameTooLong : FileError := system 36 "File name too long"

end FileError

/-- A place that holds files under paths. -/
class Files (m : Type → Type) where
  /-- What has been opened. -/
  Handle : Type
  /-- Opens what is under a path, which may be a directory. -/
  openPath : String → m (Except FileError Handle)
  /-- The length that is given for what has been opened. -/
  length : Handle → m (Except FileError Nat)
  /-- The first bytes of what has been opened, no more than so many. -/
  readUpTo : Handle → Nat → m (Except FileError (List UInt8))
  /-- Makes a file hold the given bytes, whatever it held before. -/
  write : String → List UInt8 → m (Except FileError Unit)

/-- Why a run fails. -/
inductive RunError where
  | file (path : String) (cause : FileError)
  | shape (mismatch : ShapeMismatch)
  | usage (form : String)
  | invalidSettings (reason : String)
deriving DecidableEq

/-- The wording of the error. -/
def ShapeMismatch.message (e : ShapeMismatch) : String :=
  s!"shape mismatch for {e.what}: got {e.got}, expected {e.expected}"

/-- The wording of the error. -/
def RunError.message : RunError → String
  | file path cause => "io error on " ++ path ++ ": " ++ cause.message
  | shape mismatch => mismatch.message
  | usage form => "usage: " ++ form
  | invalidSettings reason => "invalid config: " ++ reason

variable {m : Type → Type} [Monad m] [Files m]

/-- The numbers of a file that holds `expected` of them.  Its length is compared before anything is
read, so a directory is refused for the length that is given for it, and what has been read is
counted again. -/
def readSingles (path : String) (expected : Nat) : m (Except RunError (List Float32)) := do
  match ← Files.openPath path with
  | .error cause => return .error (.file path cause)
  | .ok file =>
    match ← Files.length file with
    | .error cause => return .error (.file path cause)
    | .ok length =>
      if length ≠ expected * 4 then
        return .error (.shape ⟨"input bytes", length, expected * 4⟩)
      match ← Files.readUpTo file (expected * 4) with
      | .error cause => return .error (.file path cause)
      | .ok bytes =>
        if bytes.length ≠ expected * 4 then
          return .error (.shape ⟨"input bytes", bytes.length, expected * 4⟩)
        return .ok (Single.decode bytes)

/-- Makes a file hold the given numbers. -/
def writeSingles (path : String) (data : List Float32) : m (Except RunError Unit) := do
  return (← Files.write path (Single.encode data)).mapError (.file path)

end TwoSpirals
