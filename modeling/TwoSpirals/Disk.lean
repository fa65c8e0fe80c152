import TwoSpirals.Files

/-!
# Disks

A `Disk` is a tree of directories and files, kept as a table from locations to nodes.  Paths are
taken from its root: `Disk.locate` follows one to a node that is there, and `Disk.target` to the
place of a file that is to be written.  A disk is a place for `Files`, where what has been opened is
a location.  A directory can be opened and has a length, but it cannot be read.
-/

namespace TwoSpirals

/-- A name in a directory. -/
abbrev Name := List Char

/-- The names on the way from the root. -/
abbrev Location := List Name

/-- What a location holds. -/
inductive Node where
  | directory
  | file (bytes : List UInt8)
deriving DecidableEq

/-- Directories and files.  The root is always there. -/
structure Disk where
  nodes : List (Location × Node) := []
  /-- The length that is given for a directory, which may hang on all that is there.  Systems differ
  in it; a block of 4096 bytes is usual. -/
  directoryLength : List (Location × Node) → Location → Nat := fun _ _ => 4096

/-! ## Paths -/

namespace Path

/-- The parts of a path between its slashes. -/
def split : List Char → List Name
  | [] => [[]]
  | c :: cs =>
    if c = '/' then [] :: split cs
    else
      match split cs with
      | [] => [[c]]
      | name :: names => (c :: name) :: names

/-- The number of bytes that characters take. -/
def byteCount (cs : List Char) : Nat := cs.foldr (fun c n => c.utf8Size + n) 0

/-- Part of a path that stays where it is. -/
def isHere (name : Name) : Bool := name = [] ∨ name = ['.']

/-- Part of a path that goes back to the directory above. -/
def isUp (name : Name) : Bool := name = ['.', '.']

/-- What no path may be: empty, too long, or with an end inside it. -/
def check (path : List Char) : Except FileError Unit :=
  if '\x00' ∈ path then .error .nulInPath
  else if path = [] then .error .notFound
  else if 4096 ≤ byteCount path then .error .nameTooLong
  else .ok ()

/-- What no name may be: too long. -/
def checkName (name : Name) : Except FileError Unit :=
  if 256 ≤ byteCount name then .error .nameTooLong else .ok ()

end Path

namespace Disk

/-! ## Nodes -/

/-- What a location holds. -/
def node? (d : Disk) (l : Location) : Option Node :=
  if l = [] then some .directory else d.nodes.lookup l

/-- The disk with a location made to hold a node. -/
def put (d : Disk) (l : Location) (n : Node) : Disk :=
  { d with nodes := (l, n) :: d.nodes.filter fun e => e.1 ≠ l }

/-- The disk with a directory at a location and at those on the way to it. -/
def makeDirectory (d : Disk) (l : Location) : Disk :=
  (List.range l.length).foldl (fun d i => d.put (l.take (i + 1)) .directory) d

/-! ## Following paths -/

/-- Goes from a location along one part of a path. -/
def enter (d : Disk) (here : Location) (name : Name) : Except FileError Location :=
  match d.node? here with
  | none => .error .notFound
  | some (.file _) => .error .notDirectory
  | some .directory =>
    if Path.isHere name then .ok here
    else if Path.isUp name then .ok here.dropLast
    else do
      Path.checkName name
      match d.node? (here ++ [name]) with
      | none => .error .notFound
      | some _ => .ok (here ++ [name])

/-- Goes from a location along the parts of a path. -/
def walk (d : Disk) (here : Location) (names : List Name) : Except FileError Location :=
  names.foldlM d.enter here

/-- The location that a path leads to. -/
def locate (d : Disk) (path : List Char) : Except FileError Location := do
  Path.check path
  d.walk [] (Path.split path)

/-- The place of the file `name` in the directory `here`.  A directory is in the way there, and so
is a slash after the name. -/
def place (d : Disk) (here : Location) (name : Name) (slash : Bool) :
    Except FileError Location :=
  match d.node? here with
  | none => .error .notFound
  | some (.file _) => .error .notDirectory
  | some .directory =>
    if slash ∨ Path.isHere name ∨ Path.isUp name then .error .isDirectory
    else do
      Path.checkName name
      match d.node? (here ++ [name]) with
      | some .directory => .error .isDirectory
      | _ => .ok (here ++ [name])

/-- The place of the file that is written under a path.  The file itself need not be there. -/
def target (d : Disk) (path : List Char) : Except FileError Location := do
  Path.check path
  let names := Path.split path
  let kept := (names.reverse.dropWhile (· = [])).reverse
  match kept.getLast? with
  | none => .error .isDirectory
  | some name =>
    let here ← d.walk [] kept.dropLast
    d.place here name (kept.length < names.length)

/-! ## Reading and writing -/

/-- The length that is given for what a location holds. -/
def lengthAt (d : Disk) (l : Location) : Nat :=
  match d.node? l with
  | some (.file bytes) => bytes.length
  | _ => d.directoryLength d.nodes l

/-- The bytes of the file at a location. -/
def bytesAt (d : Disk) (l : Location) : Except FileError (List UInt8) :=
  match d.node? l with
  | some (.file bytes) => .ok bytes
  | _ => .error .isDirectory

/-- The first bytes of the file at a location.  Where none are asked for, nothing is read, so a
directory is no obstacle then. -/
def readAt (d : Disk) (l : Location) (count : Nat) : Except FileError (List UInt8) :=
  if count = 0 then .ok [] else (d.bytesAt l).map (·.take count)

/-- The length that is given for what is under a path. -/
def length (d : Disk) (path : String) : Except FileError Nat :=
  (d.locate path.toList).map d.lengthAt

/-- The bytes of the file under a path. -/
def read (d : Disk) (path : String) : Except FileError (List UInt8) := do
  let l ← d.locate path.toList
  d.bytesAt l

/-- The disk with the given bytes in the file under a path. -/
def write (d : Disk) (path : String) (bytes : List UInt8) : Except FileError Disk := do
  let l ← d.target path.toList
  return d.put l (.file bytes)

end Disk

instance : Files (StateM Disk) where
  Handle := Location
  openPath path := do return (← get).locate path.toList
  length l := do return .ok ((← get).lengthAt l)
  readUpTo l count := do return (← get).readAt l count
  write path bytes := do
    match (← get).write path bytes with
    | .ok d => set d; return .ok ()
    | .error e => return .error e

end TwoSpirals
