/-
  A file system, as one process sees it.

  * `Files`: the occupied places, and the current directory;
  * `Files.locate`: where a path leads, step by step;
  * `Files.read`, `write`, `makeDirectory`, `makeDirectories`, `save`: what a process does with files, or why it
    cannot.

  There are no links, and everything may be read and written.
-/
import Suitewright.Project.Path
import Suitewright.Text.Shown
import Suitewright.Text.Utf8

namespace Suitewright

/-- What a place holds. -/
inductive Entry where
  /-- A file with its bytes. -/
  | file (bytes : List UInt8)
  /-- A directory. -/
  | directory
  deriving Repr, DecidableEq, Inhabited

/-- A place: the names from the top down to it. -/
abbrev Place := List String

/-- A file system: the current directory, and the occupied places. The top itself is always a directory. -/
structure Files where
  /-- The directory in which relative paths begin. -/
  here : Path
  /-- What the places hold. -/
  entries : List (Place × Entry) := []
  deriving Repr, DecidableEq, Inhabited

/-- Why something cannot be done with a file. -/
inductive FileError where
  /-- There is nothing, or no directory for it. -/
  | missing (path : Path)
  /-- The place is occupied. -/
  | occupied (path : Path)
  /-- A file stands where a directory is needed. -/
  | notADirectory (path : Path)
  /-- A directory stands where a file is needed. -/
  | isADirectory (path : Path)
  /-- The path has a null character. -/
  | nullCharacter
  deriving Repr, DecidableEq, Inhabited

/-- A numbered reason with its path. -/
def numberedReason (number : Nat) (reason : String) (path : Path) : String :=
  "[Errno " ++ toString number ++ "] " ++ reason ++ ": " ++ Text.shown path.toText

/-- The reason in words. -/
def FileError.message : FileError → String
  | missing p => numberedReason 2 "No such file or directory" p
  | occupied p => numberedReason 17 "File exists" p
  | notADirectory p => numberedReason 20 "Not a directory" p
  | isADirectory p => numberedReason 21 "Is a directory" p
  | nullCharacter => "embedded null byte"

/-- Whether a path has a null character. -/
def Path.hasNull (p : Path) : Bool := p.segments.any fun s => s.toList.contains '\x00'

/-- Where a path leads. -/
inductive Spot where
  /-- To something. -/
  | found (place : Place) (entry : Entry)
  /-- To a free place in a directory. -/
  | free (place : Place)
  /-- Nowhere, because a directory on the way is missing. -/
  | lost
  /-- Nowhere, because a file is on the way. -/
  | blocked
  deriving Repr, DecidableEq, Inhabited

namespace Files

/-! ## Places -/

/-- What a place holds. -/
def get? (fs : Files) (place : Place) : Option Entry :=
  if place.isEmpty then some .directory else fs.entries.lookup place

/-- Replaces what a place holds in a list, or adds it. -/
def put (place : Place) (entry : Entry) : List (Place × Entry) → List (Place × Entry)
  | [] => [(place, entry)]
  | e :: rest => if e.1 == place then (place, entry) :: rest else e :: put place entry rest

/-- The file system with something at a place. -/
def set (fs : Files) (place : Place) (entry : Entry) : Files := { fs with entries := put place entry fs.entries }

/-- Where names lead from a directory. -/
def locateFrom (fs : Files) (place : Place) : List String → Spot
  | [] => .found place .directory
  | name :: rest =>
    if name == ".." then fs.locateFrom place.dropLast rest
    else
      let next := place ++ [name]
      match fs.get? next with
      | some .directory => fs.locateFrom next rest
      | some (.file bytes) => if rest.isEmpty then .found next (.file bytes) else .blocked
      | none => if rest.isEmpty then .free next else .lost

/-- Where a path leads. -/
def locate (fs : Files) (path : Path) : Spot := fs.locateFrom [] (fs.here.join path).segments

/-! ## Questions -/

/-- Whether a path leads to a file. -/
def isFile (fs : Files) (path : Path) : Bool :=
  match fs.locate path with
  | .found _ (.file _) => !path.hasNull
  | _ => false

/-- Whether a path leads to a directory. -/
def isDirectory (fs : Files) (path : Path) : Bool :=
  match fs.locate path with
  | .found _ .directory => !path.hasNull
  | _ => false

/-- Whether a path leads to anything. -/
def isOccupied (fs : Files) (path : Path) : Bool := fs.isFile path || fs.isDirectory path

/-- The absolute path that a path denotes. -/
def resolve (fs : Files) (path : Path) : Except FileError Path :=
  if path.hasNull then .error .nullCharacter else .ok (Path.resolveIn fs.here path)

/-! ## Files -/

/-- The bytes of a file. -/
def read (fs : Files) (path : Path) : Except FileError (List UInt8) :=
  if path.hasNull then .error .nullCharacter
  else match fs.locate path with
    | .found _ (.file bytes) => .ok bytes
    | .found _ .directory => .error (.isADirectory path)
    | .blocked => .error (.notADirectory path)
    | .free _ | .lost => .error (.missing path)

/-- The file system after writing a file. -/
def write (fs : Files) (path : Path) (bytes : List UInt8) : Except FileError Files :=
  if path.hasNull then .error .nullCharacter
  else match fs.locate path with
    | .found place (.file _) | .free place => .ok (fs.set place (.file bytes))
    | .found _ .directory => .error (.isADirectory path)
    | .blocked => .error (.notADirectory path)
    | .lost => .error (.missing path)

/-! ## Directories -/

/-- The file system after making one directory. -/
def makeDirectory (fs : Files) (path : Path) : Except FileError Files :=
  if path.hasNull then .error .nullCharacter
  else match fs.locate path with
    | .found .. => .error (.occupied path)
    | .free place => .ok (fs.set place .directory)
    | .blocked => .error (.notADirectory path)
    | .lost => .error (.missing path)

/-- Makes a directory unless it is there; its own directory must be there. -/
def ensureDirectory (fs : Files) (path : Path) : Except FileError Files :=
  match fs.makeDirectory path with
  | .error e => if fs.isDirectory path then .ok fs else .error e
  | done => done

/-- The file system after a step, and why the step failed, if it did; a failed step changes nothing. -/
def settle (fs : Files) : Except FileError Files → Files × Option FileError
  | .ok next => (next, none)
  | .error e => (fs, some e)

/-- Makes a directory and at most `n` missing ones above it, unless they are there. When one of them cannot be
made, the ones made before it stay. -/
def makeDirectoriesUpTo (fs : Files) : Nat → Path → Files × Option FileError
  | 0, path => fs.settle (fs.ensureDirectory path)
  | n + 1, path =>
    match fs.makeDirectory path with
    | .error (.missing _) =>
      match fs.makeDirectoriesUpTo n path.parent with
      | (above, none) => above.settle (above.ensureDirectory path)
      | failed => failed
    | _ => fs.settle (fs.ensureDirectory path)

/-- Makes a directory and the missing ones above it, unless they are there. -/
def makeDirectories (fs : Files) (path : Path) : Files × Option FileError :=
  fs.makeDirectoriesUpTo path.segments.length path

/-- Writes a file, and makes the missing directories above it. -/
def save (fs : Files) (path : Path) (bytes : List UInt8) : Files × Option FileError :=
  match fs.makeDirectories path.parent with
  | (made, none) => made.settle (made.write path bytes)
  | failed => failed

/-! ## Whole trees -/

/-- The file system without a place and everything below it. -/
def remove (fs : Files) (place : Place) : Files :=
  { fs with entries := fs.entries.filter fun e => !place.isPrefixOf e.1 }

/-- The file system with something at a place and directories above it. -/
def install (fs : Files) (place : Place) (entry : Entry) : Files :=
  let above := (List.range place.length).drop 1 |>.map fun n => place.take n
  (above.foldl (fun (fs : Files) p => fs.set p .directory) fs).set place entry

/-- The files below a place, and the directories that hold nothing, with the names from the place down. -/
def listing (fs : Files) (place : Place) : List (Place × Entry) :=
  let below := fs.entries.filter fun e => place.isPrefixOf e.1 && e.1 != place
  let isBare (e : Place × Entry) : Bool := match e.2 with
    | .file _ => true
    | .directory => !below.any fun o => e.1.isPrefixOf o.1 && o.1 != e.1
  (below.filter isBare).map fun e => (e.1.drop place.length, e.2)

end Files

end Suitewright
