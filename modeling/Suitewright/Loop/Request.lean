/-
  Requests and what they do.

  * `Workspace`: the files, the processes to come, and what was done so far;
  * `RequestError`: why a request fails;
  * `Work`: work on a workspace, which stays changed when the work fails;
  * `Settings.load`, `locateComponent`, `readComponent`, `analyzeComponent`: the parts of requests.
-/
import Suitewright.Project.SettingsFile
import Suitewright.Repair.Rule
import Suitewright.Runner.Verify
import Suitewright.Script.Parse
import Suitewright.Tree.Analysis

namespace Suitewright

/-- A process that was started. -/
structure Call where
  /-- Its command. -/
  args : List String
  /-- Its directory. -/
  directory : Path
  /-- The files as it found them. -/
  files : Files
  deriving Repr, DecidableEq, Inhabited

/-- What work changes. -/
structure Workspace where
  /-- The files. -/
  files : Files
  /-- The home directory. -/
  home : Path
  /-- What becomes of the processes to come. -/
  script : Script := []
  /-- The processes that were started. -/
  calls : List Call := []
  /-- The journal. -/
  notes : List Note := []
  deriving Inhabited

/-- Why a request fails. -/
inductive RequestError where
  /-- The component's path leads to no file. -/
  | componentMissing (path : Path)
  /-- Somebody's home directory is not known. -/
  | homeUnknown
  /-- Something cannot be done with a file. -/
  | file (e : FileError)
  /-- A file is no text. -/
  | encoding (e : Utf8Error)
  /-- There are no settings. -/
  | settings (e : SettingsError)
  /-- A repair failed. -/
  | repair (e : RepairError)
  /-- Starting a process failed. -/
  | crash (c : Crash)
  deriving Repr, DecidableEq

/-- The reason in words. -/
def RequestError.message : RequestError → String
  | componentMissing path => "Component file not found: " ++ path.toText
  | homeUnknown => "Could not determine home directory."
  | file e => e.message
  | encoding e => e.message
  | settings e => e.message
  | repair e => e.message
  | crash c => c.message

/-- How a failure is to be seen by the one who made the request. -/
inductive Blame where
  /-- Something asked for does not exist. -/
  | missing
  /-- The request cannot be carried out in this project. -/
  | refused
  /-- The program failed. -/
  | internal
  deriving Repr, DecidableEq, Inhabited

/-- How a failure is to be seen. -/
def RequestError.blame : RequestError → Blame
  | componentMissing _ | file (.missing _) => .missing
  | homeUnknown => .refused
  | settings e => if e.isRefusal then .refused else .internal
  | crash c => if c.refused then .refused else .internal
  | _ => .internal

/-- Why a file cannot be read as text, as the failure of a request. -/
def RequestError.ofRead : ReadFault → RequestError
  | .file e => .file e
  | .encoding e => .encoding e

/-! ## Tasks -/

/-- Work on a workspace. -/
abbrev Work := ExceptT RequestError (StateM Workspace)

namespace Work

/-- What work gives on a workspace, or why it fails, and the workspace after it. -/
def runOn {α : Type} (work : Work α) (w : Workspace) : Except RequestError α × Workspace := work.run.run w

/-- A result or a failure. -/
def ofExcept {ε α : Type} (toError : ε → RequestError) : Except ε α → Work α
  | .ok a => pure a
  | .error e => throw (toError e)

/-- What work gives or why it fails; the failure does not end the work around it. -/
def attempt {α : Type} (work : Work α) : Work (Except RequestError α) := ExceptT.lift work.run

/-- Adds records to the journal. -/
def log (notes : List Note) : Work Unit := modify fun w => { w with notes := w.notes ++ notes }

/-- Adds a record of this part of the program to the journal. -/
def note (level : Level) (message : String) : Work Unit := log [⟨level, "orchestrator", message⟩]

/-- The files. -/
def files : Work Files := do return (← get).files

/-- A path whose first name stands for a home directory, if it begins with a tilde. -/
def expandHome (path : Path) : Work Path := do
  match path.slashes, path.segments with
  | 0, first :: rest =>
    if first == "~" then
      let home := (← get).home
      return { home with segments := home.segments ++ rest }
    else if first.toList.head? == some '~' then
      if first.toList.contains '\x00' then throw (.file .nullCharacter) else throw .homeUnknown
    else return path
  | _, _ => return path

/-- The absolute path that a path denotes. -/
def resolve (path : Path) : Work Path := do ofExcept .file ((← files).resolve path)

/-- The text of a file. -/
def readText (path : Path) : Work String := do ofExcept .ofRead ((← files).readText path)

/-- Changes the files; where that fails, what was done before stays. -/
def changeFiles (change : Files → Files × Option FileError) : Work Unit := do
  let w ← get
  let (fs, fault) := change w.files
  set { w with files := fs }
  match fault with
  | some e => throw (.file e)
  | none => pure ()

/-- Writes a file, and makes its directory if it is missing. -/
def persist (path : Path) (text : String) : Work Unit := changeFiles (·.save path (Utf8.encode text))

end Work

/-! ## Parts of requests -/

/-- The settings for a path, and the directory that they belong to. -/
def Settings.load (path : Path) : Work (Path × Settings) := do
  let path ← Work.expandHome path
  let file ← Work.resolve (settingsPath (← Work.files) path)
  if (← Work.files).isOccupied file then
    let text ← Work.readText file
    return (file.parent, ← Work.ofExcept .settings (Settings.ofText text))
  else return (file.parent, {})

/-- The path of a component's file below a project's root. -/
def locateComponent (file root : String) : Work Path := do
  let base ← Work.expandHome (.ofText root)
  let path ← Work.resolve (base.child file)
  if (← Work.files).isFile path then return path else throw (.componentMissing path)

/-- The source of a component. -/
def readComponent (file root : String) : Work String := do Work.readText (← locateComponent file root)

/-- The component of a source, with a record of what was not found. -/
def analyzeSource (source file : String) : Work Component := do
  let (m, failure) := analyzeTree (.ok (Script.parse (.ofPath file) source)) file
  match failure with
  | some e => Work.log [⟨.warning, "analyzer", degradedWarning file e⟩]
  | none => pure ()
  if m.name.isEmpty then Work.log [⟨.debug, "analyzer", "No component declaration found in " ++ file⟩]
  return m

/-- The component of a file. -/
def analyzeComponent (file root : String) : Work Component := do
  analyzeSource (← readComponent file root) file

end Suitewright
