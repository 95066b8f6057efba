/-
  The program.

  * `gatherFiles`: the files that the program may see, taken from the disk;
  * `storeFiles`: brings what has changed back to the disk;
  * `performWork`: carries out work on the files of the disk, and shows the journal;
  * `main`: carries out the arguments of a call.

  Version histories and installed packages are not gathered, nor are files that are too large to be sources.
  No process is started: every runner counts as one that cannot be started.
-/
import Suitewright.Command.Run
import Std.Time.Format

open Suitewright

/-- The names of directories that hold no sources. -/
def passedOver : List String := [".git", "node_modules"]

/-- The size up to which a file may be a source. -/
def greatestSize : UInt64 := 4194304

/-- The deepest directory that is gathered, counted from where gathering began. -/
def greatestDepth : Nat := 32

/-- The place as a text. -/
def placeText (place : Place) : String := "/" ++ "/".intercalate place

/-- Gathers a file, unless it is too large or cannot be read. -/
def gatherFile (place : Place) (files : Files) : IO Files := do
  try
    let bytes ← IO.FS.readBinFile (placeText place)
    return files.set place (.file bytes.toList)
  catch _ => return files

/-- Gathers a directory and, down to a depth, what is in it. -/
def gatherTree : Nat → Place → Files → IO Files
  | 0, place, files => return files.set place .directory
  | depth + 1, place, files => do
    let mut files := files.set place .directory
    try
      for entry in ← (← IO.FS.realPath (placeText place)).readDir do
        let below := place ++ [entry.fileName]
        let about ← entry.path.metadata
        if about.type == .dir then
          unless passedOver.contains entry.fileName do files ← gatherTree depth below files
        else if about.byteSize ≤ greatestSize then files ← gatherFile below files
    catch _ => pure ()
    return files

/-- Gathers the directories above a place, with the settings in them, and everything below it. -/
def gatherAround (place : Place) (files : Files) : IO Files := do
  let mut files := files
  for n in List.range place.length do
    let above := place.take n
    unless n == 0 do files := files.set above .directory
    files ← gatherFile (above ++ [settingsName]) files
  gatherTree greatestDepth place files

/-- The workspace of the disk, seen from the current directory. -/
def gatherFiles : IO Workspace := do
  let here := Path.ofText (← IO.currentDir).toString
  let home := Path.ofText ((← IO.getEnv "HOME").getD "/")
  return { files := ← gatherAround here.segments { here }, home }

/-- Brings what has changed back to the disk. -/
def storeFiles (old new : Files) : IO Unit := do
  for (place, entry) in new.entries do
    unless old.get? place == some entry do
      match entry with
      | .directory => IO.FS.createDirAll (placeText place)
      | .file bytes => IO.FS.writeBinFile (placeText place) ⟨bytes.toArray⟩

/-- Carries out work on the files of the disk; the directory of a project may lie elsewhere. -/
def performWork {α : Type} (root : Option String) (work : StateM Workspace α) : IO (α × Workspace) := do
  let w ← gatherFiles
  let w ← match root.map fun r => w.files.resolve (.ofText r) with
    | some (.ok place) =>
      if w.files.isDirectory place then pure w
      else pure { w with files := ← gatherAround place.segments w.files }
    | _ => pure w
  let (a, w') := work.run w
  storeFiles w.files w'.files
  return (a, w')

/-- The moment as it stands in the file of the journal. -/
def stamp : IO String := do return (← Std.Time.PlainDateTime.now).format "uuuu-MM-dd HH:mm:ss,SSS "

/-- Carries out work for one line of the input, and shows what it adds to the journal. -/
def performShown {α : Type} (i : Command.Invocation) (root : Option String) (work : StateM Workspace α) :
    IO α := do
  let level := i.level
  let now ← stamp
  let (a, w) ← performWork root do
    let a ← work
    let notes := (← get).notes.filter level.shows
    match i.journal with
    | some file =>
      let _ ← (do Work.closeJournal now notes (← Work.openJournal file) : Work Unit).run
    | none => pure ()
    return a
  for n in w.notes.filter level.shows do (← IO.getStderr).putStr n.consoleLine
  return a

/-- Answers the lines of the input as they come. -/
partial def serveInput (i : Command.Invocation) (rest : List UInt8) : IO Unit := do
  let bytes ← (← IO.getStdin).read 65536
  let ended := bytes.isEmpty
  let parts := Text.splitAfter 10 (rest ++ bytes.toList)
  let complete := if ended then parts else parts.filter fun p => p.getLast? == some 10
  for part in complete do
    let line := Utf8.decode part
    let root := line.toOption.bind Rpc.rootNamed?
    let out ← performShown i root (Rpc.serveLine (Rpc.toolServer Command.defaultLimit) line)
    (← IO.getStdout).putStr out
    (← IO.getStdout).flush
  unless ended do serveInput i ((parts.find? fun p => p.getLast? != some 10).getD [])

/-- Carries out the arguments of a call. -/
def main (arguments : List String) : IO UInt32 := do
  match Command.Invocation.parse arguments with
  | .ok i@{ action := .serve, .. } =>
    performShown i none (Rpc.streamNote .info Rpc.openingNote)
    serveInput i []
    performShown i none (Rpc.streamNote .info Rpc.closingNote)
    return 0
  | parsed =>
    let root := match parsed with
      | .ok i => i.root?
      | .error _ => none
    let (result, _) ← performWork root (Command.run Command.defaultLimit (← stamp) [] arguments).run
    match result with
    | .ok ended =>
      (← IO.getStderr).putStr ended.err
      (← IO.getStdout).putStr ended.out
      if ended.serving.isSome then (← IO.getStderr).putStrLn "The web service cannot be offered here."
      return ended.status.toUInt32
    | .error e =>
      (← IO.getStderr).putStrLn e.message
      return 1
