/-
  The journal on the console and in a file.

  * `Level.shows`: which records are written at a level;
  * `Note.consoleLine`, `fileLine`: a record as it is written;
  * `Work.openJournal`, `closeJournal`: makes the file of the journal, and adds the records to it.
-/
import Suitewright.Loop.Request

namespace Suitewright

/-- How serious a level is, as a number. -/
def Level.rank : Level → Nat
  | debug => 0
  | info => 1
  | warning => 2
  | error => 3

/-- Whether a record is written at a level. -/
def Level.shows (level : Level) (n : Note) : Bool := level.rank ≤ n.level.rank

/-- A record as it is written on the console. -/
def Note.consoleLine (n : Note) : String := "[testgen] " ++ n.level.label ++ " " ++ n.message ++ "\n"

/-- A record as it is written in a file; the stamp tells when it was made. -/
def Note.fileLine (stamp : String) (n : Note) : String :=
  stamp ++ n.level.label ++ " testgen." ++ n.source ++ ": " ++ n.message ++ "\n"

namespace Work

/-- Adds text at the end of a file, which is made if it is missing. -/
def appendText (path : Path) (text : String) : Work Unit := do
  let fs ← files
  let old ← match fs.read path with
    | .ok bytes => pure bytes
    | .error (.missing _) => pure []
    | .error e => throw (.file e)
  changeFiles fun fs => fs.settle (fs.write path (old ++ Utf8.encode text))

/-- Makes the file of the journal and the directory for it; gives the file's absolute path. -/
def openJournal (file : String) : Work Path := do
  let path := Path.ofText file
  changeFiles (·.makeDirectories path.parent)
  let path ← resolve path
  appendText path ""
  return path

/-- Adds records to the file of the journal. -/
def closeJournal (stamp : String) (notes : List Note) (path : Path) : Work Unit :=
  appendText path (String.join (notes.map (Note.fileLine stamp)))

end Work

end Suitewright
