/-
  The file with the settings of a project.

  * `Settings.ofValue`: the settings that a value gives; what is absent or unusable keeps its default;
  * `Settings.ofText`: the same for the text of a file;
  * `settingsPath`: the file for a path.
-/
import Suitewright.Number.Shortest
import Suitewright.Project.Files
import Suitewright.Project.Settings
import Suitewright.Text.Line
import Suitewright.Yaml.Value

namespace Suitewright

open Yaml (Value)

/-- Why there are no settings. -/
inductive SettingsError where
  /-- The document cannot be read. -/
  | document (e : Yaml.Error)
  /-- The document is no mapping. -/
  | notAMapping
  /-- An integer has no text. -/
  | number (fault : Number.IntegerFault)
  deriving Repr, DecidableEq, Inhabited

/-- The name of the file. -/
def settingsName : String := ".testgen.yml"

/-- The reason in words. -/
def SettingsError.message : SettingsError → String
  | document .malformed => "Failed to parse " ++ settingsName
  | document e => e.message
  | notAMapping => settingsName ++ " must contain a mapping at the root"
  | number fault => fault.message

/-- Whether the file is refused as a whole. -/
def SettingsError.isRefusal : SettingsError → Bool
  | document .malformed | notAMapping => true
  | _ => false

/-! ## Values -/

namespace Yaml.Value

/-- The pairs of a mapping. -/
def pairs : Value → List (Value × Value)
  | map pairs => pairs
  | _ => []

/-- Whether a value is a text with these characters. -/
def isText (text : String) : Value → Bool
  | str s => s == text
  | _ => false

/-- The value of a key in a mapping, the last one if there are several. -/
def field? (key : String) (v : Value) : Option Value :=
  (v.pairs.reverse.find? fun (k, _) => k.isText key).map (·.2)

/-- The items of a list, or of bytes. -/
def items? : Value → Option (List Value)
  | list items => some items
  | bytes bs => some (bs.map fun b => .int b.toNat)
  | _ => none

/-- The text of a text or a number. -/
def text? : Value → Except Number.IntegerFault (Option String)
  | str s => .ok (some s)
  | int n => (Number.integerText n).map some
  | float x => .ok (some x.toText)
  | _ => .ok none

/-- The text of an argument, which may also be a truth value. -/
def argument? : Value → Except Number.IntegerFault (Option String)
  | bool b => .ok (some (if b then "True" else "False"))
  | v => v.text?

/-- The arguments of a command: a text is split at its blanks, and of a list the texts and numbers count. -/
def command : Value → Except Number.IntegerFault (List String)
  | str s => .ok (Text.words s)
  | v => match v.items? with
    | some items => do return (← items.mapM argument?).filterMap id
    | none => .ok []

/-- The commands of a list, without empty ones. -/
def commands (v : Value) : Except Number.IntegerFault (List (List String)) := do
  return (← ((v.items?).getD []).mapM command).filter fun c => !c.isEmpty

end Yaml.Value

/-! ## Settings -/

/-- A value below two keys. -/
def settingAt? (v : Value) (group key : String) : Option Value := (v.field? group).bind (·.field? key)

/-- The text below two keys, unless it is empty. -/
def textSetting? (v : Value) (group key : String) : Except Number.IntegerFault (Option String) :=
  match settingAt? v group key with
  | some w => do return (← w.text?).filter fun s => !s.isEmpty
  | none => .ok none

/-- The ending of file names with a point at its beginning. -/
def pointed (suffix : String) : String := if suffix.toList.head? == some '.' then suffix else "." ++ suffix

/-- The settings of a mapping. -/
def settingsOf (v : Value) : Except Number.IntegerFault Settings := do
  let byDefault : Settings := {}
  let commands ← match settingAt? v "runner" "commands" with
    | some w => w.commands
    | none => pure []
  let testDir ← textSetting? v "output" "test_dir"
  let suffix ← textSetting? v "output" "suffix"
  return { commands := if commands.isEmpty then byDefault.commands else commands
           testDir := testDir.getD byDefault.testDir
           suffix := (suffix.map pointed).getD byDefault.suffix }

/-- The settings that a value gives. -/
def Settings.ofValue (v : Value) : Except SettingsError Settings :=
  match v with
  | .null => .ok {}
  | .map _ => (settingsOf v).mapError .number
  | _ => .error .notAMapping

/-- The settings that a text gives. -/
def Settings.ofText (text : String) : Except SettingsError Settings :=
  if (Text.trim text).isEmpty then .ok {}
  else match Yaml.load text with
    | .error e => .error (.document e)
    | .ok v => Settings.ofValue v

/-! ## Files -/

/-- The file with the settings for a path: in the directory that the path leads to, or beside it, or the path
itself if it has that name. -/
def settingsPath (fs : Files) (path : Path) : Path :=
  if fs.isDirectory path then path.child settingsName
  else if path.name == settingsName then path
  else path.parent.child settingsName

/-- What can go wrong in reading a file as text. -/
inductive ReadFault where
  /-- The file cannot be read. -/
  | file (e : FileError)
  /-- Its bytes are no text. -/
  | encoding (e : Utf8Error)
  deriving Repr, DecidableEq

/-- The text of a file, with line feeds at the ends of its lines. -/
def Files.readText (fs : Files) (path : Path) : Except ReadFault String := do
  let bytes ← (fs.read path).mapError .file
  let text ← (Utf8.decode bytes).mapError .encoding
  return .ofList (Text.unifyBreaks text.toList)

end Suitewright
