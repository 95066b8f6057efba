/-
  The registry of parsers.

  * `Plugin`: an installed parser by name, with what loading it gives;
  * `loadBackend`: the parser of a name; the built-in one comes first, then the first plugin of the name, and
    upper and lower case do not matter;
  * `Grammar.ofPath`: the grammar that the built-in parser takes for a file.
-/
import Suitewright.Project.Path
import Suitewright.Text.Case

namespace Suitewright

/-- What loading a plugin gives. -/
inductive PluginKind where
  /-- A parser. -/
  | parser
  /-- A function that makes a parser. -/
  | factory
  /-- A function that makes something else. -/
  | otherFactory
  /-- Neither a parser nor a function. -/
  | value
  /-- The unfinished class of parsers, of which none can be made. -/
  | unfinished
  /-- A failure with a message. -/
  | failing (message : String)
  deriving Repr, DecidableEq

/-- An installed parser. -/
structure Plugin where
  /-- Its name. -/
  name : String
  /-- What loading it gives. -/
  kind : PluginKind
  deriving Repr, DecidableEq

/-- A parser that was found. -/
inductive Backend where
  /-- The built-in parser. -/
  | builtin
  /-- A plugin. -/
  | plugin
  deriving Repr, DecidableEq

/-- Why no parser was found. -/
inductive BackendError where
  /-- No parser has the name. -/
  | unknown (name : String)
  /-- A plugin cannot be loaded. -/
  | loadFailed (name message : String)
  /-- A plugin is no parser. -/
  | notAParser
  /-- A plugin is the unfinished class of parsers. -/
  | unfinished
  deriving Repr, DecidableEq

/-- The message of a parser that was not found. -/
def BackendError.message : BackendError → String
  | unknown name => "Unknown parser backend requested: " ++ name
  | loadFailed name message =>
    "Failed to load parser backend entry point '" ++ name ++ "': " ++ message
  | notAParser => "Parser backend entry point must be a ParserBackend subclass or factory"
  | unfinished => "Can't instantiate abstract class ParserBackend with abstract methods parse, visit"

/-- The name of the built-in parser. -/
def builtinBackend : String := "tree-sitter"

/-- What a plugin gives. -/
def Plugin.load (p : Plugin) : Except BackendError Backend :=
  match p.kind with
  | .parser | .factory => .ok .plugin
  | .otherFactory | .value => .error .notAParser
  | .unfinished => .error .unfinished
  | .failing message => .error (.loadFailed p.name message)

/-- The parser of a name, and the names of the plugins that were loaded. -/
def loadBackend (name : String) (plugins : List Plugin) : Except BackendError Backend × List String :=
  let key := Text.lower name
  if key == builtinBackend then (.ok .builtin, [])
  else match plugins.find? fun p => Text.lower p.name == key with
    | some p => (p.load, [p.name])
    | none => (.error (.unknown name), [])

/-- The grammars of the built-in parser. -/
inductive Grammar where
  /-- Types and type assertions in angle brackets. -/
  | plain
  /-- Types and markup. -/
  | markup
  deriving Repr, DecidableEq, Inhabited

/-- The extensions of files without markup. -/
def plainExtensions : List String := [".ts", ".mts", ".cts"]

/-- The grammar of a file. -/
def Grammar.ofPath (path : String) : Grammar :=
  if plainExtensions.contains (Text.lower (Path.ofSource path).extension) then plain else markup

end Suitewright
