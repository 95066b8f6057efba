/-
  Kinds of failure that a runner's output shows.

  * `Signal`: a failure with what the output names: a module, a symbol, a role, or a property and its line;
  * `Signal.toText`: a signal as it is shown in messages.
-/
import Suitewright.Text.Shown

namespace Suitewright

/-- A kind of failure found in a runner's output. -/
inductive Signal where
  /-- A text attribute was written with a second pair of quotes. -/
  | quotedLiteral
  /-- A closure without effect could not be read. -/
  | malformedClosure
  /-- A relative module was not found. -/
  | unresolvedImport (module : String)
  /-- A module does not export a symbol by name. -/
  | namedImportMissing (symbol : String)
  /-- No element has a role. -/
  | roleNotFound (role : String)
  /-- A required property is not given, at a line if one is told. -/
  | missingProp (prop : String) (line : Option Int)
  /-- An element does not have an expected style class. -/
  | classMismatch
  /-- No element shows a text. -/
  | textNotFound
  /-- No element has the role of a status or an image. -/
  | statusOrImageRole (role : String)
  deriving Repr, DecidableEq, Inhabited

/-- A signal as it is shown in messages. -/
def Signal.toText : Signal → String
  | quotedLiteral => "QuotedLiteral()"
  | malformedClosure => "MalformedClosure()"
  | unresolvedImport m => "UnresolvedImport(module=" ++ Text.shown m ++ ")"
  | namedImportMissing s => "NamedImportMissing(symbol=" ++ Text.shown s ++ ")"
  | roleNotFound r => "RoleNotFound(role=" ++ Text.shown r ++ ")"
  | missingProp p line =>
    "MissingProp(prop=" ++ Text.shown p ++ ", line=" ++ (line.map toString).getD "None" ++ ")"
  | classMismatch => "ClassMismatch()"
  | textNotFound => "TextNotFound()"
  | statusOrImageRole r => "StatusOrImageRole(role=" ++ Text.shown r ++ ")"

end Suitewright
