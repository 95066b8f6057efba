/-
  Names derived from a component and its properties.

  * `expectedRole`: the accessibility role that a component's name suggests;
  * `className`: the style class of a property, lower case with a hyphen before each capital;
  * `importPath`: how a suite in a subdirectory names the component's file;
  * `Component.displayName`: the component's name, or one made from its path;
  * `textVariable`, `handlerVariable`: variables of a suite.
-/
import Suitewright.Component.Model
import Suitewright.Project.Path
import Suitewright.Text.Case
import Suitewright.Text.Scan

namespace Suitewright

/-- Keywords with their roles, the first one found wins. -/
def roleKeywords : List (String × String) :=
  [("button", "button"), ("input", "textbox"), ("select", "combobox"), ("checkbox", "checkbox"),
    ("radio", "radio"), ("link", "link")]

/-- The role when no keyword is found. -/
def defaultRole : String := "button"

/-- The accessibility role that a component's name suggests. -/
def expectedRole (componentName : String) : String :=
  let lowered := (Text.lower componentName).toList
  ((roleKeywords.find? fun (keyword, _) => Text.occursIn keyword.toList lowered).map (·.2)).getD defaultRole

/-- Puts a hyphen before each capital of ASCII. -/
def hyphenate (cs : List Char) : List Char :=
  cs.flatMap fun c => if c.isUpper then ['-', c] else [c]

/-- The style class of a property. -/
def className (name : String) : String := Text.lower (.ofList (hyphenate name.toList))

/-- A text without blanks and then without quotes at its ends. -/
def stripQuotes (s : String) : String :=
  .ofList (Text.dropEnds TypeText.isQuote (Text.trimChars s.toList))

/-- The extensions of component sources. -/
def sourceExtensions : List (List Char) :=
  [".ts".toList, ".tsx".toList, ".js".toList, ".jsx".toList]

/-- Drops a source extension at the end; a line feed after it is kept. -/
def dropSourceExtension (cs : List Char) : List Char :=
  let (body, tail) := match cs.reverse with
    | '\n' :: rest => (rest.reverse, ['\n'])
    | _ => (cs, [])
  match sourceExtensions.find? (·.isSuffixOf body) with
  | some e => body.take (body.length - e.length) ++ tail
  | none => cs

/-- How a suite in a subdirectory beside the component names its file. -/
def importPath (source : String) : String :=
  "../" ++ .ofList (dropSourceExtension (Path.ofSource source).name.toList)

/-- Joins the capitalized words of ASCII letters and digits of a text. -/
def joinCapitalized (cs : List Char) : List Char :=
  (Text.runsOf Char.isAlphanum cs).flatMap Text.capitalizeChars

/-- The component's name; without one it is made from the file name, or from the directory of an index. -/
def Component.displayName (m : Component) : String :=
  if m.name.isEmpty then
    let path := Path.ofSource m.sourcePath
    let stem := dropSourceExtension path.name.toList
    let stem := if stem == "index".toList && !path.parent.name.isEmpty then path.parent.name.toList else stem
    let name := joinCapitalized stem
    if name.isEmpty then "Component" else .ofList name
  else m.name

/-- The variable that holds the text shown for a property. -/
def textVariable (propName : String) : String := "test" ++ .ofList (joinCapitalized propName.toList)

/-- The variable that holds the handler of an event property. -/
def handlerVariable (propName : String) : String :=
  let cs := propName.toList
  let base := if "on".toList.isPrefixOf cs && 2 < cs.length then cs.drop 2 else cs
  "handle" ++ .ofList (joinCapitalized base)

end Suitewright
