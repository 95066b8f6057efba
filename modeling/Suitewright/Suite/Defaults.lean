/-
  Default values of properties in a suite.

  * `inlineDefault`, `objectDefault`: a property with its default, as an attribute and as an object entry;
  * `namedDefault`: the attribute of a property of which only the name is known;
  * `requiredObject`: the object of all required properties, some with given values.
-/
import Suitewright.Component.Naming
import Suitewright.Json.Printer

namespace Suitewright

/-- A text between braces. -/
def braced (s : String) : String := "\x7b" ++ s ++ "\x7d"

/-- The function that does nothing. -/
def noopClosure : String := "() => " ++ braced ""

/-- The texts of properties that show a text. -/
def labelTexts : List (String × String) := [("label", "Test Label"), ("text", "Test Text")]

/-- The texts of properties known by name alone. -/
def namedTexts : List (String × String) := labelTexts ++ [("title", "Test Title")]

/-- The flags among the properties known by name alone. -/
def namedFlags : List String := ["disabled", "loading", "visible"]

/-- The property that holds the content. -/
def childrenProp : String := "children"

/-- The content of a component in a suite. -/
def childrenText : String := "Test Content"

/-- An attribute with a text: between quotes as it is, or as an expression when it needs escapes. -/
def textAttribute (name value : String) : String :=
  if value.toList.contains '"' || value.toList.contains '\\' then name ++ "=" ++ braced (Json.quote value)
  else name ++ "=\"" ++ value ++ "\""

/-- Whether a key may stand without quotes in an object; a line feed at its end is overlooked. -/
def isPlainKey (key : String) : Bool :=
  let cs := key.toList
  let body := if ['\n'].isSuffixOf cs then cs.dropLast else cs
  match body with
  | c :: rest => Text.isIdentifierStart c && rest.all Text.isIdentifierPart
  | [] => false

namespace PropSpec

/-- The text that stands for the property's value. -/
def defaultText (p : PropSpec) : String :=
  if p.type.isUnion then p.type.firstAlternative
  else (labelTexts.lookup p.name).getD ("test-" ++ p.name)

/-- The property with its default as an attribute. -/
def inlineDefault (p : PropSpec) : String :=
  if p.type.isFunction || p.type.isCallback then p.name ++ "=" ++ braced noopClosure
  else if p.type.isBoolean then p.name
  else if p.type.isNumeric then p.name ++ "=" ++ braced "0"
  else textAttribute p.name p.defaultText

/-- The default as an expression. -/
def defaultExpression (p : PropSpec) : String :=
  if p.type.isFunction || p.type.isCallback then noopClosure
  else if p.type.isBoolean then "true"
  else if p.type.isNumeric then "0"
  else Json.quote p.defaultText

/-- The property with its default as an object entry. -/
def objectDefault (p : PropSpec) : String :=
  (if isPlainKey p.name then p.name else Json.quote p.name) ++ ": " ++ p.defaultExpression

end PropSpec

/-- The attribute with the default of a property known by name alone. -/
def namedDefault (name : String) : String :=
  if "on".toList.isPrefixOf name.toList then name ++ "=" ++ braced noopClosure
  else if name == childrenProp then name ++ "=" ++ braced (Json.quote childrenText)
  else if namedFlags.contains name then name
  else textAttribute name ((namedTexts.lookup name).getD ("test-" ++ name))

/-- The entry of a required property: its given value, else its default. -/
def requiredEntry (given : List (String × String)) (p : PropSpec) : String :=
  match given.lookup p.name with
  | some value => p.name ++ ": " ++ value
  | none => p.objectDefault

/-- The object of all required properties. -/
def Component.requiredObject (m : Component) (given : List (String × String)) : String :=
  match m.requiredProps with
  | [] => braced ""
  | props => braced (" " ++ ", ".intercalate (props.map (requiredEntry given)) ++ " ")

end Suitewright
