/-
  What is known of a component.

  * `PropSpec`: a member of the properties contract;
  * `ImportInfo`: an import declaration;
  * `Component`: name, kind, properties, imports and exports of a source file;
  * `Component.toJson`: its shape in reports.
-/
import Suitewright.Component.TypeText
import Suitewright.Json.Value

namespace Suitewright

/-- A member of a component's properties contract. -/
structure PropSpec where
  /-- The name of the property. -/
  name : String
  /-- Its type. -/
  type : TypeText
  /-- Whether it may be left out. -/
  optional : Bool
  /-- Its description, if the source gives one. -/
  description : Option String := none
  deriving Repr, DecidableEq, Inhabited

/-- An import declaration. -/
structure ImportInfo where
  /-- The module imported from. -/
  source : String
  /-- The names that the declaration binds. -/
  imports : List String := []
  /-- Whether one of them is the default export. -/
  isDefault : Bool := false
  deriving Repr, DecidableEq, Inhabited

/-- The two ways to write a component. -/
inductive ComponentKind where
  /-- A function. -/
  | functional
  /-- A class. -/
  | classBased
  deriving Repr, DecidableEq, Inhabited

/-- The name of a kind in reports. -/
def ComponentKind.label : ComponentKind → String
  | functional => "functional"
  | classBased => "class"

/-- The summary of a component's source file. -/
structure Component where
  /-- The name, empty when the file declares no component. -/
  name : String := ""
  /-- How it is written. -/
  kind : ComponentKind := .functional
  /-- The properties, in source order. -/
  props : List PropSpec := []
  /-- The imports, in source order. -/
  imports : List ImportInfo := []
  /-- The exported names, without repetition. -/
  exports : List String := []
  /-- Whether the file has a default export. -/
  hasDefaultExport : Bool := false
  /-- The path of the file, as given. -/
  sourcePath : String := ""
  deriving Repr, DecidableEq, Inhabited

/-- Properties for events: a name that begins with `on`, or a type of functions without parameters. -/
def PropSpec.isEvent (p : PropSpec) : Bool :=
  "on".toList.isPrefixOf p.name.toList || p.type.isCallback

/-- The shape of a property in reports. -/
def PropSpec.toJson (p : PropSpec) : Json :=
  .obj ([("name", .str p.name), ("type", .str p.type.text), ("optional", .bool p.optional)] ++
    (if p.type.isUnion then [("values", .strings p.type.alternatives)] else []) ++
    (match p.description with
      | some d => if d.isEmpty then [] else [("description", .str d)]
      | none => []))

/-- The shape of an import in reports. -/
def ImportInfo.toJson (i : ImportInfo) : Json :=
  .obj [("source", .str i.source), ("imports", .strings i.imports), ("isDefault", .bool i.isDefault)]

namespace Component

/-- Adds an export, unless it is there. -/
def addExport (m : Component) (name : String) : Component :=
  if m.exports.contains name then m else { m with exports := m.exports ++ [name] }

/-- The first property of a name. -/
def prop? (m : Component) (name : String) : Option PropSpec := m.props.find? (·.name == name)

/-- Whether there is a property of a name. -/
def hasProp (m : Component) (name : String) : Bool := (m.prop? name).isSome

/-- The properties that may not be left out. -/
def requiredProps (m : Component) : List PropSpec := m.props.filter (!·.optional)

/-- The shape of a component in reports. -/
def toJson (m : Component) : Json :=
  .obj [("componentName", .str m.name), ("componentType", .str m.kind.label),
    ("props", .arr (m.props.map PropSpec.toJson)), ("exports", .strings m.exports),
    ("imports", .arr (m.imports.map ImportInfo.toJson)),
    ("hasDefaultExport", .bool m.hasDefaultExport), ("filePath", .str m.sourcePath)]

end Component

end Suitewright
