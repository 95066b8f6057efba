/-
  Reading a component off a syntax tree.

  * `visitNode`: what a node adds to the component: an import, the members of a properties contract, a
    component declaration or a default export;
  * `analyzeTree`: the component of a tree, and the message of the first node that could not be read.

  Nothing that was added before a failure is lost.
-/
import Suitewright.Component.Naming
import Suitewright.Text.Line
import Suitewright.Tree.Walk

namespace Suitewright

open Text

/-! ## Kinds -/

/-- The first of several nodes that is of a kind; the nodes up to it must be readable. -/
def firstOfKind? (kind : String) : List Tree → Except String (Option Tree)
  | [] => .ok none
  | t :: ts => do if (← t.kind) == kind then return some t else firstOfKind? kind ts

/-- Whether one of several nodes is of a kind. -/
def anyOfKind (kind : String) (ts : List Tree) : Except String Bool := (firstOfKind? kind ts).map (·.isSome)

/-! ## Imports -/

/-- The local names of import specifiers. -/
def specifierNames : List Tree → Except String (List String)
  | [] => .ok []
  | t :: ts => do
    let isSpecifier := (← t.kind) == "import_specifier"
    let names ← specifierNames ts
    match (t.field? "alias").or (t.field? "name") with
    | some name => return if isSpecifier then name.text :: names else names
    | none => return names

/-- The names that a part of an import clause binds. -/
def clauseNames (t : Tree) : Except String (List String) := do
  let kind ← t.kind
  if kind == "identifier" then return [t.text]
  else if kind == "named_imports" then specifierNames t.namedChildren
  else if kind == "namespace_import" then
    return ((← firstOfKind? "identifier" t.namedChildren).map Tree.text).toList
  else return []

/-- The import that a node declares, if it names its module. -/
def importOf (t : Tree) : Except String (Option ImportInfo) := do
  match t.field? "source" with
  | none => return none
  | some source =>
    let info : ImportInfo := { source := stripQuotes source.text }
    match ← firstOfKind? "import_clause" t.namedChildren with
    | none => return some info
    | some clause =>
      let names ← clause.namedChildren.mapM clauseNames
      let isDefault ← anyOfKind "identifier" clause.namedChildren
      return some { info with imports := names.flatten, isDefault }

/-! ## Properties -/

/-- The text of a line of a documentation comment, without the star at its front. -/
def docLine (line : List Char) : List Char :=
  let cs := skipBlanks line
  trimChars ((after? ['*'] cs).getD cs)

/-- The lines of a documentation comment that describe, up to the first tag. -/
def describingLines (lines : List (List Char)) : List (List Char) :=
  ((lines.map docLine).takeWhile fun l => l.head? != some '@').filter (!·.isEmpty)

/-- The description that a comment gives, if it is a documentation comment that has any. -/
def describe? (comment : String) : Option String :=
  let cs := comment.toList
  if "/**".toList.isPrefixOf cs then
    match describingLines (lines ((cs.take (cs.length - 2)).drop 3)) with
    | [] => none
    | ls => some (" ".intercalate (ls.map String.ofList))
  else none

/-- The description that the preceding node gives. -/
def descriptionBefore : Option Tree → Except String (Option String)
  | none => .ok none
  | some t => do if (← t.kind) == "comment" then return describe? t.text else return none

/-- The type that an annotation gives; `any` without one. -/
def typeAfter (typed : Option Tree) : TypeText :=
  match typed.bind fun a => a.namedChildren.head? with
  | some t => ⟨t.text⟩
  | none => ⟨"any"⟩

/-- The property that a member declares, if it is one with a name. -/
def memberProp (before : Option Tree) (t : Tree) : Except String (Option PropSpec) := do
  if (← t.kind) == "property_signature" then
    match t.field? "name" with
    | none => return none
    | some name =>
      let isOptional ← anyOfKind "?" t.children
      let description ← descriptionBefore before
      return some
        { name := stripQuotes name.text, type := typeAfter (t.field? "type"), optional := isOptional,
          description }
  else return none

/-- The properties of members up to the first unreadable one, and its message. -/
def memberProps (before : Option Tree) : List Tree → List PropSpec × Option String
  | [] => ([], none)
  | t :: ts =>
    match memberProp before t with
    | .error e => ([], some e)
    | .ok p => let (ps, e) := memberProps (some t) ts; (p.toList ++ ps, e)

/-- Adds the properties of a contract's body. -/
def addMembers (body : Tree) (m : Component) : Component × Option String :=
  let (props, failure) := memberProps none body.namedChildren
  ({ m with props := m.props ++ props }, failure)

/-! ## Components -/

/-- The kinds of nodes under which a declaration counts as one of the file. -/
def isTopLevel (above : List Kind) : Except String Bool :=
  match above with
  | [] => .ok false
  | parent :: rest => do
    let parent ← parent
    if parent == "program" then return true
    else if parent == "export_statement" then
      match rest with
      | [] => return false
      | grandparent :: _ => return (← grandparent) == "program"
    else return false

/-- Records a component declaration; its name must begin with a capital. -/
def recordComponent (name : String) (kind : ComponentKind) (m : Component) : Component :=
  match name.toList with
  | c :: _ => if isUpper c then { m with name, kind }.addExport name else m
  | [] => m

/-- Whether a component base class is named here. -/
def componentBaseHere (before : Option Char) (cs : List Char) : Bool :=
  (do
    let rest ← after? "extends".toList cs
    let (_, rest) ← run? isBlank rest
    let rest := (after? "React.".toList rest).getD rest
    let rest := (after? "Pure".toList rest).getD rest
    let rest ← after? "Component".toList rest
    if atWordEdge before (some 'e') && atWordEdge (some 't') rest.head? then some () else none).isSome

/-- Whether a class heritage names a component base class. -/
def extendsComponent (before : Option Char) : List Char → Bool
  | [] => false
  | c :: cs => componentBaseHere before (c :: cs) || extendsComponent (some c) cs

/-- The kinds of values that are functions. -/
def functionKinds : List String := ["arrow_function", "function_expression", "function"]

/-- The endings of the names of functions that wrap a component. -/
def wrapperEndings : List String := ["memo", "forwardRef"]

/-- Whether a value is a function, or a call of a wrapper whose first argument is such a value. -/
def isComponentValue (t : Tree) : Except String Bool := do
  let kind ← t.kind
  if functionKinds.contains kind then return true
  else if kind != "call_expression" then return false
  else
    match t.field? "function", h : t.field? "arguments" with
    | some callee, some arguments =>
      match h' : arguments.namedChildren with
      | [] => return false
      | first :: _ =>
        have := Nat.lt_trans (Tree.size_lt_of_namedChildren h') (Tree.size_lt_of_field? h)
        if wrapperEndings.any fun w => w.toList.isSuffixOf callee.text.toList then isComponentValue first
        else return false
    | _, _ => return false
termination_by t.size

/-- The component that a function declares. -/
def addFunction (v : Visit) (m : Component) : Except String Component := do
  if ← isTopLevel v.above then
    match v.node.field? "name" with
    | some name => return recordComponent name.text .functional m
    | none => return m
  else return m

/-- The component that a class declares. -/
def addClass (v : Visit) (m : Component) : Except String Component := do
  if ← isTopLevel v.above then
    match v.node.field? "name", ← firstOfKind? "class_heritage" v.node.children with
    | some name, some heritage =>
      return if extendsComponent none heritage.text.toList then recordComponent name.text .classBased m else m
    | _, _ => return m
  else return m

/-- The component that a variable declares. -/
def addVariable (t : Tree) (m : Component) : Except String Component := do
  match t.field? "name", t.field? "value" with
  | some name, some value =>
    if (← name.kind) == "identifier" then
      return if ← isComponentValue value then recordComponent name.text .functional m else m
    else return m
  | _, _ => return m

/-- The name that an export statement exports by default, if it has one. -/
def defaultExportName? (t : Tree) : Except String (Option String) := do
  if ← anyOfKind "default" t.children then
    let declared := ((t.field? "declaration").bind (·.field? "name")).map Tree.text
    match t.field? "value" with
    | some value => if (← value.kind) == "identifier" then return some value.text else return declared
    | none => return declared
  else return none

/-- Adds the default export of an export statement. -/
def addDefaultExport (t : Tree) (m : Component) : Except String Component := do
  match ← defaultExportName? t with
  | some name => return { m with hasDefaultExport := true }.addExport name
  | none => return m

/-! ## The whole tree -/

/-- The new component, or the old one with a failure. -/
def settle (m : Component) : Except String Component → Component × Option String
  | .ok m => (m, none)
  | .error e => (m, some e)

/-- The ending of the name of a properties contract. -/
def contractEnding : String := "Props"

/-- Whether a declared type is a properties contract. -/
def isContractName (name : String) : Bool := contractEnding.toList.isSuffixOf name.toList

/-- Adds what an interface declares, if it is a properties contract. -/
def addInterface (t : Tree) (m : Component) : Component × Option String :=
  match t.field? "name", t.field? "body" with
  | some name, some body => if isContractName name.text then addMembers body m else (m, none)
  | _, _ => (m, none)

/-- Adds what a type alias declares, if it is a properties contract. -/
def addTypeAlias (t : Tree) (m : Component) : Component × Option String :=
  match t.field? "name", t.field? "value" with
  | some name, some value =>
    if isContractName name.text then
      match value.kind with
      | .ok kind => if kind == "object_type" then addMembers value m else (m, none)
      | .error e => (m, some e)
    else (m, none)
  | _, _ => (m, none)

/-- Adds an import. -/
def addImport (t : Tree) (m : Component) : Except String Component :=
  (importOf t).map fun i => { m with imports := m.imports ++ i.toList }

/-- Adds what a node declares; gives a message when it cannot be read. -/
def visitNode (v : Visit) (m : Component) : Component × Option String :=
  match v.node.kind with
  | .error e => (m, some e)
  | .ok kind =>
    if kind == "import_statement" then settle m (addImport v.node m)
    else if kind == "interface_declaration" then addInterface v.node m
    else if kind == "type_alias_declaration" then addTypeAlias v.node m
    else if kind == "function_declaration" then settle m (addFunction v m)
    else if kind == "class_declaration" then settle m (addClass v m)
    else if kind == "variable_declarator" then settle m (addVariable v.node m)
    else if kind == "export_statement" then settle m (addDefaultExport v.node m)
    else (m, none)

/-- The component of a tree, and the message of the first failure. -/
def analyzeTree (tree : Except String Tree) (path : String) : Component × Option String :=
  match tree with
  | .ok t => walk visitNode t { sourcePath := path }
  | .error e => ({ sourcePath := path }, some e)

/-- The warning about a failure. -/
def degradedWarning (path failure : String) : String :=
  "Analysis of " ++ path ++ " degraded: " ++ failure

end Suitewright
