/-
  Test cases of a component.

  * `TestCase`: a case with its name, description and source;
  * `Trigger`, `triggerFor`: how the event of a property is fired;
  * `Component.buildCases`: the cases of a component, in order: the basic rendering, one case for a boolean or
    a text property and one for each alternative of a union, the event cases, the loading and icon cases, the
    keyboard case and the disabled case.
-/
import Suitewright.Suite.Defaults

namespace Suitewright

/-- A test case. -/
structure TestCase where
  /-- Its name, which is also its title in the suite. -/
  name : String
  /-- What it tests. -/
  description : String
  /-- Its source. -/
  fragment : String
  deriving Repr, DecidableEq, Inhabited

/-- The indentation of a level. -/
def indent : String := "    "

namespace TestCase

/-- The line that opens a case. -/
def opening (title : String) : String := indent ++ "it(" ++ Json.quote title ++ ", () => \x7b"

/-- A line of a case's body; an empty one is not indented. -/
def bodyLine (line : String) : String := if line.isEmpty then "" else indent ++ indent ++ line

/-- The line that closes a case. -/
def closing : String := indent ++ "\x7d);"

/-- A case with the lines of its body. -/
def make (title description : String) (body : List String) : TestCase where
  name := title
  description := description
  fragment := "\n".intercalate (opening title :: (body.map bodyLine ++ [closing]))

end TestCase

/-- How an event is fired: the method, how it is told, and an extra argument. -/
structure Trigger where
  /-- The method that fires the event. -/
  method : String
  /-- The phrase in the case's name. -/
  phrase : String
  /-- The argument after the element, if any. -/
  argument : String := ""
  deriving Repr, DecidableEq, Inhabited

/-- The argument of events that carry a text. -/
def typedArgument : String := braced (" target: " ++ braced " value: \"test\" " ++ " ")

/-- The argument of events of a key. -/
def keyArgument : String := braced " key: \"Enter\" "

/-- The trigger of a click. -/
def clickTrigger : Trigger := ⟨"click", "clicked", ""⟩

/-- The triggers by the rest of the property's name after `on`, in lower case. -/
def eventTriggers : List (String × Trigger) :=
  [("click", clickTrigger),
    ("doubleclick", ⟨"dblClick", "double clicked", ""⟩),
    ("change", ⟨"change", "changed", typedArgument⟩),
    ("input", ⟨"input", "receiving input", typedArgument⟩),
    ("submit", ⟨"submit", "submitted", ""⟩),
    ("focus", ⟨"focus", "focused", ""⟩),
    ("blur", ⟨"blur", "blurred", ""⟩),
    ("keydown", ⟨"keyDown", "a key is pressed", keyArgument⟩),
    ("keyup", ⟨"keyUp", "a key is released", keyArgument⟩),
    ("mouseenter", ⟨"mouseEnter", "hovered", ""⟩),
    ("mouseleave", ⟨"mouseLeave", "unhovered", ""⟩)]

/-- How the event of a property is fired; a click unless its name says otherwise. -/
def triggerFor (propName : String) : Trigger :=
  let cs := propName.toList
  if "on".toList.isPrefixOf cs then
    (eventTriggers.lookup (Text.lower (.ofList (cs.drop 2)))).getD clickTrigger
  else clickTrigger

/-- The line that fires an event. -/
def Trigger.call (t : Trigger) : String :=
  if t.argument.isEmpty then "fireEvent." ++ t.method ++ "(element);"
  else "fireEvent." ++ t.method ++ "(element, " ++ t.argument ++ ");"

/-- The property that disables a component. -/
def disabledProp : String := "disabled"

/-- The property that shows a loading state. -/
def loadingProp : String := "loading"

/-- The property that shows an icon. -/
def iconProp : String := "icon"

/-- The query for a status. -/
def statusQuery : String := "screen.getByRole(\"status\", " ++ braced " hidden: true " ++ ")"

/-- The query for an icon. -/
def iconQuery : String :=
  "screen.getByRole(\"img\", " ++ braced " hidden: true " ++ ") || screen.getByTestId(\"icon\")"

namespace Component

variable (m : Component)

/-- The element with the required properties and one more attribute text. -/
def element (extra : String) : String :=
  "<" ++ m.displayName ++ " " ++ braced "...requiredProps" ++
    (if extra.isEmpty then "" else " " ++ extra) ++ " />"

/-- The element of the basic case, with the default of each required property. -/
def basicElement : String :=
  let attributes := " ".intercalate (m.requiredProps.map PropSpec.inlineDefault)
  "<" ++ m.displayName ++ (if attributes.isEmpty then "" else " " ++ attributes) ++ " />"

/-- The line that declares the required properties. -/
def requiredLine (given : List (String × String)) : String :=
  "const requiredProps = " ++ m.requiredObject given ++ ";"

/-- The line that renders an element. -/
def renderLine (extra : String) : String := "render(" ++ m.element extra ++ ");"

/-- The query for the component by its role. -/
def roleQuery : String := "screen.getByRole(" ++ Json.quote (expectedRole m.displayName) ++ ")"

/-- The line that finds the component by its role. -/
def roleLine : String := "const element = " ++ m.roleQuery ++ ";"

/-- A body that renders the component, finds it and asserts something. -/
def assertionBody (extra assertion : String) : List String :=
  [m.requiredLine [], "", m.renderLine extra, "", m.roleLine, assertion]

/-- The basic case. -/
def basicCase : TestCase :=
  .make ("should render " ++ m.displayName ++ " component")
    ("Test that the " ++ m.displayName ++ " component renders without crashing")
    ["render(" ++ m.basicElement ++ ");", "", "expect(" ++ m.roleQuery ++ ").toBeInTheDocument();"]

/-- The assertion that the element has a style class. -/
def classAssertion (name : String) : String :=
  "expect(element).toHaveClass(" ++ Json.quote (className name) ++ ");"

/-- The case of a boolean property. -/
def booleanCase (p : PropSpec) : TestCase :=
  .make ("should handle " ++ p.name ++ " prop")
    ("Test that the " ++ p.name ++ " boolean prop works correctly")
    (m.assertionBody p.name (classAssertion p.name))

/-- The case of a text property. -/
def textCase (p : PropSpec) : TestCase :=
  let variable_ := textVariable p.name
  .make ("should display correct " ++ p.name)
    ("Test that the " ++ p.name ++ " string prop displays correctly")
    ["const " ++ variable_ ++ " = " ++ Json.quote ("Test " ++ p.name) ++ ";", m.requiredLine [], "",
      m.renderLine (p.name ++ "=" ++ braced variable_), "",
      "expect(screen.getByText(" ++ variable_ ++ ")).toBeInTheDocument();"]

/-- The case of one alternative of a union. -/
def unionCase (p : PropSpec) (value : String) : TestCase :=
  .make ("should handle " ++ p.name ++ " as " ++ value)
    ("Test that the " ++ p.name ++ " prop works with " ++ value ++ " value")
    (m.assertionBody (textAttribute p.name value) (classAssertion (p.name ++ "--" ++ value)))

/-- The cases of a property's type. -/
def propCases (p : PropSpec) : List TestCase :=
  (if p.type.isBoolean then [m.booleanCase p] else []) ++
    (if p.type.isString then [m.textCase p] else []) ++
    (if p.type.isUnion then p.type.alternatives.map (m.unionCase p) else [])

/-- The body of an event case up to the line before its assertion. -/
def handlerBody (p : PropSpec) (flags : String) : List String :=
  let handler := handlerVariable p.name
  ["const " ++ handler ++ " = jest.fn();", m.requiredLine [(p.name, handler)], "",
    m.renderLine (p.name ++ "=" ++ braced handler ++ flags), "", m.roleLine, (triggerFor p.name).call, ""]

/-- The attribute that enables a component that must be told whether it is disabled. -/
def enabledFlag : String :=
  match m.prop? disabledProp with
  | some d => if d.optional then "" else " disabled=" ++ braced "false"
  | none => ""

/-- The case in which an event reaches its handler. -/
def invocationCase (p : PropSpec) : TestCase :=
  .make ("should call " ++ p.name ++ " handler when " ++ (triggerFor p.name).phrase)
    ("Test that the " ++ p.name ++ " handler fires once on " ++ (triggerFor p.name).method)
    (m.handlerBody p m.enabledFlag ++
      ["expect(" ++ handlerVariable p.name ++ ").toHaveBeenCalledTimes(1);"])

/-- The case in which a disabled component keeps an event from its handler. -/
def disabledEventCase (p : PropSpec) : TestCase :=
  .make ("should not call " ++ p.name ++ " when disabled")
    ("Test that the " ++ p.name ++ " handler is not called when the component is disabled")
    (m.handlerBody p (" " ++ disabledProp) ++
      ["expect(" ++ handlerVariable p.name ++ ").not.toHaveBeenCalled();"])

/-- The cases of an event property. -/
def eventCases (p : PropSpec) : List TestCase :=
  if p.isEvent then
    m.invocationCase p :: (if m.hasProp disabledProp then [m.disabledEventCase p] else [])
  else []

/-- The case of the loading state. -/
def loadingCase : TestCase :=
  .make "should show loading state" "Test that the loading state is displayed correctly"
    [m.requiredLine [], "", m.renderLine loadingProp, "",
      "expect(" ++ statusQuery ++ ").toBeInTheDocument();"]

/-- The case of the icon. -/
def iconCase : TestCase :=
  .make "should render with icon" "Test that the icon is rendered when provided"
    [m.requiredLine [], "", m.renderLine (textAttribute iconProp "test-icon"), "",
      "const iconElement = " ++ iconQuery ++ ";", "expect(iconElement).toBeInTheDocument();"]

/-- The case of the keyboard. -/
def keyboardCase : TestCase :=
  .make "should be accessible via keyboard" "Test that the component supports keyboard navigation"
    (m.assertionBody "" "expect(element).not.toHaveAttribute(\"tabIndex\", \"-1\");")

/-- The case of the disabled state. -/
def disabledCase : TestCase :=
  .make "should have correct aria-disabled when disabled"
    "Test that aria-disabled is set correctly when disabled"
    (m.assertionBody disabledProp "expect(element).toHaveAttribute(\"aria-disabled\", \"true\");")

/-- A case that is there when a property of a name is. -/
def caseIf (propName : String) (c : TestCase) : List TestCase := if m.hasProp propName then [c] else []

/-- The cases of a component, in order. -/
def buildCases : List TestCase :=
  [m.basicCase] ++ m.props.flatMap m.propCases ++ m.props.flatMap m.eventCases ++
    m.caseIf loadingProp m.loadingCase ++ m.caseIf iconProp m.iconCase ++
    [m.keyboardCase] ++ m.caseIf disabledProp m.disabledCase

end Component

end Suitewright
