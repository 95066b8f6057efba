/-
  The source of a suite.

  * `Component.renderSuite`: the head of the file, the one `describe` block around the cases, and its end;
  * `Component.suite`: the text of the suite, which ends with a line feed.
-/
import Suitewright.Suite.Case

namespace Suitewright

/-- The imports that every suite has. -/
def importHeader : String :=
  "import React from \"react\";\nimport \x7b render, screen, fireEvent \x7d from \"@testing-library/react\";\n" ++
    "import \"@testing-library/jest-dom\";"

namespace Component

/-- The line that imports the component. -/
def importLine (m : Component) : String :=
  "import " ++ braced (" " ++ m.displayName ++ " ") ++ " from " ++ Json.quote (importPath m.sourcePath) ++ ";"

/-- A suite with the given cases. -/
def renderSuite (m : Component) (cases : List TestCase) : String :=
  "\n".intercalate
    [importHeader, m.importLine, "", "/**", " * Test suite for the " ++ m.displayName ++ " component.", " */",
      "describe(" ++ Json.quote (m.displayName ++ " Component") ++ ", () => \x7b",
      "\n\n".intercalate (cases.map TestCase.fragment), "\x7d);"] ++ "\n"

/-- The suite of a component. -/
def suite (m : Component) : String := m.renderSuite m.buildCases

end Component

end Suitewright
