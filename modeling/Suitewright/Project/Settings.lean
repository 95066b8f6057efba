/-
  The settings of a project.

  * `Settings`: the commands of the test runners, and where suites are written;
  * `outputPath`: the file of a component's suite.
-/
import Suitewright.Project.Path
import Suitewright.Runner.Verify

namespace Suitewright

/-- The settings of a project. -/
structure Settings where
  /-- The commands of the test runners, in the order in which they are tried. -/
  commands : List (List String) := defaultCommands
  /-- The directory of suites, seen from the component. -/
  testDir : String := "__tests__"
  /-- The ending of the names of suites. -/
  suffix : String := ".test.tsx"
  deriving Repr, DecidableEq, Inhabited

/-- The file of a component's suite. A given path, if it is not empty, is read below the project's root;
without one the suite lies in the directory of suites beside the component. `here` is the current directory. -/
def outputPath (here component root : Path) (given : Option String) (settings : Settings) : Path :=
  let byDefault :=
    let directory := (component.parent.relativeTo? root).getD component.parent
    ((root.join directory).child settings.testDir).child (component.stem ++ settings.suffix)
  match given with
  | some path => if path.isEmpty then byDefault else Path.resolveIn here (root.child path)
  | none => byDefault

end Suitewright
