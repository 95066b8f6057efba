/-
  The outcome of making a suite.

  * `Ending`: how the loop of verification and repair ended;
  * `Outcome`: the suite, its file and how it came about;
  * `Outcome.report`: the summary for a reader.
-/
import Suitewright.Project.Path

namespace Suitewright

/-- How the loop of verification and repair ended. -/
inductive Ending where
  /-- All tests passed. -/
  | passed
  /-- The greatest number of iterations was reached. -/
  | exhausted
  /-- No rule changed the suite. -/
  | stalled
  deriving Repr, DecidableEq, Inhabited

/-- The name of an ending in reports. -/
def Ending.label : Ending → String
  | passed => "PASSED"
  | exhausted => "EXHAUSTED"
  | stalled => "STALLED"

/-- The outcome of making a suite. -/
structure Outcome where
  /-- The file of the suite. -/
  testPath : Path
  /-- The source of the suite. -/
  testSource : String
  /-- How the loop ended; nothing if the suite was not verified. -/
  ending : Option Ending
  /-- The number of iterations. -/
  iterations : Int
  /-- The greatest number of iterations. -/
  maxIterations : Int := 5
  /-- The last output of the runner. -/
  diagnostics : String := ""
  /-- The changes that repairs made. -/
  history : List String := []
  deriving Repr, DecidableEq, Inhabited

namespace Outcome

/-- Whether all tests passed. -/
def passed (o : Outcome) : Bool := o.ending == some .passed

/-- The sentence about the ending. -/
def status (o : Outcome) : String :=
  let last := "\n\nLast errors:\n" ++ Text.trim o.diagnostics
  match o.ending with
  | none => "Verification skipped; the generated suite was written without running it."
  | some .passed => "All tests passed on iteration " ++ toString o.iterations ++ "."
  | some .stalled =>
    "Could not automatically fix test errors after " ++ toString o.iterations ++ " iterations." ++ last
  | some .exhausted =>
    "Maximum iterations (" ++ toString o.maxIterations ++
      ") reached. Some tests may still have issues." ++ last

/-- The summary for a reader. -/
def report (o : Outcome) : String :=
  "Test file generated at: " ++ o.testPath.toText ++ "\n\n" ++ o.status ++ "\n\n" ++ o.testSource

end Outcome

end Suitewright
