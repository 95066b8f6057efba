/-
  Making a suite that passes.

  * `Verifier`: what runs a suite and gives a verdict on it;
  * `Round`: where the loop of verification and repair is;
  * `LoopSetting.advance`, `runRound`: what a verdict makes of a round, and a whole round;
  * `LoopSetting.repairLoop`: runs the suite and repairs it, until it passes, no rule changes it, or the rounds
    are used up;
  * `generate`: makes the suite of a component and brings it through the loop.
-/
import Suitewright.Diff.Unified
import Suitewright.Loop.Outcome
import Suitewright.Loop.Request
import Suitewright.Suite.Render

namespace Suitewright

/-- What a suite is made for. -/
structure Order where
  /-- The path of the component's file, seen from the root. -/
  file : String
  /-- The root of the project. -/
  root : String
  /-- The path of the suite, if it is given. -/
  output : Option String := none
  /-- Whether the suite is run. -/
  verify : Bool := true
  deriving Repr, DecidableEq, Inhabited

/-- What verifies a suite, from the suite's file and the root of the project. -/
abbrev Verifier := (testPath root : Path) → Work Verdict

/-- Verifies with the first of some commands that can be started. -/
def Verifier.ofCommands (commands : List (List String)) : Verifier := fun testPath root => do
  let w ← get
  let v := Suitewright.verify commands testPath.toText w.script
  set { w with
    script := v.rest
    calls := w.calls ++ v.calls.map (Call.mk · root w.files)
    notes := w.notes ++ v.notes }
  Work.ofExcept .crash v.result

/-- A round of the loop. -/
structure Round where
  /-- Its number, from one on. -/
  number : Nat := 1
  /-- The suite. -/
  source : String
  /-- The last output of a runner. -/
  diagnostics : String := ""
  /-- The changes that repairs made. -/
  history : List String := []
  deriving Repr, DecidableEq, Inhabited

/-- What stays the same in all rounds. -/
structure LoopSetting where
  /-- The component. -/
  component : Component
  /-- The path of its file, as it was given. -/
  file : String
  /-- The file of the suite. -/
  testPath : Path
  /-- The root of the project. -/
  root : Path
  /-- What verifies the suite. -/
  verifier : Verifier
  /-- The greatest number of rounds. -/
  limit : Int

namespace LoopSetting

variable (s : LoopSetting)

/-- The suite after the repairs that an output asks for. -/
def repair (source output : String) : Work String := do
  Work.log ((repairNotes source output s.component (some s.file)).map fun m => ⟨.debug, "repairer", m⟩)
  Work.ofExcept .repair (Suitewright.repair source output s.component (some s.file))

/-- The change that a repair made to the suite of a round, with the numbers of this round and the next. -/
def roundDiff (number : Nat) (before after : String) : String :=
  let name (n : Nat) : String := "iteration-" ++ toString n
  Diff.unified (name number) (name (number + 1)) before after

/-- The next round, after a repair that changed the suite. -/
def nextRound (r : Round) (output revised : String) : Round where
  number := r.number + 1
  source := revised
  diagnostics := output
  history := r.history ++ [roundDiff r.number r.source revised]

/-- What a verdict makes of a round: the ending and the last round, or the next round. -/
def advance (r : Round) (verdict : Verdict) : Work ((Ending × Round) ⊕ Round) := do
  let last : Round := { r with diagnostics := verdict.diagnostics }
  if verdict.success then return .inl (.passed, last)
  Work.note .info ("Test iteration " ++ toString r.number ++ " failed. Attempting to fix errors...")
  let revised ← s.repair r.source verdict.diagnostics
  if revised == r.source then
    Work.note .warning "No repair rule changed the suite; stopping"
    return .inl (.stalled, last)
  let next := nextRound r verdict.diagnostics revised
  Work.note .debug ("Repair diff:\n" ++ next.history.getLastD "")
  return .inr next

/-- Writes the suite of a round, runs it and goes by the verdict. -/
def runRound (r : Round) : Work ((Ending × Round) ⊕ Round) := do
  Work.note .info ("Test iteration " ++ toString r.number ++ "/" ++ toString s.limit)
  Work.persist s.testPath r.source
  s.advance r (← s.verifier s.testPath s.root)

/-- At most `n` more rounds: how they end, and the last round. -/
def repairLoop : (n : Nat) → Round → Work (Ending × Round)
  | 0, r => return (.exhausted, r)
  | n + 1, r => do
    match ← s.runRound r with
    | .inl ended => return ended
    | .inr next => repairLoop n next

/-- The outcome of a loop, from its ending and its last round. -/
def outcome (ending : Ending) (r : Round) : Outcome where
  testPath := s.testPath
  testSource := r.source
  ending := some ending
  iterations := min r.number s.limit
  maxIterations := s.limit
  diagnostics := r.diagnostics
  history := r.history

/-- Brings the suite through the loop, and writes the last one. -/
def complete : Work Outcome := do
  let (ending, r) ← s.repairLoop s.limit.toNat { source := s.component.suite }
  Work.persist s.testPath r.source
  Work.note .info ("Repair loop finished: " ++ ending.label)
  return s.outcome ending r

/-- Writes the suite and does not run it. -/
def skip : Work Outcome := do
  Work.persist s.testPath s.component.suite
  return { testPath := s.testPath, testSource := s.component.suite, ending := none, iterations := 0,
           maxIterations := s.limit }

end LoopSetting

/-- What is known before the suite of a component is written. Unless a verifier is given, the commands of the
project's settings verify the suite. -/
def prepare (limit : Int) (order : Order) (verifier : Option Verifier) : Work LoopSetting := do
  let root ← Work.resolve (← Work.expandHome (.ofText order.root))
  let path ← locateComponent order.file order.root
  let (_, settings) ← Settings.load root
  Work.note .info ("Generating tests for " ++ path.toText)
  let component ← analyzeSource (← Work.readText path) order.file
  let testPath := outputPath (← Work.files).here path root order.output settings
  if order.output.any fun p => !p.isEmpty then let _ ← Work.resolve (root.child (order.output.getD ""))
  return { component, file := order.file, testPath, root,
           verifier := verifier.getD (.ofCommands settings.commands), limit }

/-- Makes the suite of a component, and brings it through at most `limit` rounds of verification and repair. -/
def generate (limit : Int) (order : Order) (verifier : Option Verifier := none) : Work Outcome := do
  let s ← prepare limit order verifier
  if order.verify then s.complete else s.skip

end Suitewright
