/-
  Carrying out a call of the program.

  * `Ended`: how the program ends: its status, its two outputs, and the address that it serves;
  * `Action.perform`: carries out an action;
  * `run`: carries out the arguments of a call, with the journal on the console and in a file.
-/
import Suitewright.Command.Invocation
import Suitewright.Command.Journal
import Suitewright.Rpc.Stream

namespace Suitewright.Command

/-- The greatest number of rounds of verification and repair. -/
def defaultLimit : Int := 5

/-- How the program ends. -/
structure Ended where
  /-- The status: zero, one for a failure, two for a suite that does not pass or arguments that make no sense. -/
  status : Nat := 0
  /-- What is written on the output. -/
  out : String := ""
  /-- What is written beside the output. -/
  err : String := ""
  /-- The address at which the web service is offered. -/
  serving : Option Address := none
  deriving Repr, DecidableEq, Inhabited

/-- How the program ends when its arguments are not carried out. -/
def Refusal.ended (r : Refusal) : Ended :=
  match r.stop with
  | .help => { out := r.grammar.usage }
  | .fault f => { status := 2, err := r.grammar.program ++ ": error: " ++ f.message }

/-- Carries out an action. Suites are brought through at most `limit` rounds. -/
def Action.perform (limit : Int) (input : List Rpc.InputLine) : Action → Work Ended
  | serve => return { out := ← (Rpc.serve (Rpc.toolServer limit) input : StateM Workspace String) }
  | serveWeb address => return { serving := some address }
  | analyze file root => return { out := (← analyzeComponent file root).toJson.pretty ++ "\n" }
  | generate order => do
    let o ← Suitewright.generate limit order
    return { status := if o.ending.isSome && !o.passed then 2 else 0, out := o.report ++ "\n" }

/-- How the program ends when an action failed, unless the failure is its own. -/
def Action.failed (e : RequestError) : Action → Option Ended
  | analyze .. => if e.blame == .missing then some { status := 1, err := e.message ++ "\n" } else none
  | generate _ =>
    match e.blame with
    | .missing => some { status := 1, err := e.message ++ "\n" }
    | .refused =>
      some { status := 1
             err := "testgen generate failed: " ++ e.message ++ "\nRun with --verbose for more details.\n" }
    | .internal => none
  | _ => none

/-- Carries out an action; failures that are not the program's own end it with a message. -/
def Action.run (limit : Int) (input : List Rpc.InputLine) (action : Action) : Work Ended := do
  try action.perform limit input
  catch e =>
    match action.failed e with
    | some ended => return ended
    | none => throw e

/-- Carries out an invocation. The stamp stands in front of the records in the file of the journal. -/
def Invocation.run (limit : Int) (stamp : String) (input : List Rpc.InputLine) (i : Invocation) : Work Ended := do
  let old := (← get).notes
  let journal ← i.journal.mapM Work.openJournal
  let result ← Work.attempt (i.action.run limit input)
  let notes := ((← get).notes.drop old.length).filter i.level.shows
  journal.forM (Work.closeJournal stamp notes)
  match result with
  | .ok ended => return { ended with err := String.join (notes.map Note.consoleLine) ++ ended.err }
  | .error e => throw e

/-- Carries out the arguments of a call. -/
def run (limit : Int) (stamp : String) (input : List Rpc.InputLine) (arguments : List String) : Work Ended :=
  match Invocation.parse arguments with
  | .ok i => i.run limit stamp input
  | .error r => return r.ended

end Suitewright.Command
