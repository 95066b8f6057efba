/-
  Running a suite with the first test runner that can be started.

  * `Started`: what becomes of a process that is started; `Completed`: what a process leaves that ended;
  * `Script`: what becomes of the processes of a session, in order;
  * `expand`: the arguments of a command template for a test file;
  * `verify`: tries the templates in order until one runs, and gives the verdict, the started commands and the
    rest of the script.
-/
import Suitewright.Text.Scan

namespace Suitewright

/-- How serious a record of the journal is. -/
inductive Level where
  /-- Details of the work. -/
  | debug
  /-- Progress. -/
  | info
  /-- Something unexpected. -/
  | warning
  /-- A failure. -/
  | error
  deriving Repr, DecidableEq, Inhabited

/-- The name of a level. -/
def Level.label : Level → String
  | debug => "DEBUG"
  | info => "INFO"
  | warning => "WARNING"
  | error => "ERROR"

/-- A record of the journal. -/
structure Note where
  /-- How serious it is. -/
  level : Level
  /-- The part of the program that made it. -/
  source : String
  /-- What it tells. -/
  message : String
  deriving Repr, DecidableEq, Inhabited

/-- A failure that starting a process raised. -/
structure Crash where
  /-- The kind of the failure. -/
  kind : String
  /-- Its message. -/
  message : String
  /-- Whether it means that the request cannot be carried out, and not that the program is wrong. -/
  refused : Bool := false
  deriving Repr, DecidableEq, Inhabited

/-- What becomes of a process that is started. -/
inductive Started where
  /-- It ends with a status; its two outputs are joined. -/
  | finished (status : Int) (output : String)
  /-- It cannot be started. -/
  | unavailable (message : String)
  /-- Starting it fails in another way. -/
  | crashed (crash : Crash)
  deriving Repr, DecidableEq, Inhabited

/-- What a process leaves that ended. -/
structure Completed where
  /-- Its status. -/
  status : Int
  /-- What it wrote to its output. -/
  stdout : String
  /-- What it wrote to its error output. -/
  stderr : String
  deriving Repr, DecidableEq, Inhabited

/-- The end of a process, with its two outputs joined. -/
def Completed.started (c : Completed) : Started := .finished c.status (c.stdout ++ c.stderr)

/-- What becomes of the processes of a session, in order. After the end none can be started. -/
abbrev Script := List Started

/-- The verdict on a suite. -/
structure Verdict where
  /-- Whether all tests passed. -/
  success : Bool
  /-- The output of the runner. -/
  diagnostics : String
  /-- The command that ran, if any did. -/
  command : Option (List String)
  deriving Repr, DecidableEq, Inhabited

/-- A verification: its verdict or failure, the commands that were started, the rest of the script and the
journal. -/
structure Verification where
  /-- The verdict, or the failure that ended it. -/
  result : Except Crash Verdict
  /-- The commands, in the order in which they were started. -/
  calls : List (List String)
  /-- The rest of the script. -/
  rest : Script
  /-- The journal. -/
  notes : List Note

/-- The argument of a template that stands for the test file. -/
def placeholder : String := "\x7btest_file\x7d"

/-- The commands tried by default. -/
def defaultCommands : List (List String) :=
  [["npx", "jest", placeholder, "--no-coverage", "--verbose"], ["npm", "test", "--", placeholder],
    ["npx", "vitest", "run", placeholder], ["yarn", "test", placeholder]]

/-- The diagnostics when no command can be started. -/
def noRunnerMessage : String :=
  "No suitable runner found. Please ensure Jest, Vitest, or npm test is available."

/-- The arguments of a template: the test file for each placeholder, or at the end if there is none. -/
def expand (template : List String) (testFile : String) : List String :=
  if template.contains placeholder then template.map fun a => if a == placeholder then testFile else a
  else template ++ [testFile]

/-- Whether an output says that the command does not exist. -/
def reportsUnavailable (output : String) : Bool :=
  Text.occursIn "command not found".toList output.toList ||
    Text.occursIn "is not recognized".toList output.toList

/-- What becomes of the next process, and the rest of the script. -/
def nextStart (args : List String) : Script → Started × Script
  | [] => (.unavailable (args.headD ""), [])
  | s :: rest => (s, rest)

/-- What a start means for a verification: the verdict or failure that ends it, or what the journal says about
passing on to the next command. -/
def judge (args : List String) : Started → Except Crash Verdict ⊕ String
  | .finished status output =>
    if status != 0 && reportsUnavailable output then
      .inr ("Runner " ++ args.headD "" ++ " is not available in this shell")
    else .inl (.ok { success := status == 0, diagnostics := output, command := some args })
  | .unavailable message => .inr ("Runner " ++ args.headD "" ++ " failed to start: " ++ message)
  | .crashed crash => .inl (.error crash)

/-- Tries the templates in order. -/
def verify (templates : List (List String)) (testFile : String) (script : Script) : Verification :=
  match templates with
  | [] =>
    { result := .ok { success := false, diagnostics := noRunnerMessage, command := none }
      calls := []
      rest := script
      notes := [⟨.warning, "verifier", "No test runner candidate could be started"⟩] }
  | template :: others =>
    let args := expand template testFile
    let running : Note := ⟨.info, "verifier", "Running: " ++ " ".intercalate args⟩
    let (start, rest) := nextStart args script
    match judge args start with
    | .inl result => { result, calls := [args], rest, notes := [running] }
    | .inr reason =>
      let later := verify others testFile rest
      { later with
        calls := args :: later.calls
        notes := running :: ⟨.debug, "verifier", reason⟩ :: later.notes }

end Suitewright
