/-
  What the program can be called to do.

  * `Action`: serving lines, serving the web, showing a component, making a suite;
  * `Invocation`: an action, how much of the journal is shown, and where else it is written;
  * `Invocation.parse`: the invocation that arguments are, or why they are none.
-/
import Suitewright.Command.Grammar
import Suitewright.Loop.Generate

namespace Suitewright.Command

/-- Where the web service is offered. -/
structure Address where
  /-- The name of the machine. -/
  host : String
  /-- The number under which the machine takes connections. -/
  number : Int
  deriving Repr, DecidableEq, Inhabited

/-- What the program does. -/
inductive Action where
  /-- Answers the lines of its input. -/
  | serve
  /-- Offers the web service at an address. -/
  | serveWeb (address : Address)
  /-- Shows the component of a file. -/
  | analyze (file root : String)
  /-- Makes the suite of a component. -/
  | generate (order : Order)
  deriving Repr, DecidableEq, Inhabited

/-- A call of the program. -/
structure Invocation where
  /-- What the program does. -/
  action : Action
  /-- Whether the journal shows details. -/
  verbose : Bool := false
  /-- The file to which the journal is also written. -/
  journal : Option String := none
  deriving Repr, DecidableEq, Inhabited

/-- The least serious records that the journal shows. -/
def Invocation.level (i : Invocation) : Level := if i.verbose then .debug else .info

/-- The root of the project that an action is about. -/
def Invocation.root? (i : Invocation) : Option String :=
  match i.action with
  | .analyze _ root => some root
  | .generate order => some order.root
  | _ => none

/-! ## Grammars -/

/-- The option that asks for help. -/
def helpOption : Opt := { names := ["-h", "--help"], help := true }

/-- The option that shows details. -/
def verboseOption : Opt := { names := ["-v", "--verbose"] }

/-- An option with a value. -/
def valueOption (name : String) (kind : ValueKind := .text) : Opt := { names := [name], value := some kind }

/-- The grammar of the whole command line. -/
def mainGrammar : Grammar where
  program := "testgen"
  options := [helpOption, verboseOption, valueOption "--log-file"]
  operand := some (.choice "command" ["serve", "serve-http", "analyze", "generate"])

/-- The grammar of what follows a command. -/
def grammarOf (command : String) (options : List Opt) (operand : Option Operand) : Grammar where
  program := mainGrammar.program ++ " " ++ command
  options := helpOption :: verboseOption :: options
  operand := operand

/-- The grammar after `serve`. -/
def serveGrammar : Grammar := grammarOf "serve" [] none

/-- The grammar after `serve-http`. -/
def webGrammar : Grammar := grammarOf "serve-http" [valueOption "--host", valueOption "--port" .integer] none

/-- The grammar after `analyze`. -/
def analyzeGrammar : Grammar := grammarOf "analyze" [valueOption "--root"] (some (.one "path"))

/-- The grammar after `generate`. -/
def generateGrammar : Grammar :=
  grammarOf "generate" [valueOption "--root", valueOption "--output", { names := ["--no-verify"] }]
    (some (.one "path"))

/-- The help on a grammar. -/
def Grammar.usage (g : Grammar) : String :=
  let operand := match g.operand with
    | some (.one name) => " " ++ name
    | some (.choice _ choices) => " (" ++ " | ".intercalate choices ++ ") ..."
    | none => ""
  "usage: " ++ g.program ++ String.join (g.options.map fun o => " [" ++ o.shown ++ "]") ++ operand ++ "\n"

/-! ## Parsing -/

/-- Why arguments are not carried out, and the grammar that they were read by. -/
structure Refusal where
  /-- The grammar. -/
  grammar : Grammar
  /-- The reason. -/
  stop : Stop
  deriving Repr, DecidableEq, Inhabited

/-- Where the web service is offered, by default on this machine alone. -/
def addressOf (f : Findings) : Address where
  host := (f.value? "--host").getD "127.0.0.1"
  number := ((f.value? "--port").bind fun text => (Number.readInteger 10 text).toOption).getD 8000

/-- The path that is the operand. -/
def pathOf (f : Findings) : String := (f.operand.getD []).headD ""

/-- The project's root. -/
def rootOf (f : Findings) : String := (f.value? "--root").getD "."

/-- The action of a command, with the grammar of what follows it. -/
def actionOf (command : String) : Grammar × (Findings → Action) :=
  if command == "serve" then (serveGrammar, fun _ => .serve)
  else if command == "serve-http" then (webGrammar, fun f => .serveWeb (addressOf f))
  else if command == "analyze" then (analyzeGrammar, fun f => .analyze (pathOf f) (rootOf f))
  else
    (generateGrammar, fun f => .generate
      { file := pathOf f, root := rootOf f, output := f.value? "--output", verify := !f.has "--no-verify" })

/-- Reads arguments by a grammar. -/
def readBy (g : Grammar) (arguments : List String) : Except Refusal Findings :=
  (g.read arguments).mapError (Refusal.mk g)

/-- The invocation that arguments are. -/
def Invocation.parse (arguments : List String) : Except Refusal Invocation := do
  let f ← readBy mainGrammar arguments
  let words := f.operand.getD []
  let (grammar, action) := actionOf (words.headD "")
  let f' ← readBy grammar (words.drop 1)
  let extras := f.extras ++ f'.extras
  if extras.isEmpty then
    return { action := action f', verbose := f.has "--verbose" || f'.has "--verbose"
             journal := f.value? "--log-file" }
  else .error ⟨mainGrammar, .fault (.leftOver extras)⟩

end Suitewright.Command
