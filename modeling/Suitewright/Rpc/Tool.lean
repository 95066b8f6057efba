/-
  The tools that clients may call.

  * `Rpc.Tool`: the tools, their names and what they say about themselves;
  * `Rpc.callOf`: the name and the arguments of a call;
  * `Rpc.ToolRequest`: a tool with its arguments; `Tool.request` reads them;
  * `Rpc.Orchestrator`: what carries out the work of the tools;
  * `Rpc.ToolRequest.run`: what the tool does, and the text that it gives.
-/
import Suitewright.Loop.Generate
import Suitewright.Rpc.Message

namespace Suitewright.Rpc

/-- A tool. -/
inductive Tool where
  /-- Shows the component of a file. -/
  | analyze
  /-- Makes the suite of a component. -/
  | generate
  /-- Shows the source of a component. -/
  | read
  deriving Repr, DecidableEq, Inhabited

namespace Tool

/-- All tools. -/
def all : List Tool := [analyze, generate, read]

/-- The name by which a tool is called. -/
def name : Tool → String
  | analyze => "analyze_component"
  | generate => "generate_tests"
  | read => "read_component"

/-- The tool of a name. -/
def ofName? (name : String) : Option Tool := all.find? fun t => t.name == name

/-- What a tool does, in a sentence. -/
def description : Tool → String
  | analyze => "Analyze a React component file to extract its structure and props"
  | generate => "Generate test cases for a React component and repair them until they pass"
  | read => "Read and display the content of a component file"

/-- An argument that is a text, with a sentence about it. -/
def textArgument (name about : String) : String × Json :=
  (name, .obj [("type", .str "string"), ("description", .str about)])

/-- The arguments of a tool. -/
def arguments : Tool → List (String × Json)
  | generate => paths ++ [textArgument "outputPath" "Optional custom output path for the test file"]
  | _ => paths
where
  /-- The arguments that every tool has. -/
  paths : List (String × Json) :=
    [textArgument "filePath" "Path to the component file (e.g., src/components/common/button/index.tsx)",
      textArgument "projectRoot" "Root directory of the project"]

/-- A tool as it is shown to clients. -/
def toJson (t : Tool) : Json :=
  .obj [("name", .str t.name), ("description", .str t.description),
    ("inputSchema", .obj [("type", .str "object"), ("properties", .obj t.arguments),
      ("required", .strings ["filePath", "projectRoot"])])]

end Tool

/-! ## Calls -/

/-- The keys of a component's path. -/
def fileKeys : List String := ["filePath", "file_path"]

/-- The keys of a project's root. -/
def rootKeys : List String := ["projectRoot", "project_root"]

/-- The keys of a suite's path. -/
def outputKeys : List String := ["outputPath", "output_path"]

/-- A tool with its arguments. -/
inductive ToolRequest where
  /-- Shows the component of a file. -/
  | analyze (file root : String)
  /-- Makes a suite. -/
  | generate (order : Order)
  /-- Shows the source of a component. -/
  | read (file root : String)
  deriving Repr, DecidableEq, Inhabited

/-- The name of the tool that parameters call, and its arguments. -/
def callOf (params : List (String × Json)) : Checked (String × List (String × Json)) :=
  (requiredField Json.text ["name"] params).pair (optionalField Json.fields [] ["arguments"] params)

/-- The paths of a component and its project. -/
def componentArguments (fs : List (String × Json)) : Checked (String × String) :=
  (requiredField Json.text fileKeys fs).pair (requiredField Json.text rootKeys fs)

/-- The tool with the arguments that an object holds. -/
def Tool.request (fs : List (String × Json)) : Tool → Checked ToolRequest
  | .analyze => (componentArguments fs).map fun (file, root) => .analyze file root
  | .generate =>
    ((componentArguments fs).pair (optionalField Json.textOrNull none outputKeys fs)).map
      fun ((file, root), output) => .generate { file, root, output }
  | .read => (componentArguments fs).map fun (file, root) => .read file root

/-- What carries out the work of the tools. -/
structure Orchestrator where
  /-- The component of a file below a project's root. -/
  analyze : (file root : String) → Work Component
  /-- Makes a suite. -/
  generate : Order → Work Outcome
  /-- The source of a component below a project's root. -/
  read : (file root : String) → Work String

/-- The work on a project. Suites are brought through at most `limit` rounds. -/
def Orchestrator.standard (limit : Int) : Orchestrator where
  analyze := analyzeComponent
  generate order := Suitewright.generate limit order
  read := readComponent

/-- What a tool does, and the text that it gives. -/
def ToolRequest.run (o : Orchestrator) : ToolRequest → Work String
  | analyze file root => return (← o.analyze file root).toJson.pretty
  | generate order => return (← o.generate order).report
  | read file root => return "Content of " ++ file ++ ":\n\n" ++ (← o.read file root)

end Suitewright.Rpc
