/-
  Answering requests.

  * `Rpc.CallFailure`: why a request is answered by an error;
  * `Rpc.Request.carryOut`: what a method gives;
  * `Rpc.answerBy`, `answerLineBy`: the reply to a value or to a line, if it wants one. There is a reply to
    every request with a name, and to every object with a name that is no request;
  * `Rpc.answerJson`, `answerLine`: the same with the work on a project behind the tools.
-/
import Suitewright.Json.Reader
import Suitewright.Rpc.Tool

namespace Suitewright.Rpc

/-- Why a request is answered by an error. -/
inductive CallFailure where
  /-- There is no such method. -/
  | unknownMethod (name : String)
  /-- There is no such tool. -/
  | unknownTool (name : String)
  /-- The parameters are wrong. -/
  | parameters (faults : List FieldFault)
  /-- The work failed. -/
  | work (e : RequestError)
  deriving Repr, DecidableEq

/-- The kind of error that a failure is. -/
def CallFailure.code : CallFailure → ErrorCode
  | unknownMethod _ | unknownTool _ => .methodNotFound
  | parameters _ => .invalidParams
  | work _ => .internalError

/-- A failure in words. -/
def CallFailure.message : CallFailure → String
  | unknownMethod name => "Method not found: " ++ name
  | unknownTool name => "Unknown tool: " ++ name
  | parameters faults => "Invalid params: " ++ "; ".intercalate (faults.map FieldFault.describe)
  | work e => "Internal error: " ++ e.message

/-- Adds a record of this part of the program to the journal. -/
def note (level : Level) (message : String) : StateM Workspace Unit :=
  modify fun w => { w with notes := w.notes ++ [⟨level, "server", message⟩] }

/-! ## Methods -/

/-- The version of the tools' protocol that is offered when the client names none. -/
def defaultProtocol : String := "2024-11-05"

/-- What the server tells about itself. -/
def greeting (params : List (String × Json)) : List (String × Json) :=
  [("protocolVersion", (Fields.get? params "protocolVersion").getD (.str defaultProtocol)),
    ("capabilities", .obj [("tools", .obj [])]),
    ("serverInfo", .obj [("name", .str "testgen"), ("version", .str "1.0.0")])]

/-- Calls a tool. -/
def callTool (o : Orchestrator) (params : List (String × Json)) :
    StateM Workspace (Except CallFailure (List (String × Json))) := do
  match callOf params with
  | .error faults => return .error (.parameters faults)
  | .ok (name, arguments) =>
    match Tool.ofName? name with
    | none => return .error (.unknownTool name)
    | some tool =>
      note .info ("Calling tool " ++ name)
      match tool.request arguments with
      | .error faults => return .error (.parameters faults)
      | .ok request =>
        match ← (request.run o).run with
        | .error e => return .error (.work e)
        | .ok text => return .ok (textResult text)

/-- What a method gives. -/
def Request.carryOut (o : Orchestrator) (r : Request) :
    StateM Workspace (Except CallFailure (List (String × Json))) :=
  if r.method == "initialize" then return .ok (greeting r.params)
  else if r.method == "ping" then return .ok []
  else if r.method == "tools/list" then return .ok [("tools", .arr (Tool.all.map Tool.toJson))]
  else if r.method == "tools/call" then callTool o r.params
  else return .error (.unknownMethod r.method)

/-! ## Replies -/

/-- The reply to a request with a name. -/
def Request.reply (o : Orchestrator) (id : Id) (r : Request) : StateM Workspace Reply := do
  match ← r.carryOut o with
  | .ok fs => return { id := some id, answer := .result fs }
  | .error e =>
    match e with
    | .work _ => note .error ("Request " ++ id.shown ++ " failed")
    | _ => pure ()
    return { id := some id, answer := .error e.code e.message }

/-- The reply to a value that is no request: there is one if it is an object with a name. -/
def refusal? (v : Json) : Option Reply :=
  match v.get? "id" with
  | none | some .null => none
  | some id => some { id := Id.echo? id, answer := .error .invalidRequest "Invalid request" }

/-- The reply to a value, if it wants one. -/
def answerBy (o : Orchestrator) (v : Json) : StateM Workspace (Option Reply) := do
  match Request.ofJson v with
  | .error fault =>
    note .warning ("Skipping malformed request: " ++ fault.message)
    return refusal? v
  | .ok r =>
    match r.id with
    | none =>
      note .debug ("Received notification " ++ r.method)
      return none
    | some id => return some (← r.reply o id)

/-- The reply to a line, if it wants one. -/
def answerLineBy (o : Orchestrator) (line : String) : StateM Workspace (Option Reply) := do
  match Json.read line with
  | .ok v => answerBy o v
  | .error e =>
    note .warning ("Error parsing request: " ++ e.message line)
    return none

/-- The reply to a value, with the work on a project behind the tools. -/
def answerJson (limit : Int) : Json → StateM Workspace (Option Reply) := answerBy (.standard limit)

/-- The reply to a line, with the work on a project behind the tools. -/
def answerLine (limit : Int) : String → StateM Workspace (Option Reply) := answerLineBy (.standard limit)

end Suitewright.Rpc
