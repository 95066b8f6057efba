/-
  Answering requests to the web service.

  * `Web.respond`: the response to a request, and what becomes of the workspace.

  A path that leads nowhere is not found, and another method than the endpoint's is not allowed. Failures of
  the work are told apart by who is to blame.
-/
import Suitewright.Rpc.Answer
import Suitewright.Web.Exchange

namespace Suitewright.Web

/-- The response to work that failed. -/
def failed (e : RequestError) : Response :=
  match e.blame with
  | .missing => .refusal 404 (.str e.message)
  | .refused => .refusal 400 (.str e.message)
  | .internal => .failure

/-- The response to work. -/
def respondTo {α : Type} (work : Work α) (view : α → Json) : StateM Workspace Response := do
  match ← work.run with
  | .ok a => return .ok (view a)
  | .error e => return failed e

/-! ## Orders -/

/-- The paths of a component and its project, which is the current directory by default. -/
def componentFields (fs : List (String × Json)) : Checked (String × String) :=
  (requiredField Json.text Rpc.fileKeys fs).pair (optionalField Json.text "." Rpc.rootKeys fs)

/-- What a suite is to be made for. -/
def orderOfFields (fs : List (String × Json)) : Checked Order :=
  let placing := (optionalField Json.textOrNull none Rpc.outputKeys fs).pair
    (optionalField Json.truth true ["verify"] fs)
  ((componentFields fs).pair placing).map fun ((file, root), output, verify) => { file, root, output, verify }

/-- An outcome as it is sent back. -/
def outcomeJson (o : Outcome) : Json :=
  .obj [("status", .str ((o.ending.map Ending.label).getD "skipped")), ("test_path", .str o.testPath.toText),
    ("iterations", .int o.iterations), ("test_source", .str o.testSource), ("diagnostics", .str o.diagnostics),
    ("history", .strings o.history)]

/-! ## Responses -/

/-- The response to a remote call. A reply that holds an infinity or no number cannot be sent. -/
def respondToCall (limit : Int) (v : Json) : StateM Workspace Response := do
  match ← Rpc.answerJson limit v with
  | none => return ⟨204, .empty⟩
  | some reply =>
    let reply := reply.toJson
    return if reply.allFinite then .ok reply else .failure

/-- The response of an endpoint to a body. -/
def respondAt (limit : Int) (body : String) : Endpoint → StateM Workspace Response
  | .health => return .ok (.obj [("status", .str "ok")])
  | .rpc =>
    match readBody body with
    | .ok v => respondToCall limit v
    | .error e => return e.response
  | .analyze =>
    match readFields componentFields body with
    | .ok (file, root) => respondTo (analyzeComponent file root) Component.toJson
    | .error e => return e.response
  | .generate =>
    match readFields orderOfFields body with
    | .ok order => respondTo (generate limit order) outcomeJson
    | .error e => return e.response

/-- The response to a request, with a body. -/
def respondFully (limit : Int) (r : Request) : StateM Workspace Response :=
  match findEndpoint? r.target with
  | none => return .refusal 404 (.str "Not Found")
  | some e =>
    if r.method.toUpper == e.method then respondAt limit r.body e
    else return .refusal 405 (.str "Method Not Allowed")

/-- The response to a request. -/
def respond (limit : Int) (r : Request) : StateM Workspace Response := do
  let response ← respondFully limit r
  return if r.method.toUpper == "HEAD" then response.withoutBody else response

end Suitewright.Web
