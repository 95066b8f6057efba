/-
  Requests to the web service and their answers.

  * `Web.Endpoint`: what can be asked for, where and how;
  * `Web.Request`, `Web.Response`: what is sent and what comes back;
  * `Web.findEndpoint?`: the endpoint of a path; slashes at its end do not count, and neither does a query;
  * `Web.BodyFault`: why a body is not taken, and the response that says so.
-/
import Suitewright.Json.Reader
import Suitewright.Json.Shape
import Suitewright.Text.Utf8

namespace Suitewright.Web

/-! ## Endpoints -/

/-- What can be asked for. -/
inductive Endpoint where
  /-- Whether the service runs. -/
  | health
  /-- A remote call. -/
  | rpc
  /-- The component of a file. -/
  | analyze
  /-- The suite of a component. -/
  | generate
  deriving Repr, DecidableEq, Inhabited

namespace Endpoint

/-- All endpoints. -/
def all : List Endpoint := [health, rpc, analyze, generate]

/-- The path of an endpoint. -/
def path : Endpoint → String
  | health => "/health"
  | rpc => "/rpc"
  | analyze => "/analyze"
  | generate => "/generate"

/-- The method by which an endpoint is asked. -/
def method : Endpoint → String
  | health => "GET"
  | _ => "POST"

end Endpoint

/-! ## Requests -/

/-- What is sent to the service. -/
structure Request where
  /-- The method. -/
  method : String
  /-- The path, with a query if there is one. -/
  target : String
  /-- The body; an empty one is none. -/
  body : String := ""
  deriving Repr, DecidableEq, Inhabited

/-- The bytes that a part of an address stands for: a percent sign with two digits is a byte. -/
def unquote : List Char → List UInt8
  | '%' :: a :: b :: rest =>
    match Json.hexValue? a, Json.hexValue? b with
    | some m, some n => UInt8.ofNat (16 * m + n) :: unquote rest
    | _, _ => Utf8.encode "%" ++ unquote (a :: b :: rest)
  | c :: rest => Utf8.encode (.singleton c) ++ unquote rest
  | [] => []

/-- The path that a target names. -/
def pathOf (target : String) : String :=
  let path := target.toList.takeWhile fun c => c != '?' && c != '#'
  let path := if path.head? == some '/' then path else '/' :: path
  Utf8.decodeLossy (unquote path)

/-- The endpoint at exactly a path. -/
def endpointAt? (path : String) : Option Endpoint := Endpoint.all.find? fun e => e.path == path

/-- The endpoint of a target. -/
def findEndpoint? (target : String) : Option Endpoint :=
  let path := pathOf target
  (endpointAt? path).or (endpointAt? (.ofList (Text.dropEnd (· == '/') path.toList)))

/-! ## Responses -/

/-- The body of a response. -/
inductive Content where
  /-- Nothing. -/
  | empty
  /-- A value. -/
  | json (value : Json)
  /-- A text. -/
  | text (text : String)
  deriving Inhabited

/-- What comes back. -/
structure Response where
  /-- The status. -/
  status : Nat
  /-- The body. -/
  content : Content
  deriving Inhabited

namespace Response

/-- A value that answers a request. -/
def ok (value : Json) : Response := ⟨200, .json value⟩

/-- A refusal with its reason. -/
def refusal (status : Nat) (reason : Json) : Response := ⟨status, .json (.obj [("detail", reason)])⟩

/-- The response when the program fails. -/
def failure : Response := ⟨500, .text "Internal Server Error"⟩

/-- The response without its body. -/
def withoutBody (r : Response) : Response := { r with content := .empty }

end Response

/-! ## Bodies -/

/-- Why a body is not taken. -/
inductive BodyFault where
  /-- There is none, or it is null. -/
  | absent
  /-- It breaks the grammar of values at a place. -/
  | malformed (position : Nat)
  /-- It cannot be read for another reason. -/
  | unreadable
  /-- It is no object. -/
  | notObject
  /-- Fields are wrong. -/
  | fields (faults : List FieldFault)
  deriving Repr, DecidableEq

/-- An entry of a refusal: where something is wrong, and what. -/
def complaint (label message : String) (place : List Json) : Json :=
  .obj [("type", .str label), ("loc", .arr (.str "body" :: place)), ("msg", .str message)]

/-- The response to a body that is not taken. -/
def BodyFault.response : BodyFault → Response
  | absent => .refusal 422 (.arr [complaint Misfit.missing.label Misfit.missing.message []])
  | malformed position => .refusal 422 (.arr [complaint "json_invalid" "JSON decode error" [.int position]])
  | unreadable => .refusal 400 (.str "There was an error parsing the body")
  | notObject =>
    .refusal 422 (.arr [complaint "model_attributes_type"
      "Input should be a valid dictionary or object to extract fields from" []])
  | fields faults =>
    .refusal 422 (.arr (faults.map fun f => complaint f.misfit.label f.misfit.message [.str f.key]))

/-- A text without a byte-order mark at its front. -/
def dropMark (text : String) : String :=
  match text.toList with
  | c :: cs => if c.toNat == 0xFEFF then .ofList cs else text
  | [] => text

/-- The value of a body. -/
def readBody (body : String) : Except BodyFault Json :=
  if body.isEmpty then .error .absent
  else
    let text := dropMark body
    match Json.read text with
    | .ok .null => .error .absent
    | .ok v => .ok v
    | .error e =>
      match e.position? text with
      | some position => .error (.malformed position)
      | none => .error .unreadable

/-- The object of a body, read by its fields. -/
def readFields {α : Type} (read : List (String × Json) → Checked α) (body : String) : Except BodyFault α := do
  match ← readBody body with
  | .obj fs => (read fs).mapError .fields
  | _ => .error .notObject

end Suitewright.Web
