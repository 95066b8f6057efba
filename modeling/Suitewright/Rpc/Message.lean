/-
  The messages of remote calls.

  * `Rpc.Id`: the name that a client gives to a request;
  * `Rpc.Request`: a method with parameters; without a name it is a notice that wants no reply;
  * `Rpc.Request.ofJson`: the request that a value is, or why it is none;
  * `Rpc.Reply`: the result of a request, or an error with its code.
-/
import Suitewright.Json.Shape

namespace Suitewright.Rpc

/-! ## Requests -/

/-- The name of a request. -/
inductive Id where
  /-- A number. -/
  | number (value : Int)
  /-- A text. -/
  | text (value : String)
  deriving Repr, DecidableEq, Inhabited

/-- The name as it stands in a message. -/
def Id.toJson : Id → Json
  | number n => .int n
  | text s => .str s

/-- The name as it stands in the journal. -/
def Id.shown : Id → String
  | number n => toString n
  | text s => s

/-- The name that a value is, or nothing for null. -/
def Id.ofJson : Json → Except Misfit (Option Id)
  | .null => .ok none
  | .str s => .ok (some (.text s))
  | v => v.wholeNumber.map fun n => some (.number n)

/-- The name that a refused request is answered under: a number or a text is taken as it stands. -/
def Id.echo? : Json → Option Id
  | .int n => some (.number n)
  | .str s => some (.text s)
  | _ => none

/-- A request. -/
structure Request where
  /-- Its name; nothing for a notice. -/
  id : Option Id
  /-- What is to be done. -/
  method : String
  /-- The parameters. -/
  params : List (String × Json)

/-- Why a value is no request. -/
inductive RequestFault where
  /-- It is no object. -/
  | notObject
  /-- A field is wrong; this is the first one. -/
  | field (fault : FieldFault)
  deriving Repr, DecidableEq

/-- The reason in words. -/
def RequestFault.message : RequestFault → String
  | notObject => "Input should be a valid dictionary or instance of RpcRequest"
  | field f => f.misfit.message

/-- The version of the protocol of messages. -/
def version : String := "2.0"

/-- The request of an object. -/
def Request.ofFields (fs : List (String × Json)) : Checked Request :=
  let envelope := (optionalField Json.text version ["jsonrpc"] fs).pair (optionalField Id.ofJson none ["id"] fs)
  let call := (requiredField Json.text ["method"] fs).pair (optionalField Json.fields [] ["params"] fs)
  (envelope.pair call).map fun ((_, id), method, params) => { id, method, params }

/-- The request that a value is. -/
def Request.ofJson : Json → Except RequestFault Request
  | .obj fs =>
    match Request.ofFields fs with
    | .ok r => .ok r
    | .error (f :: _) => .error (.field f)
    | .error [] => .error .notObject
  | _ => .error .notObject

/-! ## Replies -/

/-- The kind of an error. -/
inductive ErrorCode where
  /-- The message is no request. -/
  | invalidRequest
  /-- The method or tool does not exist. -/
  | methodNotFound
  /-- The parameters are wrong. -/
  | invalidParams
  /-- The request failed. -/
  | internalError
  deriving Repr, DecidableEq, Inhabited

/-- The number of a kind of error. -/
def ErrorCode.number : ErrorCode → Int
  | invalidRequest => -32600
  | methodNotFound => -32601
  | invalidParams => -32602
  | internalError => -32603

/-- What a reply says. -/
inductive Answer where
  /-- The request was carried out. -/
  | result (fields : List (String × Json))
  /-- The request was not carried out. -/
  | error (code : ErrorCode) (message : String)

/-- A reply. -/
structure Reply where
  /-- The name of the request. -/
  id : Option Id
  /-- What it says. -/
  answer : Answer

/-- The entry of an answer in a message. -/
def Answer.entry : Answer → String × Json
  | result fs => ("result", .obj fs)
  | error code message => ("error", .obj [("code", .int code.number), ("message", .str message)])

/-- The message of a reply. -/
def Reply.toJson (r : Reply) : Json :=
  .obj [("jsonrpc", .str version), ("id", (r.id.map Id.toJson).getD .null), r.answer.entry]

/-- The result that holds a text. -/
def textResult (text : String) : List (String × Json) :=
  [("content", .arr [.obj [("type", .str "text"), ("text", .str text)]])]

end Suitewright.Rpc
