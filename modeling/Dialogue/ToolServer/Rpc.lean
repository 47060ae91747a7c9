import Dialogue.Json.Expected
import Dialogue.ToolServer.EventStream

/-!
# Remote procedure calls

Tool servers speak JSON-RPC 2.0. A request has an id, which its response repeats; a notification has
none and is not answered. A response holds a result or an error.
-/

namespace Dialogue.ToolServer.Rpc

/-- A request, or a notification if there is no id. -/
def request (id : Option Nat) (method : String) (params : Json) : Json :=
  Json.object ([("jsonrpc", .str "2.0"), ("method", .str method), ("params", params)] ++
    id.toList.map fun n => ("id", .ofNat n))

/-- What a server says went wrong. -/
structure Error where
  code : Int
  message : String
deriving DecidableEq, Repr

/-- A response. -/
structure Response where
  id : Option Json
  result : Option Json
  error : Option Error
deriving DecidableEq, Repr

namespace Response

/-- The form of an error. -/
def errorForm : Json.Form :=
  .record "JsonRpcError" [("code", .integer, true), ("message", .text, true)]

/-- The form of a response. -/
def form : Json.Form :=
  .record "JsonRpcResponse" [("id", .nullable .any, false), ("result", .nullable .any, false),
    ("error", .nullable errorForm, false)]

/-- A field of a value that is there and not `null`. -/
def present (v : Json) (name : String) : Option Json :=
  (v.get? name).filter (· ≠ .null)

/-- The error in a value of the form. -/
def errorOf? (v : Json) : Option Error := do
  let e ← present v "error"
  some ⟨← (e.get? "code").bind Json.int?, ← (e.get? "message").bind Json.text?⟩

/-- Reads a response. -/
def read? (cs : List Char) : Option Response :=
  match Json.parseForm .characters form cs with
  | .ok v => some ⟨present v "id", present v "result", errorOf? v⟩
  | .error _ => none

/-- Whether a response answers the request with this id. -/
def answers (r : Response) (id : Nat) : Bool :=
  r.id == some (.ofNat id)

/-- The response in a text to the request with this id. -/
def inText? (cs : List Char) (id : Nat) : Option Response :=
  (read? cs).filter (·.answers id)

/-- The first response in a stream of events to the request with this id. -/
def inEvents? (body : List Char) (id : Nat) : Option Response :=
  ((EventStream.payloads body).filterMap read?).find? (·.answers id)

end Response

end Dialogue.ToolServer.Rpc
