import Dialogue.Http.Exchange
import Dialogue.ToolServer.Definition
import Dialogue.ToolServer.Rpc

/-!
# Clients of tool servers

A client speaks with one tool server. It numbers its requests from 1 on and never uses a number
twice. A server may open a session by naming it in a header of a successful response; the client
then repeats the latest name in every request.

A connection is opened by a request and a notification. The tools of a server are listed page by
page, as long as the server names a next page; `fuel` bounds the number of pages.
-/

namespace Dialogue.ToolServer

open Http (Exchange)

/-- A client of one server. -/
structure Client where
  /-- The name of the server. -/
  name : String
  url : String
  /-- The id of the next request. -/
  nextId : Nat
  /-- The name of the session. -/
  session : Option String
deriving DecidableEq, Repr

namespace Client

/-- A client that has not spoken yet. -/
def fresh (name url : String) : Client :=
  ⟨name, url, 1, none⟩

/-- The revision of the protocol that a client announces. -/
def protocolVersion : String := "2025-03-26"

/-- The header that names the session. -/
def sessionHeader : String := "mcp-session-id"

/-- A failure of the server. -/
def failure (c : Client) (detail : String) : Failure :=
  .toolServer (c.name ++ ": " ++ detail)

/-- The headers of what a client sends. -/
def headers (c : Client) : List Http.Header :=
  [.ofText "accept" "application/json, text/event-stream",
    .ofText "content-type" "application/json"] ++ c.session.toList.map (.ofText sessionHeader ·)

/-- The client after a successful response. -/
def heed (c : Client) (r : Http.Response) : Client :=
  match (r.header? sessionHeader).bind Http.Header.text? with
  | some session => { c with session := some session }
  | none => c

/-- Sends a message for a method, and gives the response if it was successful and is whole. A
response is heeded before its body is read. -/
def send (c : Client) (method : String) (message : Json) :
    Exchange (Except Failure Http.Response × Client) := do
  match ← Exchange.ask .post c.url c.headers (some message) with
  | .error e => return (.error (c.failure (method ++ " failed: " ++ e.message)), c)
  | .ok r =>
    if r.isSuccess then
      match r.cutOff with
      | none => return (.ok r, c.heed r)
      | some detail => return (.error (c.failure detail), c.heed r)
    else
      return (.error (c.failure (method ++ " returned " ++ Http.statusLine r.status)), c)

/-- Whether a response holds a stream of events. -/
def isEventStream (r : Http.Response) : Bool :=
  match (r.header? "content-type").bind Http.Header.text? with
  | some kind => "text/event-stream".toList.isPrefixOf kind.toList
  | none => false

/-- The answer in a response to the request with this id. -/
def answer? (r : Http.Response) (id : Nat) : Option Rpc.Response :=
  if isEventStream r then Rpc.Response.inEvents? r.text id else Rpc.Response.inText? r.text id

/-- The result in a response to the request with this id. -/
def resultOf (c : Client) (method : String) (id : Nat) (r : Http.Response) : Except Failure Json :=
  match answer? r id with
  | none =>
    .error (c.failure
      ("no JSON-RPC response for '" ++ method ++ "' (id " ++ toString id ++ ")"))
  | some a =>
    match a.error with
    | some e => .error (c.failure ("JSON-RPC error " ++ toString e.code ++ ": " ++ e.message))
    | none => .ok (a.result.getD .null)

/-- Makes a request and gives its result. -/
def request (c : Client) (method : String) (params : Json) :
    Exchange (Except Failure Json × Client) := do
  let id := c.nextId
  let (r, c) ← { c with nextId := id + 1 }.send method (Rpc.request (some id) method params)
  return (r.bind (c.resultOf method id), c)

/-- Sends a notification. -/
def notify (c : Client) (method : String) : Exchange (Except Failure Unit × Client) := do
  let (r, c) ← c.send method (Rpc.request none method (.obj []))
  return (r.map fun _ => (), c)

/-- What a client says of itself when it opens a connection. -/
def introduction : Json :=
  Json.object [("protocolVersion", .str protocolVersion), ("capabilities", .obj []),
    ("clientInfo", Json.object [("name", .str "agent-runtime"), ("version", .str "0.1.0")])]

/-- Opens a connection. -/
def connect (c : Client) : Exchange (Except Failure Unit × Client) := do
  match ← c.request "initialize" introduction with
  | (.error e, c) => return (.error e, c)
  | (.ok _, c) => c.notify "notifications/initialized"

/-! ## Listing -/

/-- The tools of a server. -/
inductive Listing where
  | complete (definitions : List Definition)
  | failed (failure : Failure)
  /-- The fuel ran out. -/
  | unfinished
deriving DecidableEq, Repr

/-- A listing with more definitions before it. -/
def Listing.prepend (before : List Definition) : Listing → Listing
  | .complete definitions => .complete (before ++ definitions)
  | l => l

/-- The parameters that ask for the page at a cursor. -/
def pageParams : Option String → Json
  | none => .obj []
  | some cursor => Json.object [("cursor", .str cursor)]

/-- Asks for a page. -/
def page (c : Client) (cursor : Option String) : Exchange (Except Failure Page × Client) := do
  let (r, c) ← c.request "tools/list" (pageParams cursor)
  return (r.bind fun v => (Page.decode v).mapError fun e =>
    c.failure ("invalid tools/list result: " ++ e.message), c)

/-- Lists the tools from a page on. -/
def listFrom : (fuel : Nat) → Client → (cursor : Option String) → Exchange (Listing × Client)
  | 0, c, _ => return (.unfinished, c)
  | fuel + 1, c, cursor => do
    match ← c.page cursor with
    | (.error e, c) => return (.failed e, c)
    | (.ok p, c) =>
      match p.next? with
      | none => return (.complete p.definitions, c)
      | some next =>
        let (l, c) ← listFrom fuel c (some next)
        return (l.prepend p.definitions, c)

/-- Lists the tools. -/
def list (fuel : Nat) (c : Client) : Exchange (Listing × Client) :=
  listFrom fuel c none

/-! ## Calls -/

/-- Calls a tool. -/
def call (c : Client) (tool : String) (arguments : Json) :
    Exchange (Except Failure CallResult × Client) := do
  let params := Json.object [("name", .str tool), ("arguments", arguments)]
  let (r, c) ← c.request "tools/call" params
  return (r.bind fun v => (CallResult.decode v).mapError fun e =>
    c.failure ("invalid tools/call result: " ++ e.message), c)

end Client

end Dialogue.ToolServer
