import Dialogue.Backend.Basic

/-!
# Requests to a chat service

The JSON body that a chat completion service is sent. Each message becomes an object with a role and
a content; a message of the model that has calls lists them, their arguments as JSON text inside a
string, and has the content `null` if it has no text.
-/

namespace Dialogue.Chat

/-- A call inside a message. -/
def callBody (c : Call) : Json :=
  Json.object [("id", .str c.id), ("type", .str "function"),
    ("function", Json.object [("name", .str c.name), ("arguments", .str c.arguments.render)])]

/-- A message of a role with a text. -/
def plainBody (role content : String) : Json :=
  Json.object [("role", .str role), ("content", .str content)]

/-- A message. -/
def messageBody (m : Message) : Json :=
  match m.role with
  | .system => plainBody "system" m.content
  | .human => plainBody "user" m.content
  | .model =>
    if m.calls.isEmpty then plainBody "assistant" m.content
    else
      Json.object [("role", .str "assistant"),
        ("content", if m.content = "" then .null else .str m.content),
        ("tool_calls", .arr (m.calls.map callBody))]
  | .tool =>
    Json.object [("role", .str "tool"), ("tool_call_id", .str (m.callId.getD "")),
      ("content", .str m.content)]

/-- The signature of a tool. -/
def toolBody (s : Signature) : Json :=
  Json.object [("type", .str "function"),
    ("function", Json.object [("name", .str s.name), ("description", .str s.description),
      ("parameters", s.argumentSchema)])]

/-- The messages of a request. -/
def messagesBody (ms : List Message) : List Json :=
  ms.map messageBody

/-- The tools of a request. -/
def toolsBody (signatures : List Signature) : List Json :=
  signatures.map toolBody

/-- The body of a request. Without tools it has no list of tools. -/
def requestBody (r : Request) : Json :=
  Json.object ([("messages", .arr (messagesBody r.messages))] ++
    (if r.tools.isEmpty then [] else [("tools", .arr (toolsBody r.tools))]) ++ r.sampling.fields)

end Dialogue.Chat
