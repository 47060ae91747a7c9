import Dialogue.Time.Timestamp
import Dialogue.Tool.Call

/-!
# Messages

A message is said by the system, the user, the model or a tool. Messages of the model may hold
calls; messages of a tool hold the id of the call that they answer and perhaps a structured value.
A message is made once and not changed afterwards.
-/

namespace Dialogue

/-- Who says a message. -/
inductive Role where
  | system
  | human
  | model
  | tool
deriving DecidableEq, Repr, Inhabited

namespace Role

/-- The name of a role. -/
def name : Role → String
  | .system => "system"
  | .human => "human"
  | .model => "ai"
  | .tool => "tool_result"

/-- All roles. -/
def all : List Role := [.system, .human, .model, .tool]

/-- Reads a role. -/
def decode : Json.Decoder Role :=
  Json.choice (all.map fun r => (r.name, .bare r))

end Role

/-- What the backend tells about a message of the model. -/
structure Metadata where
  /-- How many tokens the message has. -/
  tokens : Option UInt32
  model : Option String
deriving DecidableEq, Repr

namespace Metadata

/-- The fields that are there, in the order in which they are written. -/
def fields (d : Metadata) : Members :=
  (d.tokens.toList.map fun n => ("tokens", Json.ofNat n.toNat)) ++
    d.model.toList.map fun m => ("model", .str m)

/-- Reads metadata. -/
def decode : Json.Decoder Metadata :=
  Json.Record.decoder "MessageMetadata" 2 <|
    Metadata.mk <$> .nullable "tokens" .word32 <*> .nullable "model" .string

end Metadata

/-- A message. -/
structure Message where
  role : Role
  content : String
  calls : List Call
  /-- The id of the call that is answered. -/
  callId : Option String
  data : Option Json
  timestamp : Time.Instant
  metadata : Option Metadata
deriving DecidableEq, Repr, Inhabited

namespace Message

/-- A message without calls. -/
def plain (now : Time.Instant) (role : Role) (content : String) : Message :=
  ⟨role, content, [], none, none, now, none⟩

/-- The message that gives the observation of the call with this id. -/
def ofObservation (now : Time.Instant) (id : String) (o : Observation) : Message :=
  ⟨.tool, o.output, [], some id, o.data, now, none⟩

/-- The calls that wait for observations: those of a message of the model. -/
def pendingCalls (m : Message) : List Call :=
  if m.role = .model then m.calls else []

/-- Whether calls wait for observations. -/
def hasPendingCalls (m : Message) : Bool :=
  !m.pendingCalls.isEmpty

/-! ## As a value -/

/-- The fields that are there, in the order in which they are written. `build` makes an object of
such fields for the parts. -/
def fields (build : Members → Json) (m : Message) : Members :=
  [("role", .str m.role.name), ("content", .str m.content)] ++
    (if m.calls.isEmpty then [] else
      [("tool_calls", .arr (m.calls.map fun c => build c.fields))]) ++
    (m.callId.toList.map fun id => ("tool_call_id", .str id)) ++
    (m.data.toList.map fun v => ("data", v)) ++
    [("timestamp", .str m.timestamp.render)] ++
    m.metadata.toList.map fun d => ("metadata", build d.fields)

/-- A message as a value. -/
def toJson (m : Message) : Json :=
  Json.object (m.fields Json.object)

/-- A message as one line of JSON text, its fields in the order in which they are declared. -/
def line (m : Message) : String :=
  (Json.obj (m.fields Json.obj)).render

/-- Reads a timestamp. -/
def decodeTimestamp : Json.Decoder Time.Instant :=
  .formatted "an RFC 3339 formatted date and time string" fun s =>
    (Time.readTimestamp s.toList).mapError Time.TimestampFault.message

/-- Reads a message; one without a timestamp is said `now`. -/
def decode (now : Time.Instant) : Json.Decoder Message :=
  Json.Record.decoder "Message" 7 <|
    Message.mk <$> .required "role" Role.decode <*> .required "content" .string
      <*> .withDefault "tool_calls" (.list Call.decode) [] <*> .optional "tool_call_id" .string
      <*> .optional "data" .any <*> .withDefault "timestamp" decodeTimestamp now
      <*> .optional "metadata" Metadata.decode

/-! ## As text -/

/-- A message for the user: who says what, and the calls below. -/
def render (m : Message) : String :=
  let head := match m.callId with
    | some id => m.role.name ++ "[" ++ id ++ "]: " ++ m.content
    | none => m.role.name ++ ": " ++ m.content
  m.calls.foldl (fun s c => s ++ "\n  -> " ++ c.render) head

end Message

end Dialogue
