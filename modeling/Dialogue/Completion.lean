import Dialogue.Message

/-!
# Completions

A completion is what the backend answers: a text, perhaps calls, the name of the model, and what it
tells about tokens and about why it stopped. It becomes the next message of the model.
-/

namespace Dialogue

/-- How many tokens a request and its answer took. -/
structure Usage where
  request : UInt32
  answer : UInt32
  total : UInt32
deriving DecidableEq, Repr

namespace Usage

/-- Usage as a value. -/
def toJson (u : Usage) : Json :=
  Json.object [("prompt_tokens", .ofNat u.request.toNat),
    ("completion_tokens", .ofNat u.answer.toNat), ("total_tokens", .ofNat u.total.toNat)]

/-- The three counts as fields of a record. -/
def record : Json.Record Usage :=
  Usage.mk <$> .required "prompt_tokens" .word32 <*> .required "completion_tokens" .word32
    <*> .required "total_tokens" .word32

/-- Reads usage. -/
def decode : Json.Decoder Usage :=
  Json.Record.decoder "TokenUsage" 3 record

end Usage

/-- Why the model stopped. -/
inductive FinishReason where
  | stop
  | length
  | toolUse
  | contentFilter
  | other (reason : String)
deriving DecidableEq, Repr

namespace FinishReason

/-- The reason that a chat service calls by this name. -/
def ofWire (name : String) : FinishReason :=
  if name = "stop" then .stop
  else if name = "length" then .length
  else if name = "tool_calls" ∨ name = "function_call" then .toolUse
  else if name = "content_filter" then .contentFilter
  else .other name

/-- A reason as a value. -/
def toJson : FinishReason → Json
  | .stop => .str "stop"
  | .length => .str "length"
  | .toolUse => .str "tool_use"
  | .contentFilter => .str "content_filter"
  | .other reason => Json.object [("other", .str reason)]

/-- Reads a reason. -/
def decode : Json.Decoder FinishReason :=
  Json.choice [("stop", .bare .stop), ("length", .bare .length), ("tool_use", .bare .toolUse),
    ("content_filter", .bare .contentFilter),
    ("other", .carrying fun v => (Json.Decoder.string v).map .other)]

end FinishReason

/-- What the backend answers. -/
structure Completion where
  content : String
  calls : List Call
  model : String
  usage : Option Usage
  finish : Option FinishReason
deriving DecidableEq, Repr

namespace Completion

/-- A completion of text alone. -/
def text (content : String) : Completion :=
  ⟨content, [], "", none, some .stop⟩

/-- A completion that asks for calls. -/
def withCalls (content : String) (calls : List Call) : Completion :=
  ⟨content, calls, "", none, some .toolUse⟩

/-- The message of the model. -/
def toMessage (now : Time.Instant) (c : Completion) : Message :=
  { Message.plain now .model c.content with
    calls := c.calls
    metadata := some ⟨c.usage.map (·.answer), if c.model = "" then none else some c.model⟩ }

@[simp]
theorem role_toMessage (now : Time.Instant) (c : Completion) : (c.toMessage now).role = .model :=
  rfl

@[simp]
theorem calls_toMessage (now : Time.Instant) (c : Completion) :
    (c.toMessage now).calls = c.calls :=
  rfl

/-- A completion as a value. -/
def toJson (c : Completion) : Json :=
  Json.object [("content", .str c.content), ("tool_calls", .arr (c.calls.map Call.toJson)),
    ("model", .str c.model), ("usage", .orNull Usage.toJson c.usage),
    ("finish_reason", .orNull FinishReason.toJson c.finish)]

/-- Reads a completion. -/
def decode : Json.Decoder Completion :=
  Json.Record.decoder "Completion" 5 <|
    Completion.mk <$> .required "content" .string
      <*> .withDefault "tool_calls" (.list Call.decode) [] <*> .required "model" .string
      <*> .nullable "usage" Usage.decode <*> .nullable "finish_reason" FinishReason.decode

end Completion

end Dialogue
