import Dialogue.Backend.Basic
import Dialogue.Json.Parser
import Dialogue.Text.Blank

/-!
# Responses of a chat service

A response lists choices, of which the first one counts, though all of them have to have the right
form. The arguments of a call are JSON text inside a string; blank arguments stand for an empty
object.

Which failure is reported: a response of the wrong form or without choices before arguments that are
not JSON, and of those the first.
-/

namespace Dialogue.Chat

/-- A call as a service sends it. -/
structure WireCall where
  id : String
  name : String
  /-- JSON text. -/
  arguments : String
deriving DecidableEq, Repr

/-- One of the answers in a response. -/
structure Choice where
  content : Option String
  calls : Option (List WireCall)
  finish : Option String
deriving DecidableEq, Repr

/-- A response. -/
structure Response where
  model : Option String
  choices : List Choice
  usage : Option Usage
deriving DecidableEq, Repr

/-- Reads a call. -/
def WireCall.decode : Json.Decoder WireCall :=
  Json.Record.decoder "WireToolCall" 2 <|
    (fun id (function : String × String) => ⟨id, function.1, function.2⟩)
      <$> .required "id" .string
      <*> .required "function" (Json.Record.decoder "WireFunction" 2 <|
        Prod.mk <$> .required "name" .string <*> .withDefault "arguments" .string "")

/-- Reads a choice. -/
def Choice.decode : Json.Decoder Choice :=
  Json.Record.decoder "Choice" 2 <|
    (fun (message : Option String × Option (List WireCall)) finish =>
        ⟨message.1, message.2, finish⟩)
      <$> .required "message" (Json.Record.decoder "ResponseMessage" 2 <|
        Prod.mk <$> .optional "content" .string
          <*> .optional "tool_calls" (.list WireCall.decode))
      <*> .optional "finish_reason" .string

/-- Reads a response. -/
def Response.decode : Json.Decoder Response :=
  Json.Record.decoder "ChatCompletionResponse" 3 <|
    Response.mk <$> .optional "model" .string <*> .withDefault "choices" (.list Choice.decode) []
      <*> .optional "usage" (Json.Record.decoder "Usage" 3 Usage.record)

/-- The arguments that a text stands for. -/
def readArguments (text : String) : Except Json.TextFault Json :=
  if (Text.trim text.toList).isEmpty then .ok (.obj []) else Json.parse text.toList

/-- The call that a service asks for. -/
def WireCall.toCall (c : WireCall) : Except Failure Call :=
  match readArguments c.arguments with
  | .ok arguments => .ok ⟨c.id, c.name, arguments⟩
  | .error e =>
    .error (.unreadable ("Invalid arguments for tool '" ++ c.name ++ "': " ++ e.message))

/-- The completion of a response. `fallback` names the model when the response does not. -/
def Response.toCompletion (r : Response) (fallback : String) : Except Failure Completion :=
  match r.choices with
  | [] => .error (.backend "Response contained no choices")
  | choice :: _ => do
    let calls ← (choice.calls.getD []).mapM WireCall.toCall
    .ok ⟨choice.content.getD "", calls, r.model.getD fallback, r.usage,
      choice.finish.map FinishReason.ofWire⟩

/-- Reads the completion in the body of a response. -/
def readCompletion (body : Json) (fallback : String) : Except Failure Completion :=
  match Response.decode body with
  | .ok r => r.toCompletion fallback
  | .error e => .error (.backend ("Unexpected response shape: " ++ e.message))

end Dialogue.Chat
