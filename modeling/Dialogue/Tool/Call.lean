import Dialogue.Json.Decode

/-!
# Calls and observations

A call is what the model asks a tool to do; an observation is what the tool gives back. An
observation always has a text. A structured value that is not itself a text is kept beside its text.
-/

namespace Dialogue

/-- A request of the model to run a tool. -/
structure Call where
  id : String
  name : String
  arguments : Json
deriving DecidableEq, Repr, Inhabited

namespace Call

/-- The fields of a call, in the order in which they are written. -/
def fields (c : Call) : Members :=
  [("id", .str c.id), ("name", .str c.name), ("arguments", c.arguments)]

/-- A call as a value. -/
def toJson (c : Call) : Json :=
  Json.object c.fields

/-- Reads a call; without arguments they are an empty object. -/
def decode : Json.Decoder Call :=
  Json.Record.decoder "ToolCall" 3 <|
    Call.mk <$> .required "id" .string <*> .required "name" .string
      <*> .withDefault "arguments" .any (.obj [])

/-- A call in one line: name, arguments and id. -/
def render (c : Call) : String :=
  c.name ++ "(" ++ c.arguments.render ++ ") #" ++ c.id

end Call

/-- What a tool gives back. -/
structure Observation where
  name : String
  output : String
  data : Option Json
deriving DecidableEq, Repr, Inhabited

namespace Observation

/-- The observation of a value: a text is its own output, any other value is kept as data beside
its text. -/
def ofValue (name : String) : Json → Observation
  | .str s => ⟨name, s, none⟩
  | v => ⟨name, v.render, some v⟩

/-- An observation as a value. -/
def toJson (o : Observation) : Json :=
  Json.object ([("name", .str o.name), ("output", .str o.output)] ++
    o.data.toList.map fun v => ("data", v))

/-- Reads an observation. -/
def decode : Json.Decoder Observation :=
  Json.Record.decoder "ToolResult" 3 <|
    Observation.mk <$> .required "name" .string <*> .required "output" .string
      <*> .nullable "data" .any

end Observation

end Dialogue
