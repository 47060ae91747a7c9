import Dialogue.Failure
import Dialogue.Tool.Signature

/-!
# What tool servers say

The contents of the answers of a tool server: the definitions of its tools, which come in pages, and
the result of a call. The text of a result joins the texts of all its parts that have one.
-/

namespace Dialogue.ToolServer

/-- A tool as its server defines it. -/
structure Definition where
  name : String
  description : Option String
  inputSchema : Json
deriving DecidableEq, Repr

namespace Definition

/-- The schema of a tool that is defined without one. -/
def anyObject : Json :=
  Json.object [("type", .str "object")]

/-- A definition as a value. -/
def toJson (d : Definition) : Json :=
  Json.object [("name", .str d.name), ("description", .orNull .str d.description),
    ("inputSchema", d.inputSchema)]

/-- Reads a definition. -/
def decode : Json.Decoder Definition :=
  Json.Record.decoder "McpToolDefinition" 3 <|
    Definition.mk <$> .required "name" .string <*> .optional "description" .string
      <*> .withDefault "inputSchema" .any anyObject

/-- How a defined tool is called. -/
def signature (d : Definition) : Signature where
  name := d.name
  description := d.description.getD ""
  parameters := []
  schema := some d.inputSchema

end Definition

/-- A page of definitions. -/
structure Page where
  definitions : List Definition
  /-- Where the next page begins. -/
  cursor : Option String
deriving DecidableEq, Repr

namespace Page

/-- Reads a page. -/
def decode : Json.Decoder Page :=
  Json.Record.decoder "ListToolsResult" 2 <|
    Page.mk <$> .withDefault "tools" (.list Definition.decode) []
      <*> .optional "nextCursor" .string

/-- Where the next page begins, if there is one; a cursor without characters is none. -/
def next? (p : Page) : Option String :=
  p.cursor.filter (· ≠ "")

end Page

/-- A part of the result of a call. -/
structure Part where
  kind : String
  text : Option String
deriving DecidableEq, Repr

/-- The result of a call. -/
structure CallResult where
  parts : List Part
  structured : Option Json
  isError : Bool
deriving DecidableEq, Repr

namespace CallResult

/-- Reads a part. -/
def decodePart : Json.Decoder Part :=
  Json.Record.decoder "ContentPart" 2 <|
    Part.mk <$> .required "type" .string <*> .optional "text" .string

/-- Reads a result. -/
def decode : Json.Decoder CallResult :=
  Json.Record.decoder "CallToolResult" 3 <|
    CallResult.mk <$> .withDefault "content" (.list decodePart) []
      <*> .optional "structuredContent" .any <*> .withDefault "isError" .boolean false

/-- The texts of the parts, one below the other. -/
def text (r : CallResult) : String :=
  "\n".intercalate (r.parts.filterMap (·.text))

/-- The observation of a result for the call of a tool. -/
def observe (r : CallResult) (tool : String) : Except Failure Observation :=
  if r.isError then .error (.toolFailed (tool ++ ": " ++ r.text))
  else .ok ⟨tool, r.text, r.structured⟩

end CallResult

end Dialogue.ToolServer
