import Dialogue.Tool.Call

/-!
# Signatures of tools

A signature tells the model how a tool is called: by a list of parameters, or by a schema for the
argument object that takes precedence over the list. What is advertised is also what is checked: the
required arguments are read off the schema that the model is shown.
-/

namespace Dialogue

/-- One named argument of a tool. -/
structure Parameter where
  name : String
  kind : String
  description : String
  required : Bool
deriving DecidableEq, Repr

namespace Parameter

/-- A parameter as a value. -/
def toJson (p : Parameter) : Json :=
  Json.object [("name", .str p.name), ("type", .str p.kind), ("description", .str p.description),
    ("required", .bool p.required)]

/-- Reads a parameter. -/
def decode : Json.Decoder Parameter :=
  Json.Record.decoder "ParameterSchema" 4 <|
    Parameter.mk <$> .required "name" .string <*> .required "type" .string
      <*> .required "description" .string <*> .withDefault "required" .boolean false

end Parameter

/-- How a tool is called. -/
structure Signature where
  name : String
  description : String
  parameters : List Parameter
  /-- A schema for the argument object, in place of the parameters. -/
  schema : Option Json
deriving DecidableEq, Repr

namespace Signature

/-- A signature as a value. -/
def toJson (s : Signature) : Json :=
  Json.object ([("name", .str s.name), ("description", .str s.description),
    ("parameters", .arr (s.parameters.map Parameter.toJson))] ++
    s.schema.toList.map fun v => ("input_schema", v))

/-- Reads a signature. -/
def decode : Json.Decoder Signature :=
  Json.Record.decoder "ToolSchema" 4 <|
    Signature.mk <$> .required "name" .string <*> .required "description" .string
      <*> .withDefault "parameters" (.list Parameter.decode) [] <*> .optional "input_schema" .any

/-- The schema of the argument object that is shown to the model. -/
def argumentSchema (s : Signature) : Json :=
  match s.schema with
  | some schema => schema
  | none =>
    let properties := s.parameters.map fun p =>
      (p.name, Json.object [("type", .str p.kind), ("description", .str p.description)])
    let required := (s.parameters.filter (·.required)).map fun p => Json.str p.name
    Json.object [("type", .str "object"), ("properties", Json.object properties),
      ("required", .arr required)]

/-- The names a schema requires: the strings of its `required` list, if it has one. -/
def requiredOf (schema : Json) : List String :=
  ((schema.get? "required").bind Json.items?).getD [] |>.filterMap Json.text?

/-- The names of the arguments that a call must have. -/
def requiredArguments (s : Signature) : List String :=
  requiredOf s.argumentSchema

end Signature

end Dialogue
