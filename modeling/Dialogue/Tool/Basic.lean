import Dialogue.Failure
import Dialogue.Tool.Signature

/-!
# Tools

A tool is a signature and what running it does. Running may change the world `ω`: a tool on a server
sends requests, a tool that is a function changes nothing.
-/

namespace Dialogue

/-- A tool whose runs act on a world of type `ω`. -/
structure Tool (ω : Type) where
  signature : Signature
  run : Call → ω → Except Failure Observation × ω

namespace Tool

variable {ω : Type}

/-- The name under which a tool is found. -/
def name (t : Tool ω) : String :=
  t.signature.name

/-- A tool that is a function of the argument object. What is not an object counts as an empty one.
The function fails with a text. -/
def ofFunction (s : Signature) (f : Members → Except String Json) : Tool ω where
  signature := s
  run c w :=
    match f (c.arguments.members?.getD []) with
    | .ok v => (.ok (Observation.ofValue s.name v), w)
    | .error reason => (.error (.toolFailed (s.name ++ ": " ++ reason)), w)

/-- The first required argument that a call lacks. -/
def missing? (t : Tool ω) (arguments : Members) : Option String :=
  t.signature.requiredArguments.find? fun n => (Table.lookup n arguments).isNone

/-- Checks a call before the tool runs: its arguments are an object that has every required one. -/
def check (t : Tool ω) (c : Call) : Except Failure Unit :=
  match c.arguments.members? with
  | none => .error (.badArguments ("Arguments for '" ++ c.name ++ "' must be a JSON object"))
  | some arguments =>
    match t.missing? arguments with
    | some n => .error (.badArguments ("Missing required parameter: " ++ n))
    | none => .ok ()

end Tool

end Dialogue
