import Dialogue.Text.Quoted
import Dialogue.Tool.Basic

/-!
# Toolboxes

A toolbox holds tools under their names, each name once, in ascending order of the names. A tool
whose name is taken is refused and the toolbox stays as it was. Adding several tools stops at the
first one that is refused; those before it stay.
-/

namespace Dialogue

/-- Tools in ascending order of their names. -/
structure Toolbox (ω : Type) where
  tools : List (Tool ω)

namespace Toolbox

variable {ω : Type}

/-- A toolbox without tools. -/
def empty : Toolbox ω :=
  ⟨[]⟩

/-- The names of the tools. -/
def names (b : Toolbox ω) : List String :=
  b.tools.map Tool.name

/-- The signatures of the tools, in the order of their names. -/
def signatures (b : Toolbox ω) : List Signature :=
  b.tools.map (·.signature)

/-- The number of tools. -/
def size (b : Toolbox ω) : Nat :=
  b.tools.length

/-- The tool of a name. -/
def get? (b : Toolbox ω) (name : String) : Option (Tool ω) :=
  b.tools.find? (·.name == name)

/-- Puts a tool at its place among tools with other names. -/
def insertTool (t : Tool ω) : List (Tool ω) → List (Tool ω)
  | [] => [t]
  | u :: rest => if t.name < u.name then t :: u :: rest else u :: insertTool t rest

/-- Adds a tool whose name is free. -/
def register (b : Toolbox ω) (t : Tool ω) : Except Failure (Toolbox ω) :=
  if t.name ∈ b.names then .error (.duplicateTool t.name)
  else .ok ⟨insertTool t b.tools⟩

/-- Adds tools one after another up to the first whose name is taken: the toolbox then, and the
failure if there was one. -/
def extend (b : Toolbox ω) : List (Tool ω) → Toolbox ω × Option Failure
  | [] => (b, none)
  | t :: ts =>
    match b.register t with
    | .ok b' => b'.extend ts
    | .error e => (b, some e)

/-- Adds all tools, or fails. -/
def extendAll (b : Toolbox ω) (ts : List (Tool ω)) : Except Failure (Toolbox ω) :=
  match b.extend ts with
  | (b', none) => .ok b'
  | (_, some e) => .error e

/-- Finds the tool of a call, checks the call and runs the tool. -/
def execute (b : Toolbox ω) (c : Call) (w : ω) : Except Failure Observation × ω :=
  match b.get? c.name with
  | none => (.error (.toolNotFound c.name), w)
  | some t =>
    match t.check c with
    | .error e => (.error e, w)
    | .ok () => t.run c w

/-- A toolbox in a diagnostic: the names of its tools. -/
def render (b : Toolbox ω) : String :=
  "ToolRegistry \x7b tools: " ++ Text.quotedList b.names ++ " \x7d"

end Toolbox

end Dialogue
