import Dialogue.Transcript

/-!
# Steps of a run

A run goes from the model to the tools and back until the model answers without calls.
-/

namespace Dialogue

/-- What a run does next. -/
inductive Step where
  | askModel
  | runTools
  | finish
deriving DecidableEq, Repr, Inhabited

namespace Step

/-- The name of a step. -/
def name : Step → String
  | .askModel => "invoke_model"
  | .runTools => "invoke_tool"
  | .finish => "end"

/-- Reads a step. -/
def decode : Json.Decoder Step :=
  Json.choice ([.askModel, .runTools, .finish].map fun s => (s.name, .bare s))

/-- What follows when the model has spoken. -/
def afterModel (t : Transcript) : Step :=
  if t.pendingCalls.isEmpty then .finish else .runTools

end Step

/-- Why a run stopped. -/
inductive Ending where
  /-- The model answered without calls. -/
  | answered
  /-- The model was asked as often as is allowed and still wants tools. -/
  | limitReached (limit : Nat)
deriving DecidableEq, Repr

namespace Ending

/-- An ending as a value. -/
def toJson : Ending → Json
  | .answered => .str "completed"
  | .limitReached limit => Json.object [("iteration_limit", .ofNat limit)]

/-- Reads an ending. -/
def decode : Json.Decoder Ending :=
  Json.choice [("completed", .bare .answered),
    ("iteration_limit", .carrying fun v => (Json.Decoder.usize v).map .limitReached)]

end Ending

end Dialogue
