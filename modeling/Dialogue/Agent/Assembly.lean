import Dialogue.Agent.Basic
import Dialogue.Settings.Basic
import Dialogue.Tool.Arithmetic

/-!
# Assembly

An agent is put together from settings, a backend and the tools of servers. The arithmetic tools
come first, so a tool of a server cannot take the place of one of them.
-/

namespace Dialogue

/-- What the caller decides beside the settings. -/
structure Overrides where
  /-- Leave the tool servers alone. -/
  localToolsOnly : Bool
  /-- A limit in place of that of the settings; within it, none is no limit. -/
  limit : Option (Option Nat)
deriving DecidableEq, Repr

namespace Agent

variable {ω : Type}

/-- Puts an agent together. -/
def assemble (settings : Settings) (backend : Backend ω) (remote : List (Tool ω))
    (overrides : Overrides) : Except Failure (Agent ω) := do
  let toolbox ← Arithmetic.toolbox.extendAll remote
  .ok {
    backend, toolbox
    instructions := settings.instructions.getD defaultInstructions
    sampling := .unset
    patience := settings.patience
    limit := overrides.limit.getD settings.limit }

end Agent

end Dialogue
