import Dialogue.Agent.Assembly
import Dialogue.Azure.Backend
import Dialogue.ToolServer.Discovery

/-!
# Startup

An agent is built from settings: its backend is the deployed model, and its tools are the arithmetic
ones and those of the tool servers, which are asked for them unless the caller leaves them alone.
-/

namespace Dialogue.Startup

variable {ω : Type}

/-- What comes of building an agent. -/
inductive Built (ω : Type) where
  | ready (agent : Agent (World ω))
  | failed (failure : Failure)
  /-- The fuel for listing tools ran out. -/
  | unfinished

/-- The backend that settings describe. -/
def backendOf (outside : Outside ω) (settings : Settings) : Backend (World ω) :=
  Azure.backend outside
    ⟨settings.service.endpoint, settings.service.deployment, settings.service.apiVersion⟩
    (.ofService settings.service)

/-- Puts an agent together with the tools of servers. -/
def assemble (outside : Outside ω) (settings : Settings) (overrides : Overrides)
    (remote : List (Tool (World ω))) : Built ω :=
  match Agent.assemble settings (backendOf outside settings) remote overrides with
  | .ok agent => .ready agent
  | .error e => .failed e

/-- Builds an agent. `schedule` says in which order the tool servers answer, and `fuel` bounds the
pages of each. -/
def build (outside : Outside ω) (schedule : List Nat) (fuel : Nat) (settings : Settings)
    (overrides : Overrides) (w : World ω) : Built ω × World ω :=
  if overrides.localToolsOnly then (assemble outside settings overrides [], w)
  else
    let (discovery, o) :=
      ToolServer.Discovery.run outside.network schedule fuel settings.toolServers w.outside
    let w := { w with outside := o }
    match discovery with
    | .found servers =>
      (assemble outside settings overrides (ToolServer.Discovery.tools outside.network servers),
        ToolServer.Discovery.withClients servers w)
    | .failed e => (.failed e, w)
    | .unfinished => (.unfinished, w)

end Dialogue.Startup
