import Dialogue.Azure.Credential
import Dialogue.ToolServer.Client

/-!
# The world of an agent

What an agent can reach outside itself, and what it keeps between its steps: the clients of its tool
servers and the tokens it holds. An agent may crash; what it does in a world in which it has crashed
does not count, and a program ends there.
-/

namespace Dialogue

/-- What can be reached outside, with a world of type `ω`. -/
structure Outside (ω : Type) where
  network : Http.Network ω
  /-- The command line tool for tokens. -/
  az : Azure.Command ω
  /-- The time at a state of the world. -/
  clock : ω → Time.Instant
  /-- The local time of the place. -/
  zone : Time.Zone

/-- The world outside, and what an agent keeps. -/
structure World (ω : Type) where
  outside : ω
  /-- The clients of tool servers by the names of the servers. -/
  clients : String → ToolServer.Client
  tokens : Azure.TokenStore
  /-- Whether the agent has crashed. -/
  crashed : Bool

namespace World

variable {ω α : Type}

/-- The world before an agent has done anything. -/
def initial (w : ω) : World ω :=
  ⟨w, fun name => .fresh name "", [], false⟩

/-- Runs an exchange. -/
def exchange (net : Http.Network ω) (e : Http.Exchange α) (w : World ω) : α × World ω :=
  let (a, outside) := e.run net w.outside
  (a, { w with outside })

/-- The client of a server in place of the one it had. -/
def withClient (w : World ω) (server : String) (c : ToolServer.Client) : World ω :=
  { w with clients := fun name => if name = server then c else w.clients name }

/-- Runs an exchange of the client of a server. -/
def useClient (net : Http.Network ω) (server : String)
    (f : ToolServer.Client → Http.Exchange (α × ToolServer.Client)) (w : World ω) : α × World ω :=
  let ((a, c), w) := w.exchange net (f (w.clients server))
  (a, w.withClient server c)

end World

end Dialogue
