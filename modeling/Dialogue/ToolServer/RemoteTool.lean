import Dialogue.Tool.Basic
import Dialogue.World

/-!
# Tools of servers

A tool of a server is called by sending the call, with the name and the arguments it has, to the
server that defined the tool.
-/

namespace Dialogue.ToolServer

variable {ω : Type}

/-- The tool that a server defined. -/
def remoteTool (net : Http.Network ω) (server : String) (d : Definition) : Tool (World ω) where
  signature := d.signature
  run c w :=
    let (r, w) := w.useClient net server fun client => client.call c.name c.arguments
    (r.bind (·.observe c.name), w)

end Dialogue.ToolServer
