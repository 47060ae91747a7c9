import Dialogue.ToolServer.RemoteTool

/-!
# Discovery

The tools of all servers are found by asking all servers at once. Which server answers next is not
determined: it is given by a schedule, a list of positions among the servers. Discovery fails as
soon as one server fails; if all are complete, the tools stand in the order of the names of the
servers, and those of one server in the order of its pages.
-/

namespace Dialogue.ToolServer

open Http (Exchange Network)
open Client (Listing)

/-- Connects with a server and lists its tools. -/
def search (fuel : Nat) (server url : String) : Exchange (Listing × Client) := do
  match ← (Client.fresh server url).connect with
  | (.error e, c) => return (.failed e, c)
  | (.ok (), c) => c.list fuel

/-- A search among the tools of a server, as far as it has come. -/
structure Search where
  server : String
  exchange : Exchange (Listing × Client)

namespace Search

variable {ω : Type}

/-- The search has ended with this. -/
def ended? (s : Search) : Option (Listing × Client) :=
  match s.exchange with
  | .done r => some r
  | .send _ _ => none

/-- The failure with which the search has ended. -/
def failure? (s : Search) : Option Failure :=
  match s.ended? with
  | some (.failed e, _) => some e
  | _ => none

/-- Lets the network answer the request that the search waits for. -/
def advance (net : Network ω) (s : Search) (w : ω) : Search × ω :=
  match s.exchange with
  | .done _ => (s, w)
  | .send r resume => ({ s with exchange := resume (net r w).1 }, (net r w).2)

end Search

/-- What a server was found to have. -/
structure Found where
  server : String
  definitions : List Definition
  client : Client
deriving DecidableEq, Repr

/-- What comes of a discovery. -/
inductive Discovery where
  | found (servers : List Found)
  | failed (failure : Failure)
  /-- The schedule or the fuel ended too early. -/
  | unfinished
deriving DecidableEq, Repr

namespace Discovery

variable {ω : Type}

/-- The searches at the start. -/
def begin (fuel : Nat) (servers : Table String) : List Search :=
  servers.map fun (server, url) => ⟨server, search fuel server url⟩

/-- What a search that is complete has found. -/
def foundBy? (s : Search) : Option Found :=
  match s.ended? with
  | some (.complete definitions, c) => some ⟨s.server, definitions, c⟩
  | _ => none

/-- What has come of the searches, if that is settled: the first failure among them, or what they
found if all are complete. -/
def verdict? (searches : List Search) : Option Discovery :=
  match searches.findSome? Search.failure? with
  | some e => some (.failed e)
  | none => (searches.mapM foundBy?).map .found

/-- Advances the search at a position. -/
def advanceAt (net : Network ω) : (position : Nat) → List Search → ω → List Search × ω
  | _, [], w => ([], w)
  | 0, s :: rest, w =>
    let (s, w) := s.advance net w
    (s :: rest, w)
  | n + 1, s :: rest, w =>
    let (rest, w) := advanceAt net n rest w
    (s :: rest, w)

/-- Follows a schedule until the matter is settled. -/
def follow (net : Network ω) : (schedule : List Nat) → List Search → ω → Discovery × ω
  | schedule, searches, w =>
    match verdict? searches, schedule with
    | some v, _ => (v, w)
    | none, [] => (.unfinished, w)
    | none, i :: schedule =>
      let (searches, w) := advanceAt net i searches w
      follow net schedule searches w

/-- The schedule that asks one server after another; `fuel` pages of each. -/
def oneByOne (fuel count : Nat) : List Nat :=
  (List.range count).flatMap fun i => List.replicate (fuel + 2) i

/-- Finds the tools of all servers. -/
def run (net : Network ω) (schedule : List Nat) (fuel : Nat) (servers : Table String) (w : ω) :
    Discovery × ω :=
  follow net schedule (begin fuel servers) w

/-- The tools of servers, each bound to the server that defined it. -/
def tools (net : Network ω) (servers : List Found) : List (Tool (World ω)) :=
  servers.flatMap fun f => f.definitions.map (remoteTool net f.server)

/-- The world in which the clients of servers are at hand. -/
def withClients (servers : List Found) (w : World ω) : World ω :=
  servers.foldl (fun w f => w.withClient f.server f.client) w

end Discovery

end Dialogue.ToolServer
