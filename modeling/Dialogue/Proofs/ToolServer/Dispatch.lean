import Dialogue.Proofs.Tool.Calls
import Dialogue.Proofs.Tool.Refusal
import Dialogue.Proofs.ToolServer.Discovery

/-!
# Calls of tools of servers

A tool of a server is called through the client of that server. If the client has an open session,
the call is one message to the address of the session, whatever comes of it, and the session stays
open. Clients that list tools have open sessions, and no call closes one, so this holds of every
call of a run.

Main statements: `dispatches_remoteTool` (what a call sends), `Discovery.speaksWith_of_run` and
`speaksWith_runCalls` (which sessions are open).
-/

namespace Dialogue

open Http (Exchange Network Sent)

namespace ToolServer

namespace Client

variable {c c' c'' : Client} {name url : String} {act : Act} {acts : List Act} {call : Call}
  {log : List Sent}

/-! ## Open sessions -/

/-- A client speaks with a server at an address: a session was opened there, and since then the
client has done no more than list tools and call them. -/
def SpeaksWith (c : Client) (name url : String) : Prop :=
  ∃ opening c₀ acts, Opens name url opening (.ok c₀) ∧ c₀.ConductsAll acts c

theorem ConductsAll.concat (h : c.ConductsAll acts c') (hact : c'.Conducts act c'') :
    c.ConductsAll (acts ++ [act]) c'' := by
  induction h with
  | nil => exact .cons hact .nil
  | cons hfirst _ ih => exact .cons hfirst (ih hact)

theorem SpeaksWith.conducts (h : c.SpeaksWith name url) (hact : c.Conducts act c') :
    c'.SpeaksWith name url := by
  obtain ⟨opening, c₀, acts, hopens, hacts⟩ := h
  exact ⟨opening, c₀, acts ++ [act], hopens, hacts.concat hact⟩

theorem Lists.url_eq {fuel : Nat} {cursor : Option String} {l : Listing}
    (h : c.Lists fuel cursor log l c') : c'.url = c.url := by
  induction h with
  | unfinished => rfl
  | unserved _ => rw [url_hear, url_next]
  | misread _ _ => rw [url_hear, url_next]
  | last _ _ _ => rw [url_hear, url_next]
  | more _ _ _ _ ih => rw [ih, url_hear, url_next]

theorem Conducts.url_eq (h : c.Conducts act c') : c'.url = c.url := by
  cases h with
  | list hlists => exact hlists.url_eq
  | unserved _ => rw [url_hear, url_next]
  | misread _ _ => rw [url_hear, url_next]
  | called _ _ => rw [url_hear, url_next]

/-- Operations keep to the address, and a client that can send can still send after them. -/
theorem ConductsAll.keeps (h : c.ConductsAll acts c') (hsend : c.CanSend) :
    c'.CanSend ∧ c'.url = c.url := by
  induction h with
  | nil => exact ⟨hsend, rfl⟩
  | cons hact _ ih =>
    obtain ⟨hsend', hurl⟩ := ih (hact.canSend hsend)
    exact ⟨hsend', hurl.trans hact.url_eq⟩

theorem SpeaksWith.keeps (h : c.SpeaksWith name url) : c.CanSend ∧ c.url = url := by
  obtain ⟨opening, c₀, acts, hopens, hacts⟩ := h
  obtain ⟨_, -, hopen⟩ := hopens.filterMap_idOf?
  obtain ⟨hsend, hurl⟩ := hacts.keeps (hopen c₀ rfl).2.2
  exact ⟨hsend, hurl.trans (hopens.addressOf?_eq.2 c₀ rfl)⟩

/-! ## Calls -/

/-- A message calls a tool of the server at an address: it is posted there, has this id, and carries
the name and the arguments of the call as they are. -/
structure CallsTool (url : String) (id : Nat) (call : Call) (s : Sent) : Prop where
  method : s.request.method = .post
  address : addressOf? url = some s.request.url
  body : s.request.body = some (Rpc.request (some id) "tools/call"
    (Json.object [("name", .str call.name), ("arguments", call.arguments)]))

theorem Posts.method_eq {message : Json} {q : Http.Request} (h : c.Posts message q) :
    q.method = .post := by
  obtain ⟨url, -, -, -, -, rfl⟩ := Http.makeRequest_eq_ok_iff.mp h
  rfl

theorem Posts.callsTool {q : Http.Request} {answer : Except Http.Trouble Http.Response}
    (h : c.Posts (Rpc.request (some c.nextId) "tools/call"
      (Json.object [("name", .str call.name), ("arguments", call.arguments)])) q) :
    CallsTool c.url c.nextId call ⟨q, answer⟩ :=
  ⟨h.method_eq, h.addressOf?_eq, h.body_eq⟩

theorem Asks.callsTool {s : Sent} {x : Except Failure Json}
    (h : c.Asks "tools/call"
      (Json.object [("name", .str call.name), ("arguments", call.arguments)]) s x) :
    CallsTool c.url c.nextId call s := by
  cases h with
  | served hq _ => exact hq.callsTool
  | failed hq _ => exact hq.callsTool

/-- A call is one message, whatever comes of it. -/
theorem Conducts.exists_sent {y : Yield}
    (h : c.Conducts ⟨.call call.name call.arguments, log, y⟩ c') :
    ∃ s, log = [s] ∧ CallsTool c.url c.nextId call s := by
  cases h with
  | unserved hasks => exact ⟨_, rfl, hasks.callsTool⟩
  | misread hasks _ => exact ⟨_, rfl, hasks.callsTool⟩
  | called hasks _ => exact ⟨_, rfl, hasks.callsTool⟩

/-- A call of a client that can send, against a network. -/
theorem conducts_call {ω : Type} (net : Network ω) (w : ω) (call : Call) (hsend : c.CanSend) :
    c.Conducts ⟨.call call.name call.arguments, (c.call call.name call.arguments).sent net w,
      .called ((c.call call.name call.arguments).run net w).1.1⟩
      ((c.call call.name call.arguments).run net w).1.2 := by
  refine conducts_of_passes (Exchange.passes_bind_iff.mpr ⟨_, [], _,
    (List.append_nil _).symm, Exchange.passes_run net _ w, .done _⟩) hsend

end Client

open Client (CallsTool)

variable {ω : Type} {w : World ω} {server url : String}

/-- What a call of a tool of a server leaves. -/
theorem world_remoteTool (net : Network ω) (server : String) (d : Definition) (call : Call)
    (w : World ω) :
    ((remoteTool net server d).run call w).2 =
      { w with
        outside := (((w.clients server).call call.name call.arguments).run net w.outside).2
      }.withClient server
        (((w.clients server).call call.name call.arguments).run net w.outside).1.2 :=
  rfl

/-- A call is dispatched to a server at an address: one message carries it there, and in the world
afterwards no more has happened than that it was sent and that the client of the server, whose
session stays open, has heard the answer. -/
def Dispatches (net : Network ω) (server url : String) (call : Call)
    (w w' : World (ω × List Sent)) : Prop :=
  ∃ s client, CallsTool url (w.clients server).nextId call s ∧ client.SpeaksWith server url ∧
    w' = { w with
      outside := ((net s.request w.outside.1).2, w.outside.2 ++ [s]) }.withClient server client

/-- **A call of a tool of a server** is dispatched to that server. -/
theorem dispatches_remoteTool (net : Network ω) (d : Definition) (call : Call)
    {w : World (ω × List Sent)} (h : (w.clients server).SpeaksWith server url) :
    Dispatches net server url call w ((remoteTool net.recorded server d).run call w).2 := by
  obtain ⟨hsend, hurl⟩ := h.keeps
  have hconducts := Client.conducts_call net w.outside.1 call hsend
  obtain ⟨s, hsent, hcalls⟩ := hconducts.exists_sent
  rw [hurl] at hcalls
  refine ⟨s, _, hcalls, h.conducts hconducts, ?_⟩
  rw [world_remoteTool, Exchange.run_recorded, hsent, Exchange.run_of_sent_singleton hsent]

/-! ## Sessions over calls -/

/-- Running a tool closes no session. -/
def KeepsSessions (t : Tool (World ω)) : Prop :=
  ∀ (call : Call) (w : World ω) (server url : String), (w.clients server).SpeaksWith server url →
    ((t.run call w).2.clients server).SpeaksWith server url

theorem clients_withClient_of_ne {other : String} (w : World ω) (c : Client) (h : other ≠ server) :
    (w.withClient server c).clients other = w.clients other :=
  if_neg h

theorem clients_withClient_self (w : World ω) (c : Client) :
    (w.withClient server c).clients server = c :=
  if_pos rfl

theorem keepsSessions_remoteTool (net : Network ω) (host : String) (d : Definition) :
    KeepsSessions (remoteTool net host d) := by
  intro call w server url h
  rw [world_remoteTool]
  by_cases hhost : server = host
  · subst hhost
    rw [clients_withClient_self]
    exact h.conducts (Client.conducts_call net w.outside call h.keeps.1)
  · rw [clients_withClient_of_ne _ _ hhost]
    exact h

/-- A tool that is a function leaves the world as it is. -/
theorem keepsSessions_of_isFunction {t : Tool (World ω)} (ht : t.IsFunction) :
    KeepsSessions t := by
  obtain ⟨s, f⟩ := ht
  intro call w server url h
  simp only [Tool.ofFunction]
  split <;> exact h

variable {b : Toolbox (World ω)}

/-- **A step.** A call of a tool closes no session. -/
theorem speaksWith_execute (hb : ∀ t ∈ b.tools, KeepsSessions t) (call : Call)
    (h : (w.clients server).SpeaksWith server url) :
    ((b.execute call w).2.clients server).SpeaksWith server url := by
  rcases b.refuses_or_runs call with ⟨e, hrefuses⟩ | ⟨t, ht, -, hrun⟩
  · rw [hrefuses.execute w]
    exact h
  · rw [hrun w]
    exact hb t (List.mem_of_find?_eq_some ht) call w server url h

/-- **A run.** No calls close a session, whether they come to their end or break off. -/
theorem speaksWith_runCalls (hb : ∀ t ∈ b.tools, KeepsSessions t) (now : Time.Instant)
    (calls : List Call) (h : (w.clients server).SpeaksWith server url) :
    ((b.runCalls now calls w).2.clients server).SpeaksWith server url := by
  induction calls generalizing w with
  | nil => exact h
  | cons call calls ih =>
    have hstep := speaksWith_execute hb call h
    rcases hexecute : b.execute call w with ⟨e | o, w'⟩
    · rw [Toolbox.runCalls_cons_error calls hexecute]
      rw [hexecute] at hstep
      exact hstep
    · rw [Toolbox.runCalls_cons_ok calls hexecute]
      rw [hexecute] at hstep
      exact ih hstep

/-! ## Sessions that discovery opens -/

theorem Searches.speaksWith {fuel : Nat} {log : List Sent} {definitions : List Definition}
    {c : Client} (h : Searches fuel server url log (.complete definitions) c) :
    c.SpeaksWith server url := by
  cases h with
  | listed hopens hlists =>
    cases fuel with
    | zero => cases hlists
    | succ pages => exact ⟨_, _, [_], hopens, .cons (.list hlists) .nil⟩

namespace Search

/-- What is left of a search, with what was sent so far before it, makes up the search. -/
structure Continues (fuel : Nat) (entry : String × String) (s : Search) : Prop where
  server : s.server = entry.1
  passes : ∃ before, ∀ log x, s.exchange.Passes log x →
    (search fuel entry.1 entry.2).Passes (before ++ log) x

theorem Continues.advance {fuel : Nat} {entry : String × String} {s : Search}
    (h : s.Continues fuel entry) (net : Network ω) (w : ω) :
    (s.advance net w).1.Continues fuel entry := by
  obtain ⟨server, exchange⟩ := s
  cases exchange with
  | done x => exact h
  | send r resume =>
    obtain ⟨before, hpasses⟩ := h.passes
    refine ⟨h.server, before ++ [⟨r, (net r w).1⟩], fun log x hlog => ?_⟩
    rw [List.append_assoc]
    exact hpasses _ x (.send hlog)

end Search

namespace Discovery

variable {fuel : Nat} {servers : Table String} {searches : List Search}

/-- Every search goes on from where it has come to. -/
def Underway (fuel : Nat) (servers : Table String) (searches : List Search) : Prop :=
  List.Forall₂ (fun entry s => s.Continues fuel entry) servers searches

theorem underway_begin (fuel : Nat) (servers : Table String) :
    Underway fuel servers (begin fuel servers) := by
  refine List.forall₂_map_right_iff.mpr (List.forall₂_same.mpr fun entry _ => ?_)
  exact ⟨rfl, [], fun _ _ h => h⟩

theorem Underway.advanceAt (h : Underway fuel servers searches) (net : Network ω) (i : Nat)
    (w : ω) : Underway fuel servers (advanceAt net i searches w).1 := by
  -- The induction is on the searches that stand before the one that goes on.
  induction h generalizing i with
  | nil =>
    rw [Discovery.advanceAt]
    exact .nil
  | cons hs hrest ih =>
    cases i with
    | zero => exact .cons (hs.advance net w) hrest
    | succ i => exact .cons hs (ih i)

/-- What is found of a server comes of a search among its tools. -/
structure FoundBySearch (fuel : Nat) (entry : String × String) (f : Found) : Prop where
  server : f.server = entry.1
  searches : ∃ log, Searches fuel entry.1 entry.2 log (.complete f.definitions) f.client

theorem Underway.foundBySearch (h : Underway fuel servers searches) {found : List Found}
    (hgives : List.Forall₂ Gives searches found) :
    List.Forall₂ (FoundBySearch fuel) servers found := by
  induction h generalizing found with
  | nil =>
    cases hgives
    exact .nil
  | cons hcontinues _ ih =>
    obtain _ | ⟨⟨hserver, hdone⟩, hgives⟩ := hgives
    obtain ⟨before, hpasses⟩ := hcontinues.passes
    rw [hdone] at hpasses
    exact .cons ⟨hserver.trans hcontinues.server, _, searches_of_passes (hpasses [] _ (.done _))⟩
      (ih hgives)

/-- **What discovery finds** comes of searches, whatever the network and the schedule. -/
theorem foundBySearch_of_run {net : Network ω} {schedule : List Nat} {w : ω} {found : List Found}
    (h : (run net schedule fuel servers w).1 = .found found) :
    List.Forall₂ (FoundBySearch fuel) servers found := by
  unfold run at h
  obtain ⟨left, searches, hunderway, hrun⟩ :=
    exists_follow (P := fun _ searches _ => Underway fuel servers searches)
      (fun i _ _ w hsearches => hsearches.advanceAt net i w) (underway_begin fuel servers)
  rw [h] at hrun
  rcases verdict?_cases searches with ⟨found', hverdict, hgives⟩ | ⟨e, hverdict, -⟩ | ⟨hverdict, -⟩
  · obtain rfl : found' = found := by simpa [hverdict] using hrun
    exact hunderway.foundBySearch hgives
  · simp [hverdict] at hrun
  · simp [hverdict] at hrun

/-- **Sessions after discovery.** Each server that is found has a client that speaks with it. -/
theorem speaksWith_of_run {net : Network ω} {schedule : List Nat} {w : ω} {found : List Found}
    (h : (run net schedule fuel servers w).1 = .found found) :
    ∀ f ∈ found, ∃ url, (f.server, url) ∈ servers ∧ f.client.SpeaksWith f.server url := by
  intro f hf
  obtain ⟨⟨server, url⟩, hentry, hfound⟩ :=
    exists_of_mem_left (List.Forall₂.flip (foundBySearch_of_run h)) hf
  obtain ⟨log, hsearches⟩ := hfound.searches
  rw [hfound.server]
  exact ⟨url, hentry, hsearches.speaksWith⟩

theorem nodup_server_of_run {net : Network ω} {schedule : List Nat} {w : ω} {found : List Found}
    (hservers : servers.Ascending) (h : (run net schedule fuel servers w).1 = .found found) :
    (found.map (·.server)).Nodup := by
  rw [map_server_eq ((foundBySearch_of_run h).imp fun _ _ hfound => hfound.server)]
  exact hservers.nodup

end Discovery

end ToolServer

end Dialogue
