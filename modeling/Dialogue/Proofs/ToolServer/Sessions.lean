import Dialogue.Proofs.ToolServer.Requests

/-!
# Sessions with a tool server

A session of a client is opened, and then the client lists tools and calls them, one operation after
another, whatever the server answers. `Opens` says how a session is opened, `Client.Lists` how the
pages of a listing follow one another, and `Client.Conducts` what comes of an operation; each of
them names what was sent and what was answered.

Main statement: `session_of_network`. The ids of the requests come from `Numbered`, which holds of
each operation and of operations one after another.
-/

namespace Dialogue.ToolServer

open Http (Exchange Sent Network)
open Client (Listing)

/-! ## Operations -/

/-- What a client is used for. -/
inductive Operation where
  /-- Lists the tools; one page and so many more at most. -/
  | list (pages : Nat)
  | call (tool : String) (arguments : Json)

/-- What comes of an operation. -/
inductive Yield where
  | listed (listing : Listing)
  | called (result : Except Failure CallResult)
deriving DecidableEq

/-- The failure of an operation. -/
def Yield.failure? : Yield → Option Failure
  | .listed (.failed e) => some e
  | .called (.error e) => some e
  | _ => none

/-- What an operation can read in a result. -/
def Operation.Reads : Operation → Json → Prop
  | .list _, v => ∃ p, Page.decode v = .ok p
  | .call _ _, v => ∃ r, CallResult.decode v = .ok r

/-- An operation that was performed: what was sent for it, and what came of it. -/
structure Act where
  operation : Operation
  sent : List Sent
  yield : Yield

namespace Client

/-- Performs an operation. -/
def perform (c : Client) : Operation → Exchange (Yield × Client)
  | .list pages => do
    let (l, c) ← c.list (pages + 1)
    return (.listed l, c)
  | .call tool arguments => do
    let (r, c) ← c.call tool arguments
    return (.called r, c)

/-- Performs operations one after another. -/
def performAll : Client → List Operation → Exchange (List Yield × Client)
  | c, [] => return ([], c)
  | c, o :: os => do
    let (y, c) ← c.perform o
    let (ys, c) ← performAll c os
    return (y :: ys, c)

end Client

/-- A session with a server: what its operations give, or the failure for which it is not opened. -/
def session (name url : String) (operations : List Operation) :
    Exchange (Except Failure (List Yield)) := do
  match ← (Client.fresh name url).connect with
  | (.error e, _) => return .error e
  | (.ok (), c) =>
    let (ys, _) ← c.performAll operations
    return .ok ys

/-! ## What comes of them -/

/-- How a session is opened. The client says what it is, with the id 1, and gives notice if the
server has an answer to that; and if the notice is heard, the session is open. -/
inductive Opens (name url : String) : List Sent → Except Failure Client → Prop where
  /-- Nothing can be sent to the address. -/
  | unsendable {detail : String} : ¬ (Client.fresh name url).CanSend →
      Opens name url [] (.error (.toolServer detail))
  | refused {hello : Sent} {detail : String} :
      (Client.fresh name url).Asks "initialize" Client.introduction hello
        (.error (.toolServer detail)) →
      Opens name url [hello] (.error (.toolServer detail))
  | unheard {hello note : Sent} {v : Json} {detail : String} :
      (Client.fresh name url).Asks "initialize" Client.introduction hello (.ok v) →
      ((Client.fresh name url).next.hear hello.answer).Posts
        (Rpc.request none "notifications/initialized" (.obj [])) note.request →
      (∀ r, ¬ Succeeds note.answer r) →
      Opens name url [hello, note] (.error (.toolServer detail))
  | opened {hello note : Sent} {v : Json} {r : Http.Response} :
      (Client.fresh name url).Asks "initialize" Client.introduction hello (.ok v) →
      ((Client.fresh name url).next.hear hello.answer).Posts
        (Rpc.request none "notifications/initialized" (.obj [])) note.request →
      Succeeds note.answer r →
      Opens name url [hello, note]
        (.ok (((Client.fresh name url).next.hear hello.answer).hear note.answer))

namespace Client

/-- How tools are listed from a page on: the pages follow one another by their cursors, up to the
last one, to one that is not served or cannot be read, or to the end of the fuel. -/
inductive Lists : Client → (fuel : Nat) → (cursor : Option String) → List Sent → Listing → Client →
    Prop where
  | unfinished {c : Client} {cursor : Option String} : Lists c 0 cursor [] .unfinished c
  | unserved {c : Client} {fuel : Nat} {cursor : Option String} {s : Sent} {detail : String} :
      c.Asks "tools/list" (pageParams cursor) s (.error (.toolServer detail)) →
      Lists c (fuel + 1) cursor [s] (.failed (.toolServer detail)) (c.next.hear s.answer)
  | misread {c : Client} {fuel : Nat} {cursor : Option String} {s : Sent} {v : Json}
      {detail : String} :
      c.Asks "tools/list" (pageParams cursor) s (.ok v) → (∀ p, Page.decode v ≠ .ok p) →
      Lists c (fuel + 1) cursor [s] (.failed (.toolServer detail)) (c.next.hear s.answer)
  | last {c : Client} {fuel : Nat} {cursor : Option String} {s : Sent} {v : Json} {p : Page} :
      c.Asks "tools/list" (pageParams cursor) s (.ok v) → Page.decode v = .ok p → p.next? = none →
      Lists c (fuel + 1) cursor [s] (.complete p.definitions) (c.next.hear s.answer)
  | more {c c' : Client} {fuel : Nat} {cursor : Option String} {s : Sent} {log : List Sent}
      {v : Json} {p : Page} {next : String} {l : Listing} :
      c.Asks "tools/list" (pageParams cursor) s (.ok v) → Page.decode v = .ok p →
      p.next? = some next → Lists (c.next.hear s.answer) fuel (some next) log l c' →
      Lists c (fuel + 1) cursor (s :: log) (l.prepend p.definitions) c'

/-- What comes of an operation of a client, and the client afterwards. -/
inductive Conducts (c : Client) : Act → Client → Prop where
  | list {pages : Nat} {log : List Sent} {l : Listing} {c' : Client} :
      c.Lists (pages + 1) none log l c' → Conducts c ⟨.list pages, log, .listed l⟩ c'
  | unserved {tool : String} {arguments : Json} {s : Sent} {detail : String} :
      c.Asks "tools/call" (Json.object [("name", .str tool), ("arguments", arguments)]) s
        (.error (.toolServer detail)) →
      Conducts c ⟨.call tool arguments, [s], .called (.error (.toolServer detail))⟩
        (c.next.hear s.answer)
  | misread {tool : String} {arguments : Json} {s : Sent} {v : Json} {detail : String} :
      c.Asks "tools/call" (Json.object [("name", .str tool), ("arguments", arguments)]) s (.ok v) →
      (∀ r, CallResult.decode v ≠ .ok r) →
      Conducts c ⟨.call tool arguments, [s], .called (.error (.toolServer detail))⟩
        (c.next.hear s.answer)
  | called {tool : String} {arguments : Json} {s : Sent} {v : Json} {r : CallResult} :
      c.Asks "tools/call" (Json.object [("name", .str tool), ("arguments", arguments)]) s (.ok v) →
      CallResult.decode v = .ok r →
      Conducts c ⟨.call tool arguments, [s], .called (.ok r)⟩ (c.next.hear s.answer)

/-- Operations one after another, each of the client that the one before it has left. -/
inductive ConductsAll : Client → List Act → Client → Prop where
  | nil {c : Client} : ConductsAll c [] c
  | cons {c c₁ c₂ : Client} {act : Act} {acts : List Act} : c.Conducts act c₁ →
      ConductsAll c₁ acts c₂ → ConductsAll c (act :: acts) c₂

variable {c c' : Client} {log : List Sent}

theorem notify_passes {method : String} {x : Except Failure Unit}
    (h : (c.notify method).Passes log (x, c')) (hsend : c.CanSend) :
    ∃ s, log = [s] ∧ c.Posts (Rpc.request none method (.obj [])) s.request ∧
      c' = c.hear s.answer ∧
      ((∃ r, Succeeds s.answer r ∧ x = .ok ()) ∨
        (∀ r, ¬ Succeeds s.answer r) ∧ ∃ detail, x = .error (.toolServer detail)) := by
  obtain ⟨l₁, l₂, ⟨y, c₁⟩, rfl, hpost, hrest⟩ := Exchange.passes_bind_iff.mp h
  obtain ⟨rfl, rfl, rfl⟩ := Exchange.passes_done_pair_iff.mp hrest
  rcases send_passes hpost with ⟨hcannot, -⟩ | ⟨q, answer, hq, rfl, rfl, hy⟩
  · exact absurd hsend hcannot
  · refine ⟨⟨q, answer⟩, rfl, hq, rfl, ?_⟩
    rcases hy with ⟨r, hr, rfl⟩ | ⟨hno, detail, rfl⟩
    · exact .inl ⟨r, hr, rfl⟩
    · exact .inr ⟨hno, detail, rfl⟩

theorem Asks.canSend {method : String} {params : Json} {s : Sent} {x : Except Failure Json}
    (h : c.Asks method params s x) : c.CanSend := by
  cases h with
  | served hq _ => exact hq.canSend
  | failed hq _ => exact hq.canSend

/-- A request that is not served gives a failure of the server. -/
theorem Asks.error_eq {method : String} {params : Json} {s : Sent} {e : Failure}
    (h : c.Asks method params s (.error e)) : ∃ detail, e = .toolServer detail := by
  cases h
  exact ⟨_, rfl⟩

end Client

theorem opens_of_passes {name url : String} {log : List Sent} {x : Except Failure Unit} {c : Client}
    (h : (Client.fresh name url).connect.Passes log (x, c)) :
    Opens name url log (x.map fun _ => c) := by
  obtain ⟨l₁, l₂, ⟨y, c₁⟩, rfl, hhello, hrest⟩ := Exchange.passes_bind_iff.mp h
  rcases Client.request_passes hhello with
    ⟨hcannot, rfl, rfl, detail, rfl⟩ | ⟨hello, rfl, hasks, rfl⟩
  · obtain ⟨rfl, rfl, rfl⟩ := Exchange.passes_done_pair_iff.mp hrest
    exact .unsendable hcannot
  · rcases y with e | v
    · obtain ⟨rfl, rfl, rfl⟩ := Exchange.passes_done_pair_iff.mp hrest
      obtain ⟨detail, rfl⟩ := hasks.error_eq
      exact .refused hasks
    · obtain ⟨note, rfl, hposts, rfl, hx⟩ :=
        Client.notify_passes hrest (hasks.canSend.next.hear hello.answer)
      rcases hx with ⟨r, hr, rfl⟩ | ⟨hno, detail, rfl⟩
      · exact .opened hasks hposts hr
      · exact .unheard hasks hposts hno

namespace Client

variable {c c' c'' : Client} {log log' : List Sent} {act : Act} {acts : List Act}

/-- A client that can send can still send after a listing. -/
theorem Lists.canSend {fuel : Nat} {cursor : Option String} {l : Listing}
    (h : c.Lists fuel cursor log l c') (hsend : c.CanSend) : c'.CanSend := by
  induction h with
  | unfinished => exact hsend
  | unserved _ => exact hsend.next.hear _
  | misread _ _ => exact hsend.next.hear _
  | last _ _ _ => exact hsend.next.hear _
  | more _ _ _ _ ih => exact ih (hsend.next.hear _)

theorem Conducts.canSend (h : c.Conducts act c') (hsend : c.CanSend) : c'.CanSend := by
  cases h with
  | list hlists => exact hlists.canSend hsend
  | unserved _ => exact hsend.next.hear _
  | misread _ _ => exact hsend.next.hear _
  | called _ _ => exact hsend.next.hear _

/-- The pages of a listing, whatever is answered. -/
theorem lists_of_passes {fuel : Nat} {cursor : Option String} {l : Listing}
    (h : (c.listFrom fuel cursor).Passes log (l, c')) (hsend : c.CanSend) :
    c.Lists fuel cursor log l c' := by
  -- The induction is on the fuel: each page takes one, and the client after it asks for the next.
  induction fuel generalizing c cursor log l with
  | zero =>
    obtain ⟨rfl, rfl, rfl⟩ := Exchange.passes_done_pair_iff.mp h
    exact .unfinished
  | succ fuel ih =>
    obtain ⟨l₁, l₂, ⟨x, c₁⟩, rfl, hpage, hrest⟩ := Exchange.passes_bind_iff.mp h
    obtain ⟨l₃, l₄, ⟨y, c₂⟩, rfl, hrequest, hread⟩ := Exchange.passes_bind_iff.mp hpage
    obtain ⟨rfl, rfl, rfl⟩ := Exchange.passes_done_pair_iff.mp hread
    rcases request_passes hrequest with ⟨hcannot, -⟩ | ⟨s, rfl, hasks, rfl⟩
    · exact absurd hsend hcannot
    · rcases y with e | v
      · obtain ⟨rfl, rfl, rfl⟩ := Exchange.passes_done_pair_iff.mp hrest
        obtain ⟨detail, rfl⟩ := hasks.error_eq
        exact .unserved hasks
      · simp only [Except.bind] at hrest
        rcases hp : Page.decode v with fault | p
        · rw [hp] at hrest
          obtain ⟨rfl, rfl, rfl⟩ := Exchange.passes_done_pair_iff.mp hrest
          refine .misread hasks fun p hp' => ?_
          cases hp.symm.trans hp'
        · rw [hp] at hrest
          simp only [Except.mapError] at hrest
          rcases hnext : p.next? with _ | next
          · rw [hnext] at hrest
            obtain ⟨rfl, rfl, rfl⟩ := Exchange.passes_done_pair_iff.mp hrest
            exact .last hasks hp hnext
          · rw [hnext] at hrest
            obtain ⟨l₅, l₆, ⟨l', c₃⟩, rfl, hmore, hlast⟩ := Exchange.passes_bind_iff.mp hrest
            obtain ⟨rfl, rfl, rfl⟩ := Exchange.passes_done_pair_iff.mp hlast
            have hlists := ih hmore (hsend.next.hear s.answer)
            simp only [List.append_nil]
            exact .more hasks hp hnext hlists

/-- An operation, whatever is answered. -/
theorem conducts_of_passes {o : Operation} {y : Yield}
    (h : (c.perform o).Passes log (y, c')) (hsend : c.CanSend) : c.Conducts ⟨o, log, y⟩ c' := by
  cases o with
  | list pages =>
    obtain ⟨l₁, l₂, ⟨l, c₁⟩, rfl, hlist, hrest⟩ := Exchange.passes_bind_iff.mp h
    obtain ⟨rfl, rfl, rfl⟩ := Exchange.passes_done_pair_iff.mp hrest
    rw [List.append_nil]
    exact .list (lists_of_passes hlist hsend)
  | call tool arguments =>
    obtain ⟨l₁, l₂, ⟨x, c₁⟩, rfl, hcall, hrest⟩ := Exchange.passes_bind_iff.mp h
    obtain ⟨rfl, rfl, rfl⟩ := Exchange.passes_done_pair_iff.mp hrest
    obtain ⟨l₃, l₄, ⟨z, c₂⟩, rfl, hrequest, hread⟩ := Exchange.passes_bind_iff.mp hcall
    obtain ⟨rfl, rfl, rfl⟩ := Exchange.passes_done_pair_iff.mp hread
    rcases request_passes hrequest with ⟨hcannot, -⟩ | ⟨s, rfl, hasks, rfl⟩
    · exact absurd hsend hcannot
    · rcases z with e | v
      · obtain ⟨detail, rfl⟩ := hasks.error_eq
        exact .unserved hasks
      · simp only [Except.bind]
        rcases hr : CallResult.decode v with fault | r
        · refine .misread hasks fun r hr' => ?_
          cases hr.symm.trans hr'
        · exact .called hasks hr

/-- Operations one after another, whatever is answered. -/
theorem conductsAll_of_passes {operations : List Operation} {ys : List Yield}
    (h : (c.performAll operations).Passes log (ys, c')) (hsend : c.CanSend) :
    ∃ acts, c.ConductsAll acts c' ∧ acts.map (·.operation) = operations ∧
      acts.map (·.yield) = ys ∧ acts.flatMap (·.sent) = log := by
  induction operations generalizing c log ys with
  | nil =>
    obtain ⟨rfl, rfl, rfl⟩ := Exchange.passes_done_pair_iff.mp h
    exact ⟨[], .nil, rfl, rfl, rfl⟩
  | cons o operations ih =>
    obtain ⟨l₁, l₂, ⟨y, c₁⟩, rfl, hfirst, hrest⟩ := Exchange.passes_bind_iff.mp h
    obtain ⟨l₃, l₄, ⟨zs, c₂⟩, rfl, hothers, hlast⟩ := Exchange.passes_bind_iff.mp hrest
    obtain ⟨rfl, rfl, rfl⟩ := Exchange.passes_done_pair_iff.mp hlast
    have hconducts := conducts_of_passes hfirst hsend
    obtain ⟨acts, hacts, rfl, rfl, rfl⟩ := ih hothers (hconducts.canSend hsend)
    refine ⟨⟨o, l₁, y⟩ :: acts, .cons hconducts hacts, rfl, rfl, ?_⟩
    rw [List.flatMap_cons, List.append_nil]

/-! ## Ids -/

/-- The id of a message that was sent. -/
def idOf? (s : Sent) : Option Json :=
  s.request.body.bind (Json.get? "id")

/-- What a client has sent has the next ids, one after another, and they are used up. -/
structure Numbered (c : Client) (log : List Sent) (c' : Client) : Prop where
  ids : log.map idOf? = (List.range' c.nextId log.length).map fun k => some (Json.ofNat k)
  nextId : c'.nextId = c.nextId + log.length

theorem get?_id_request (id : Option Nat) (method : String) (params : Json) :
    (Rpc.request id method params).get? "id" = id.map Json.ofNat := by
  rw [Rpc.request, Json.get?_object]
  cases id <;> simp

theorem Asks.idOf?_eq {method : String} {params : Json} {s : Sent} {x : Except Failure Json}
    (h : c.Asks method params s x) : idOf? s = some (.ofNat c.nextId) := by
  have hbody : s.request.body = some (Rpc.request (some c.nextId) method params) := by
    cases h with
    | served hq _ => exact hq.body_eq
    | failed hq _ => exact hq.body_eq
  rw [idOf?, hbody, Option.bind_some, get?_id_request]
  rfl

theorem Numbered.nil : c.Numbered [] c :=
  ⟨rfl, rfl⟩

theorem Numbered.append (h : c.Numbered log c') (h' : c'.Numbered log' c'') :
    c.Numbered (log ++ log') c'' where
  ids := by
    rw [List.map_append, h.ids, h'.ids, h.nextId, List.length_append, ← List.range'_append_1,
      List.map_append]
  nextId := by
    rw [h'.nextId, h.nextId, List.length_append, Nat.add_assoc]

/-- A request uses one id, whatever is answered. -/
theorem Asks.numbered {method : String} {params : Json} {s : Sent} {x : Except Failure Json}
    (h : c.Asks method params s x) : c.Numbered [s] (c.next.hear s.answer) where
  ids := by simp [h.idOf?_eq]
  nextId := nextId_hear _ _

theorem Lists.numbered {fuel : Nat} {cursor : Option String} {l : Listing}
    (h : c.Lists fuel cursor log l c') : c.Numbered log c' := by
  induction h with
  | unfinished => exact .nil
  | unserved hasks => exact hasks.numbered
  | misread hasks _ => exact hasks.numbered
  | last hasks _ _ => exact hasks.numbered
  | more hasks _ _ _ ih => exact hasks.numbered.append ih

theorem Conducts.numbered (h : c.Conducts act c') : c.Numbered act.sent c' := by
  cases h with
  | list hlists => exact hlists.numbered
  | unserved hasks => exact hasks.numbered
  | misread hasks _ => exact hasks.numbered
  | called hasks _ => exact hasks.numbered

theorem ConductsAll.numbered (h : c.ConductsAll acts c') :
    c.Numbered (acts.flatMap (·.sent)) c' := by
  induction h with
  | nil => exact .nil
  | cons hact _ ih => exact hact.numbered.append ih

/-! ## What an operation gives -/

/-- An operation comes out as the answer to its latest request says: it fails unless the answer
serves that request with what the operation can read, and the failure is one of the server. -/
structure Settles (o : Operation) (log : List Sent) (y : Yield) : Prop where
  latest : ∃ before s k, log = before ++ [s] ∧ idOf? s = some (.ofNat k) ∧
    (y.failure? = none ↔ ∃ v, Serves s.answer k v ∧ o.Reads v)
  blamesServer : ∀ e, y.failure? = some e → ∃ detail, e = .toolServer detail

theorem Serves.unique {answer : Except Http.Trouble Http.Response} {id : Nat} {v v' : Json}
    (h : Serves answer id v) (h' : Serves answer id v') : v = v' := by
  obtain ⟨r, a, hr, ha, -, rfl⟩ := h
  obtain ⟨r', a', hr', ha', -, rfl⟩ := h'
  obtain rfl : r = r' := Except.ok.inj (hr.1.symm.trans hr'.1)
  obtain rfl : a = a' := Option.some.inj
    ((answer?_eq_some_iff.mpr ha).symm.trans (answer?_eq_some_iff.mpr ha'))
  rfl

/-- One request, which is not served. -/
theorem Asks.settles_of_error {method : String} {params : Json} {s : Sent} {detail : String}
    {o : Operation} {y : Yield} (h : c.Asks method params s (.error (.toolServer detail)))
    (hy : y.failure? = some (.toolServer detail)) : Settles o [s] y where
  latest := by
    refine ⟨[], s, c.nextId, rfl, h.idOf?_eq, ?_⟩
    obtain _ | ⟨-, hno⟩ := h
    rw [hy]
    exact ⟨nofun, fun ⟨v, hv, _⟩ => absurd hv (hno v)⟩
  blamesServer e he := ⟨detail, Option.some.inj (he.symm.trans hy)⟩

/-- One request, which is served, with what the operation can read or not. -/
theorem Asks.settles_of_ok {method : String} {params : Json} {s : Sent} {v : Json} {o : Operation}
    {y : Yield} (h : c.Asks method params s (.ok v)) (hy : y.failure? = none ↔ o.Reads v)
    (hblames : ∀ e, y.failure? = some e → ∃ detail, e = .toolServer detail) : Settles o [s] y where
  latest := by
    refine ⟨[], s, c.nextId, rfl, h.idOf?_eq, hy.trans ?_⟩
    obtain ⟨-, hserves⟩ | _ := h
    constructor
    · exact fun hreads => ⟨v, hserves, hreads⟩
    · rintro ⟨v', hserves', hreads⟩
      rw [Serves.unique hserves hserves']
      exact hreads
  blamesServer := hblames

theorem failure?_listed_prepend (l : Listing) (before : List Definition) :
    (Yield.listed (l.prepend before)).failure? = (Yield.listed l).failure? := by
  cases l <;> rfl

theorem Lists.settles {fuel pages : Nat} {cursor : Option String} {l : Listing}
    (h : c.Lists fuel cursor log l c') (hfuel : fuel ≠ 0) :
    Settles (.list pages) log (.listed l) := by
  induction h with
  | unfinished => exact absurd rfl hfuel
  | unserved hasks => exact hasks.settles_of_error rfl
  | misread hasks hno =>
    refine hasks.settles_of_ok ⟨nofun, fun ⟨p, hp⟩ => absurd hp (hno p)⟩ ?_
    rintro _ ⟨⟩
    exact ⟨_, rfl⟩
  | last hasks hp _ => exact hasks.settles_of_ok ⟨fun _ => ⟨_, hp⟩, fun _ => rfl⟩ nofun
  | @more c c' fuel _ _ _ _ _ _ _ hasks hp _ hrest ih =>
    rcases Nat.eq_zero_or_pos fuel with rfl | hpos
    · -- The fuel ends here, so this page is the latest; it was served, and the listing is open.
      cases hrest
      exact hasks.settles_of_ok ⟨fun _ => ⟨_, hp⟩, fun _ => rfl⟩ nofun
    · obtain ⟨⟨before, s, k, rfl, hid, hserves⟩, hblames⟩ := ih (Nat.ne_of_gt hpos)
      rw [← failure?_listed_prepend] at hserves hblames
      exact ⟨⟨_ :: before, s, k, rfl, hid, hserves⟩, hblames⟩

theorem Conducts.settles (h : c.Conducts act c') : Settles act.operation act.sent act.yield := by
  cases h with
  | list hlists => exact hlists.settles (Nat.succ_ne_zero _)
  | unserved hasks => exact hasks.settles_of_error rfl
  | misread hasks hno =>
    refine hasks.settles_of_ok ⟨nofun, fun ⟨r, hr⟩ => absurd hr (hno r)⟩ ?_
    rintro _ ⟨⟩
    exact ⟨_, rfl⟩
  | called hasks hr => exact hasks.settles_of_ok ⟨fun _ => ⟨_, hr⟩, fun _ => rfl⟩ nofun

theorem ConductsAll.settles (h : c.ConductsAll acts c') :
    ∀ act ∈ acts, Settles act.operation act.sent act.yield := by
  induction h with
  | nil => exact nofun
  | cons hact _ ih =>
    intro act hmem
    rcases List.mem_cons.mp hmem with rfl | hmem
    · exact hact.settles
    · exact ih act hmem

/-! ## The ids of a session -/

/-- The ids among what a client has sent. -/
theorem Numbered.filterMap_idOf? (h : c.Numbered log c') :
    log.filterMap idOf? = (List.range' c.nextId log.length).map Json.ofNat := by
  have hmap : (log.map idOf?).filterMap id = log.filterMap idOf? := List.filterMap_map
  rw [← hmap, h.ids]
  simp

theorem Posts.idOf?_notification {method : String} {params : Json} {s : Sent}
    (h : c.Posts (Rpc.request none method params) s.request) : idOf? s = none := by
  rw [idOf?, h.body_eq, Option.bind_some, get?_id_request]
  rfl

end Client

open Client (idOf?)

/-- Opening a session uses the first id, unless nothing can be sent. -/
theorem Opens.filterMap_idOf? {name url : String} {log : List Sent} {x : Except Failure Client}
    (h : Opens name url log x) :
    ∃ n, log.filterMap idOf? = (List.range' 1 n).map Json.ofNat ∧
      ∀ c, x = .ok c → n = 1 ∧ c.nextId = 2 ∧ c.CanSend := by
  cases h with
  | unsendable _ => exact ⟨0, rfl, nofun⟩
  | refused hasks => exact ⟨1, hasks.numbered.filterMap_idOf?, nofun⟩
  | @unheard hello note _ _ hasks hposts _ =>
    refine ⟨1, ?_, nofun⟩
    rw [← List.singleton_append, List.filterMap_append, hasks.numbered.filterMap_idOf?]
    simp [hposts.idOf?_notification, Client.fresh]
  | @opened hello note _ _ hasks hposts _ =>
    refine ⟨1, ?_, ?_⟩
    · rw [← List.singleton_append, List.filterMap_append, hasks.numbered.filterMap_idOf?]
      simp [hposts.idOf?_notification, Client.fresh]
    · rintro _ ⟨⟩
      refine ⟨rfl, ?_, hposts.canSend.hear _⟩
      rw [Client.nextId_hear, Client.nextId_hear]
      rfl

/-- **A session** with a server that answers as it likes. The session is opened by a request with
the id 1 and, if that is served, one notification; if either fails, nothing more is sent. The ids of
all requests are the numbers from 1 on. Every operation is performed, and has a value only if the
answer to its latest request serves it with what can be read; every other answer is a failure of the
server, and the next operation sends its requests with the next ids. A response that can be read has
an error exactly if its member for one is there and not `null`. -/
theorem session_of_network {ω : Type} (net : Network ω) (w : ω) (name url : String)
    (operations : List Operation) :
    let log := (session name url operations).sent net w
    let result := ((session name url operations).run net w).1
    ∃ opening acts, log = opening ++ acts.flatMap (·.sent) ∧
      ((∃ e, Opens name url opening (.error e) ∧ acts = [] ∧ result = .error e) ∨
        ∃ c c', Opens name url opening (.ok c) ∧ c.ConductsAll acts c' ∧
          acts.map (·.operation) = operations ∧ result = .ok (acts.map (·.yield))) ∧
      (∃ n, log.filterMap idOf? = (List.range' 1 n).map Json.ofNat) ∧
      (∀ act ∈ acts, Client.Settles act.operation act.sent act.yield) ∧
      ∀ text v a, Json.parseForm .characters Rpc.Response.form text = .ok v →
        Rpc.Response.read? text = some a →
        (a.error = none ↔ ∀ e, v.get? "error" = some e → e = .null) := by
  intro log result
  have hpasses : (session name url operations).Passes log result := Exchange.passes_run ..
  obtain ⟨opening, rest, ⟨x, c⟩, hlog, hconnect, hrest⟩ := Exchange.passes_bind_iff.mp hpasses
  have hopens := opens_of_passes hconnect
  obtain ⟨n, hids, hopen⟩ := hopens.filterMap_idOf?
  rcases x with e | ⟨⟩
  · obtain ⟨rfl, hresult⟩ := Exchange.passes_done_iff.mp hrest
    exact ⟨opening, [], hlog, .inl ⟨e, hopens, rfl, hresult⟩, ⟨n, by rw [hlog]; simpa using hids⟩,
      nofun, fun _ _ _ => Rpc.Response.error_eq_none_iff⟩
  · obtain ⟨rfl, hnext, hsend⟩ := hopen c rfl
    obtain ⟨l₁, l₂, ⟨ys, c'⟩, rfl, hall, hlast⟩ := Exchange.passes_bind_iff.mp hrest
    obtain ⟨rfl, hresult⟩ := Exchange.passes_done_iff.mp hlast
    obtain ⟨acts, hacts, hoperations, rfl, rfl⟩ := Client.conductsAll_of_passes hall hsend
    rw [List.append_nil] at hlog
    refine ⟨opening, acts, hlog, .inr ⟨c, c', hopens, hacts, hoperations, hresult⟩,
      ⟨1 + (acts.flatMap (·.sent)).length, ?_⟩, hacts.settles,
      fun _ _ _ => Rpc.Response.error_eq_none_iff⟩
    rw [hlog, List.filterMap_append, hids, hacts.numbered.filterMap_idOf?, hnext,
      ← List.range'_append_1, List.map_append]

/-- The network that gives one answer after another. -/
def inTurn : Network (List (Except Http.Trouble Http.Response))
  | _, [] => (.error .unreachable, [])
  | _, answer :: answers => (answer, answers)

/-- An operation has a value though the answer to its request has a member for an error, which is
`null`. -/
theorem session_of_null_error :
    let hello := "\x7b\"id\":1\x7d".toList
    let page := "\x7b\"id\":2,\"error\":null,\"result\":\x7b\"tools\":[]\x7d\x7d".toList
    let answers : List (Except Http.Trouble Http.Response) :=
      [.ok ⟨200, [], hello.map Char.toNat, none, none⟩, .ok ⟨202, [], [], none, none⟩,
        .ok ⟨200, [], page.map Char.toNat, none, none⟩]
    (Json.parse page).toOption.bind (·.get? "error") = some .null ∧
      ((session "docs" "http://a/" [.list 0]).run inTurn answers).1 =
        .ok [.listed (.complete [])] := by
  intro hello page answers
  exact ⟨by decide +kernel, by decide +kernel⟩

end Dialogue.ToolServer
