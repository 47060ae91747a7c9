import Dialogue.Proofs.ToolServer.Answers
import Dialogue.Proofs.ToolServer.Dispatch
import Dialogue.Proofs.ToolServer.Echo

/-!
# Listing page by page

A listing asks for one page after another, each at the cursor that the page before it has given, and
ends at the first page that gives none. What a client makes of an answer is determined by the answer
and the id of the request; `Refuses` says how an answer has no value for a request and how that is
worded, and `RefusesPage` how it has no page.

Main statement: `list_of_pages`. Its step is `Client.listFrom_passes` (one page of a listing), which
is followed through the pages by `Client.listFrom_of_turned`.
-/

namespace Dialogue.ToolServer

open Http (Exchange Sent Network)
open Json (bind_eq_ok_iff mapError_eq_ok_iff)
open Client (Listing pageParams)

/-- How an answer has no value for the request with an id, and how that is worded. -/
inductive Refuses (method : String) (id : Nat) (s : Sent) : (detail : String) → Prop where
  | unheard {trouble : Http.Trouble} : s.answer = .error trouble →
      Refuses method id s
        (method ++ " failed: " ++ (Http.Fault.trouble trouble s.request.url).message)
  | unsuccessful {r : Http.Response} : s.answer = .ok r → r.isSuccess = false →
      Refuses method id s (method ++ " returned " ++ Http.statusLine r.status)
  | cutOff {r : Http.Response} {detail : String} : s.answer = .ok r → r.isSuccess = true →
      r.cutOff = some detail → Refuses method id s detail
  /-- The response says nothing that a client understands, or answers another request. -/
  | unanswered {r : Http.Response} : Succeeds s.answer r → (∀ a, ¬ Holds r id a) →
      Refuses method id s
        ("no JSON-RPC response for '" ++ method ++ "' (id " ++ toString id ++ ")")
  | error {r : Http.Response} {a : Rpc.Response} {e : Rpc.Error} : Succeeds s.answer r →
      Holds r id a → a.error = some e →
      Refuses method id s ("JSON-RPC error " ++ toString e.code ++ ": " ++ e.message)

/-- How an answer has no page for the request with an id. -/
inductive RefusesPage (id : Nat) (s : Sent) : (detail : String) → Prop where
  | refused {detail : String} : Refuses "tools/list" id s detail → RefusesPage id s detail
  | misread {v : Json} {fault : Json.DecodeFault} : Serves s.answer id v →
      Page.decode v = .error fault →
      RefusesPage id s ("invalid tools/list result: " ++ fault.message)

namespace Client

variable {c c' : Client} {method detail : String} {params v : Json} {s : Sent} {log : List Sent}
  {p : Page} {fuel : Nat} {cursor : Option String} {l : Listing} {e : Failure}

/-! ## What a client makes of an answer -/

/-- The value that the answer to a request has for it. -/
def valueOf (c : Client) (method : String) (s : Sent) : Except Failure Json :=
  match s.answer with
  | .error trouble =>
    .error (c.failure
      (method ++ " failed: " ++ (Http.Fault.trouble trouble s.request.url).message))
  | .ok r =>
    if r.isSuccess then
      match r.cutOff with
      | none => c.resultOf method c.nextId r
      | some detail => .error (c.failure detail)
    else .error (c.failure (method ++ " returned " ++ Http.statusLine r.status))

/-- The page that the answer to a request has. -/
def pageOf (c : Client) (s : Sent) : Except Failure Page :=
  (c.valueOf "tools/list" s).bind fun v =>
    (Page.decode v).mapError fun e => c.failure ("invalid tools/list result: " ++ e.message)

theorem failure_hear (answer : Except Http.Trouble Http.Response) (detail : String) :
    (c.next.hear answer).failure detail = c.failure detail := by
  rcases c.next.hear_cases answer with h | ⟨_, _, _, h⟩ <;> rw [h] <;> rfl

theorem resultOf_eq_ok_iff {id : Nat} {r : Http.Response} :
    c.resultOf method id r = .ok v ↔
      ∃ a, Holds r id a ∧ a.error = none ∧ v = a.result.getD .null := by
  rcases resultOf_cases c method id r with ⟨a, ha, herror, hresult⟩ | ⟨hno, detail, hresult⟩
  · rw [hresult]
    constructor
    · rintro ⟨⟩
      exact ⟨a, ha, herror, rfl⟩
    · rintro ⟨a', ha', -, rfl⟩
      obtain rfl : a = a' := Option.some.inj
        ((answer?_eq_some_iff.mpr ha).symm.trans (answer?_eq_some_iff.mpr ha'))
      rfl
  · rw [hresult]
    exact ⟨nofun, fun ⟨a, ha, herror, _⟩ => absurd herror (hno a ha)⟩

theorem valueOf_eq_ok_iff : c.valueOf method s = .ok v ↔ Serves s.answer c.nextId v := by
  unfold valueOf Serves Succeeds
  rcases s.answer with trouble | r
  · exact ⟨nofun, fun ⟨_, _, ⟨h, _⟩, _⟩ => nomatch h⟩
  · dsimp only
    split
    · next hsuccess =>
      split
      · next hwhole =>
        rw [resultOf_eq_ok_iff]
        constructor
        · rintro ⟨a, ha, herror, hv⟩
          exact ⟨r, a, ⟨rfl, hsuccess, hwhole⟩, ha, herror, hv⟩
        · rintro ⟨_, a, ⟨⟨⟩, -, -⟩, ha, herror, hv⟩
          exact ⟨a, ha, herror, hv⟩
      · next hcut =>
        refine ⟨nofun, ?_⟩
        rintro ⟨_, _, ⟨⟨⟩, -, hwhole⟩, -⟩
        cases hcut.symm.trans hwhole
    · next hsuccess =>
      refine ⟨nofun, ?_⟩
      rintro ⟨_, _, ⟨⟨⟩, hsuccess', -⟩, -⟩
      exact absurd hsuccess' hsuccess

/-- An answer that has no value is worded as it should be. -/
theorem valueOf_of_refuses (h : Refuses method c.nextId s detail) :
    c.valueOf method s = .error (c.failure detail) := by
  unfold valueOf
  cases h with
  | unheard hanswer => rw [hanswer]
  | unsuccessful hanswer hno => simp only [hanswer, hno, Bool.false_eq_true, if_false]
  | cutOff hanswer hsuccess hcut => simp only [hanswer, hsuccess, hcut, if_true]
  | unanswered hr hno =>
    obtain ⟨hanswer, hsuccess, hwhole⟩ := hr
    have hnone : answer? _ c.nextId = none := Option.eq_none_iff_forall_ne_some.mpr fun a ha =>
      hno a (answer?_eq_some_iff.mp ha)
    simp only [hanswer, hsuccess, hwhole, if_true, resultOf, hnone]
  | error hr ha herror =>
    obtain ⟨hanswer, hsuccess, hwhole⟩ := hr
    simp only [hanswer, hsuccess, hwhole, if_true, resultOf, answer?_eq_some_iff.mpr ha, herror]

/-- What is made of the value of an answer needs an answer that serves. -/
theorem valueOf_bind_eq_ok_iff {α : Type} {f : Json → Except Failure α} {a : α} :
    (c.valueOf method s).bind f = .ok a ↔ ∃ v, Serves s.answer c.nextId v ∧ f v = .ok a :=
  bind_eq_ok_iff.trans (exists_congr fun _ => and_congr_left fun _ => valueOf_eq_ok_iff)

theorem pageOf_eq_ok_iff :
    c.pageOf s = .ok p ↔ ∃ v, Serves s.answer c.nextId v ∧ Page.decode v = .ok p := by
  rw [pageOf, valueOf_bind_eq_ok_iff]
  simp only [mapError_eq_ok_iff]

/-- An answer that has no page is worded as it should be. -/
theorem pageOf_of_refusesPage (h : RefusesPage c.nextId s detail) :
    c.pageOf s = .error (c.failure detail) := by
  cases h with
  | refused hrefuses => rw [pageOf, valueOf_of_refuses hrefuses]; rfl
  | misread hserves hfault =>
    rw [pageOf, valueOf_eq_ok_iff.mpr hserves, Except.bind, hfault]
    rfl

/-! ## One page -/

/-- A request is sent once, and the answer says what comes of it. -/
theorem request_passes_valueOf {x : Except Failure Json}
    (h : (c.request method params).Passes log (x, c')) (hsend : c.CanSend) :
    ∃ s, log = [s] ∧ c.Posts (Rpc.request (some c.nextId) method params) s.request ∧
      c' = c.next.hear s.answer ∧ x = c.valueOf method s := by
  obtain ⟨l₁, l₂, ⟨y, c₁⟩, rfl, hposted, hrest⟩ := Exchange.passes_bind_iff.mp h
  obtain ⟨rfl, rfl, rfl⟩ := Exchange.passes_done_pair_iff.mp hrest
  obtain ⟨l₃, l₄, asked, rfl, hask, hread⟩ := Exchange.passes_bind_iff.mp hposted
  rcases Exchange.passes_ask_iff.mp hask with
    ⟨fault, hfault, -, -⟩ | ⟨q, answer, hq, rfl, rfl⟩
  · obtain ⟨q, hq⟩ := hsend (Rpc.request (some c.nextId) method params)
    cases hfault.symm.trans hq
  · refine ⟨⟨q, answer⟩, ?_⟩
    rcases answer with trouble | r
    · obtain ⟨rfl, rfl, rfl⟩ := Exchange.passes_done_pair_iff.mp hread
      exact ⟨rfl, hq, rfl, rfl⟩
    · change (if r.isSuccess = true then _ else _ : Exchange _).Passes l₄ _ at hread
      unfold valueOf
      split at hread
      · next hsuccess =>
        have hhear : c.next.hear (.ok r) = c.next.heed r := if_pos hsuccess
        split at hread
        · next hwhole =>
          obtain ⟨rfl, rfl, rfl⟩ := Exchange.passes_done_pair_iff.mp hread
          refine ⟨rfl, hq, hhear.symm, ?_⟩
          simp only [hsuccess, hwhole, if_true]
          exact resultOf_heed (c := c.next) r
        · next hcut =>
          obtain ⟨rfl, rfl, rfl⟩ := Exchange.passes_done_pair_iff.mp hread
          refine ⟨rfl, hq, hhear.symm, ?_⟩
          simp only [hsuccess, hcut, if_true]
          rfl
      · next hsuccess =>
        obtain ⟨rfl, rfl, rfl⟩ := Exchange.passes_done_pair_iff.mp hread
        refine ⟨rfl, hq, (if_neg hsuccess).symm, ?_⟩
        simp only [hsuccess]
        rfl

/-- A page is one request, and the answer says what comes of it. -/
theorem page_passes {x : Except Failure Page} (h : (c.page cursor).Passes log (x, c'))
    (hsend : c.CanSend) :
    ∃ s, log = [s] ∧
      c.Posts (Rpc.request (some c.nextId) "tools/list" (pageParams cursor)) s.request ∧
      c' = c.next.hear s.answer ∧ x = c.pageOf s := by
  obtain ⟨l₁, l₂, ⟨y, c₁⟩, rfl, hrequest, hread⟩ := Exchange.passes_bind_iff.mp h
  obtain ⟨rfl, rfl, rfl⟩ := Exchange.passes_done_pair_iff.mp hread
  obtain ⟨s, rfl, hposts, rfl, rfl⟩ := request_passes_valueOf hrequest hsend
  simp only [failure_hear]
  exact ⟨s, rfl, hposts, rfl, rfl⟩

/-- How a listing goes on after the request for a page: what is sent then, and the listing that it
gives from this page on. -/
inductive GoesOn (c : Client) (fuel : Nat) (s : Sent) : List Sent → Listing → Prop where
  | refused {e : Failure} : c.pageOf s = .error e → GoesOn c fuel s [] (.failed e)
  | last {p : Page} : c.pageOf s = .ok p → p.next? = none →
      GoesOn c fuel s [] (.complete p.definitions)
  | more {p : Page} {next : String} {log : List Sent} {l : Listing} {c' : Client} :
      c.pageOf s = .ok p → p.next? = some next →
      ((c.next.hear s.answer).listFrom fuel (some next)).Passes log (l, c') →
      GoesOn c fuel s log (l.prepend p.definitions)

/-- **One page of a listing.** -/
theorem listFrom_passes (h : (c.listFrom (fuel + 1) cursor).Passes log (l, c'))
    (hsend : c.CanSend) :
    ∃ s rest, log = s :: rest ∧
      c.Posts (Rpc.request (some c.nextId) "tools/list" (pageParams cursor)) s.request ∧
      c.GoesOn fuel s rest l := by
  obtain ⟨l₁, l₂, ⟨x, c₁⟩, rfl, hpage, hrest⟩ := Exchange.passes_bind_iff.mp h
  obtain ⟨s, rfl, hposts, rfl, rfl⟩ := page_passes hpage hsend
  refine ⟨s, l₂, rfl, hposts, ?_⟩
  rcases hp : c.pageOf s with e | p
  · rw [hp] at hrest
    obtain ⟨rfl, rfl, rfl⟩ := Exchange.passes_done_pair_iff.mp hrest
    exact .refused hp
  · rw [hp] at hrest
    dsimp only at hrest
    rcases hnext : p.next? with _ | next
    · rw [hnext] at hrest
      obtain ⟨rfl, rfl, rfl⟩ := Exchange.passes_done_pair_iff.mp hrest
      exact .last hp hnext
    · rw [hnext] at hrest
      obtain ⟨l₃, l₄, ⟨l', c₂⟩, rfl, hmore, hlast⟩ := Exchange.passes_bind_iff.mp hrest
      obtain ⟨rfl, rfl, rfl⟩ := Exchange.passes_done_pair_iff.mp hlast
      rw [List.append_nil]
      exact .more hp hnext hmore

/-- A client has an open session once it is connected. -/
theorem speaksWith_of_run {ω : Type} (net : Network ω) (w : ω) {name url : String}
    (h : ((fresh name url).connect.run net w).1 = (.ok (), c)) : c.SpeaksWith name url := by
  have hpasses := Exchange.passes_run net (fresh name url).connect w
  rw [h] at hpasses
  exact ⟨_, c, [], opens_of_passes hpasses, .nil⟩

/-! ## Pages one after another -/

/-- The messages that ask for pages with these parameters, with ids from this one on. -/
def pageRequests (id : Nat) (params : List Json) : List (Option Json) :=
  (params.zipIdx id).map fun (params, id) => some (Rpc.request (some id) "tools/list" params)

theorem pageRequests_cons (id : Nat) (params : Json) (others : List Json) :
    pageRequests id (params :: others) =
      some (Rpc.request (some id) "tools/list" params) :: pageRequests (id + 1) others :=
  rfl

/-- The answer to a request has a page with a cursor, at which the next page is asked for. -/
def Turns (id : Nat) (s : Sent) (t : Page × String) : Prop :=
  (∃ v, Serves s.answer id v ∧ Page.decode v = .ok t.1) ∧ t.1.cursor = some t.2 ∧ t.2 ≠ ""

theorem next?_eq_none_iff : p.next? = none ↔ p.cursor = none ∨ p.cursor = some "" := by
  rw [Page.next?, Option.filter_eq_none_iff]
  rcases p.cursor with _ | cursor <;> simp

theorem Turns.next?_eq {id : Nat} {t : Page × String} (h : Turns id s t) :
    t.1.next? = some t.2 := by
  rw [Page.next?, h.2.1, Option.filter_some, if_pos (decide_eq_true h.2.2)]

theorem prepend_complete (before after : List Definition) :
    (Listing.complete after).prepend before = .complete (before ++ after) :=
  rfl

/-- **Pages one after another.** If the first answers have pages with cursors, then one more page is
asked for, and its answer settles the listing unless it has a cursor as well. -/
theorem listFrom_of_turned {turned : List (Page × String)}
    (h : (c.listFrom fuel cursor).Passes log (l, c')) (hsend : c.CanSend)
    (hfuel : turned.length < fuel)
    (hturned : ∀ i s t, log[i]? = some s → turned[i]? = some t → Turns (c.nextId + i) s t) :
    ∃ front s rest, log = front ++ s :: rest ∧ front.length = turned.length ∧
      (front ++ [s]).map (·.request.body) =
        pageRequests c.nextId (pageParams cursor :: turned.map fun t => pageParams (some t.2)) ∧
      (∀ v p, Serves s.answer (c.nextId + turned.length) v → Page.decode v = .ok p →
        p.next? = none → rest = [] ∧
          l = .complete (turned.flatMap (·.1.definitions) ++ p.definitions)) ∧
      ∀ detail, RefusesPage (c.nextId + turned.length) s detail →
        rest = [] ∧ l = .failed (c.failure detail) := by
  induction turned generalizing c c' cursor fuel log l with
  | nil =>
    obtain ⟨fuel, rfl⟩ := Nat.exists_eq_add_of_lt hfuel
    rw [List.length_nil, Nat.zero_add] at h
    obtain ⟨s, rest, rfl, hposts, hgoes⟩ := listFrom_passes h hsend
    refine ⟨[], s, rest, rfl, rfl, congrArg (·::[]) hposts.body_eq, ?_, ?_⟩
    · intro v p hserves hp hnext
      have hpage := pageOf_eq_ok_iff.mpr ⟨v, hserves, hp⟩
      cases hgoes with
      | refused hpage' => cases hpage.symm.trans hpage'
      | last hpage' _ =>
        cases hpage.symm.trans hpage'
        exact ⟨rfl, rfl⟩
      | more hpage' hnext' _ =>
        cases hpage.symm.trans hpage'
        cases hnext.symm.trans hnext'
    · intro detail hrefuses
      have hpage := pageOf_of_refusesPage hrefuses
      cases hgoes with
      | refused hpage' =>
        cases hpage.symm.trans hpage'
        exact ⟨rfl, rfl⟩
      | last hpage' _ => cases hpage.symm.trans hpage'
      | more hpage' _ _ => cases hpage.symm.trans hpage'
  | cons t turned ih =>
    obtain ⟨fuel, rfl⟩ := Nat.exists_eq_add_of_le' (Nat.zero_lt_of_lt hfuel)
    obtain ⟨s, rest, rfl, hposts, hgoes⟩ := listFrom_passes h hsend
    have ht := hturned 0 s t rfl rfl
    have hpage := pageOf_eq_ok_iff.mpr ht.1
    cases hgoes with
    | refused hpage' => cases hpage.symm.trans hpage'
    | last hpage' hnext =>
      cases hpage.symm.trans hpage'
      cases hnext.symm.trans ht.next?_eq
    | more hpage' hnext hmore =>
      obtain rfl := Except.ok.inj (hpage.symm.trans hpage')
      obtain rfl := Option.some.inj (ht.next?_eq.symm.trans hnext)
      have hid (n : Nat) : (c.next.hear s.answer).nextId + n = c.nextId + (n + 1) := by
        rw [nextId_hear]
        exact Nat.add_right_comm ..
      obtain ⟨front, s', rest', rfl, hlength, hbodies, hlast, hrefused⟩ := ih hmore
        (hsend.next.hear s.answer) (Nat.lt_of_succ_lt_succ hfuel) fun i s t hs ht =>
          hid i ▸ hturned (i + 1) s t hs ht
      refine ⟨s :: front, s', rest', rfl, congrArg (· + 1) hlength, ?_, ?_, ?_⟩
      · rw [List.cons_append, List.map_cons, hposts.body_eq, hbodies, nextId_hear, List.map_cons,
          pageRequests_cons]
        rfl
      · intro v p hserves hp hnext
        rw [List.length_cons, ← hid] at hserves
        obtain ⟨rfl, rfl⟩ := hlast v p hserves hp hnext
        refine ⟨rfl, ?_⟩
        rw [prepend_complete, List.flatMap_cons, List.append_assoc]
      · intro detail hrefuses
        rw [List.length_cons, ← hid] at hrefuses
        obtain ⟨rfl, rfl⟩ := hrefused detail hrefuses
        exact ⟨rfl, congrArg Listing.failed (failure_hear s.answer detail)⟩

end Client

open Client (Turns pageRequests)

/-- **A listing** of a client with an open session, where the first answers have pages that name the
next one, be it one that was named before. The client asks for the first page without a cursor and
for each page after it with the cursor of the page before. If the page that is asked for then names
no next one, the tools are those of all pages in order, and nothing more is sent; if the answer has
no page, the listing fails as that answer says, and nothing more is sent. -/
theorem list_of_pages {ω : Type} (net : Network ω) (w : ω) {c : Client} {name url : String}
    (hopen : c.SpeaksWith name url) (turned : List (Page × String)) (fuel : Nat)
    (hfuel : turned.length < fuel)
    (hturned : ∀ i s t, ((c.list fuel).sent net w)[i]? = some s → turned[i]? = some t →
      Turns (c.nextId + i) s t) :
    let log := (c.list fuel).sent net w
    let result := ((c.list fuel).run net w).1.1
    ∃ s, log[turned.length]? = some s ∧
      (log.take (turned.length + 1)).map (·.request.body) =
        pageRequests c.nextId
          (.obj [] :: turned.map fun t => Json.object [("cursor", .str t.2)]) ∧
      (∀ v p, Serves s.answer (c.nextId + turned.length) v → Page.decode v = .ok p →
        p.cursor = none ∨ p.cursor = some "" → log.length = turned.length + 1 ∧
          result = .complete (turned.flatMap (·.1.definitions) ++ p.definitions)) ∧
      ∀ detail, RefusesPage (c.nextId + turned.length) s detail →
        log.length = turned.length + 1 ∧
          result = .failed (.toolServer (c.name ++ ": " ++ detail)) := by
  intro log result
  obtain ⟨front, s, rest, hlog, hlength, hbodies, hlast, hrefused⟩ :=
    Client.listFrom_of_turned (Exchange.passes_run net (c.list fuel) w) hopen.keeps.1 hfuel hturned
  have hlog : log = front ++ s :: rest := hlog
  have hcount (h : rest = []) : log.length = turned.length + 1 := by
    rw [hlog, h, List.length_append, hlength, List.length_singleton]
  refine ⟨s, ?_, ?_, ?_, ?_⟩
  · rw [hlog, ← hlength, List.getElem?_append_right (Nat.le_refl _), Nat.sub_self]
    rfl
  · have htake : log.take (turned.length + 1) = front ++ [s] := by
      rw [hlog, ← hlength, List.append_cons, List.take_left' (by simp)]
    rw [htake]
    exact hbodies
  · intro v p hserves hp hcursor
    obtain ⟨hrest, hresult⟩ := hlast v p hserves hp (Client.next?_eq_none_iff.mpr hcursor)
    exact ⟨hcount hrest, hresult⟩
  · intro detail hrefuses
    obtain ⟨hrest, hresult⟩ := hrefused detail hrefuses
    exact ⟨hcount hrest, hresult⟩

/-- Three pages, of which two name the same next one and all define the same tool. -/
theorem list_of_pages_repeating :
    let text (id next : String) := "\x7b\"id\":" ++ id ++
      ",\"result\":\x7b\"tools\":[\x7b\"name\":\"search\"\x7d],\"nextCursor\":\"" ++ next ++
        "\"\x7d\x7d"
    let page (id next : String) : Http.Response :=
      ⟨200, [], (text id next).toList.map Char.toNat, none, none⟩
    let answers := [.ok (page "2" "a"), .ok (page "3" "a"), .ok (page "4" "")]
    let c : Client := { Client.fresh "docs" "http://a/" with nextId := 2 }
    let search : Definition := ⟨"search", none, Definition.anyObject⟩
    ((c.list 9).sent inTurn answers).length = 3 ∧
      ((c.list 9).run inTurn answers).1.1 = .complete [search, search, search] := by
  intro text page answers c search
  let hello : Http.Response := ⟨200, [], "\x7b\"id\":1\x7d".toList.map Char.toNat, none, none⟩
  have hopen : c.SpeaksWith "docs" "http://a/" :=
    Client.speaksWith_of_run inTurn [.ok hello, .ok ⟨202, [], [], none, none⟩] (by decide +kernel)
  have hanswers : ((c.list 9).sent inTurn answers).map (·.answer) = answers := by decide +kernel
  have hanswer {i : Nat} {s : Sent} (hs : ((c.list 9).sent inTurn answers)[i]? = some s) :
      answers[i]? = some s.answer := by
    rw [← hanswers, List.getElem?_map, hs]
    rfl
  have hserves (id next : String) (n : Nat) (v : Json)
      (hread : Rpc.Response.read? (page id next).text = some ⟨some (.ofNat n), some v, none⟩) :
      Serves (.ok (page id next)) n v :=
    ⟨_, _, ⟨rfl, rfl, rfl⟩, .text rfl hread rfl, rfl, rfl⟩
  let value (next : String) : Json := Json.object
    [("tools", .arr [Json.object [("name", .str "search")]]), ("nextCursor", .str next)]
  obtain ⟨s, hs, -, hlast, -⟩ := list_of_pages inTurn answers hopen
    [(⟨[search], some "a"⟩, "a"), (⟨[search], some "a"⟩, "a")] 9 (by decide)
    (by
      intro i s t hs ht
      have ha := hanswer hs
      rcases i with _ | _ | i
      · cases ht
        rw [Turns, ← Option.some.inj ha]
        exact ⟨⟨value "a", hserves "2" "a" 2 _ (by decide +kernel), by decide +kernel⟩, rfl,
          by decide⟩
      · cases ht
        rw [Turns, ← Option.some.inj ha]
        exact ⟨⟨value "a", hserves "3" "a" 3 _ (by decide +kernel), by decide +kernel⟩, rfl,
          by decide⟩
      · cases ht)
  rw [← Option.some.inj (hanswer hs)] at hlast
  exact hlast (value "") ⟨[search], some ""⟩ (hserves "4" "" 4 _ (by decide +kernel))
    (by decide +kernel) (.inr rfl)

end Dialogue.ToolServer
