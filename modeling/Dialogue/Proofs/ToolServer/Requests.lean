import Dialogue.Proofs.Http.Exchange
import Dialogue.Proofs.Json.Forms
import Dialogue.Proofs.Text.Utf8
import Dialogue.ToolServer.Client

/-!
# Requests of a client

What a client sends when it makes a request, and what it takes for the request to have a value.
`Client.Posts` says that a message of a client is sent in a request, and `Serves` that an answer
holds the value for the request with an id: the response has to succeed, to be read, to repeat the
id and to have no error. Every answer, whether it serves or not, leaves the client as `Client.hear`
says.

Main statements: `request_passes` (a request sends one message, with the next id, and has a value
exactly if the answer serves), and `CanSend.hear` (a client that can send can still send after any
answer).
-/

namespace Dialogue.ToolServer

open Http (Exchange Sent)

/-! ## Answers -/

/-- A response holds an answer to the request with an id: as its text, or in a stream of events,
where the first answer to the request counts. -/
inductive Holds (r : Http.Response) (id : Nat) : Rpc.Response → Prop where
  | text {a : Rpc.Response} : Client.isEventStream r = false → Rpc.Response.read? r.text = some a →
      a.id = some (.ofNat id) → Holds r id a
  | event {a : Rpc.Response} {before after : List Rpc.Response} : Client.isEventStream r = true →
      (EventStream.payloads r.text).filterMap Rpc.Response.read? = before ++ a :: after →
      (∀ x ∈ before, x.id ≠ some (.ofNat id)) → a.id = some (.ofNat id) → Holds r id a

/-- An answer is a response that reports success and is whole. -/
def Succeeds (answer : Except Http.Trouble Http.Response) (r : Http.Response) : Prop :=
  answer = .ok r ∧ r.isSuccess = true ∧ r.cutOff = none

/-- An answer serves the request with an id with a value: it succeeds and holds an answer to that
request, without an error. An error of `null` is none, and where there is no result the value is
`null`. -/
def Serves (answer : Except Http.Trouble Http.Response) (id : Nat) (v : Json) : Prop :=
  ∃ r a, Succeeds answer r ∧ Holds r id a ∧ a.error = none ∧ v = a.result.getD .null

namespace Rpc.Response

theorem answers_iff {a : Rpc.Response} {id : Nat} :
    a.answers id = true ↔ a.id = some (.ofNat id) :=
  beq_iff_eq

theorem present_eq_some_iff {v e : Json} {name : String} :
    present v name = some e ↔ v.get? name = some e ∧ e ≠ .null := by
  rw [present, Option.filter_eq_some_iff, decide_eq_true_iff]

/-- What is read as an error has a code and a message. -/
theorem exists_of_gives_errorForm {e : Json} (h : errorForm.Gives e) :
    ∃ code message, e.get? "code" = some (.ofInt code) ∧
      e.get? "message" = some (.str message) := by
  obtain ⟨code, hcode⟩ := h.exists_member (List.mem_cons_self ..)
  obtain ⟨message, hmessage⟩ := h.exists_member (List.mem_cons_of_mem _ (List.mem_cons_self ..))
  obtain ⟨n, rfl⟩ := Json.Form.gives_integer (h.member (by decide) rfl hcode)
  obtain ⟨s, rfl⟩ := Json.Form.gives_text (h.member (by decide) rfl hmessage)
  exact ⟨n, s, hcode, hmessage⟩

/-- A response that is read has an error exactly if its member for one is there and not `null`. -/
theorem error_eq_none_iff {cs : List Char} {v : Json} {a : Rpc.Response}
    (hv : Json.parseForm .characters form cs = .ok v) (ha : read? cs = some a) :
    a.error = none ↔ ∀ e, v.get? "error" = some e → e = .null := by
  rw [read?, hv] at ha
  obtain rfl := Option.some.inj ha
  change errorOf? v = none ↔ _
  by_cases herror : ∃ e, v.get? "error" = some e ∧ e ≠ .null
  · obtain ⟨e, he, hne⟩ := herror
    obtain rfl | hgives := Json.Form.gives_nullable
      ((Json.gives_of_parseForm hv).member (by decide) rfl he)
    · exact absurd rfl hne
    · obtain ⟨code, message, hcode, hmessage⟩ := exists_of_gives_errorForm hgives
      refine iff_of_false ?_ fun h => hne (h e he)
      rw [errorOf?, present_eq_some_iff.mpr ⟨he, hne⟩]
      simp [hcode, hmessage, Json.ofInt, Json.int?, Json.text?]
  · push Not at herror
    refine iff_of_true ?_ herror
    rcases hpresent : present v "error" with _ | e
    · rw [errorOf?, hpresent]
      rfl
    · obtain ⟨he, hne⟩ := present_eq_some_iff.mp hpresent
      exact absurd (herror e he) hne

end Rpc.Response

namespace Client

theorem answer?_eq_some_iff {r : Http.Response} {id : Nat} {a : Rpc.Response} :
    answer? r id = some a ↔ Holds r id a := by
  unfold answer?
  split
  · next hstream =>
    rw [Rpc.Response.inEvents?, List.find?_eq_some_iff_append]
    constructor
    · rintro ⟨hid, before, after, hreads, hbefore⟩
      refine .event hstream hreads (fun x hx hxid => ?_) (Rpc.Response.answers_iff.mp hid)
      simpa [Rpc.Response.answers_iff.mpr hxid] using hbefore x hx
    · rintro (⟨htext, -, -⟩ | ⟨-, hreads, hbefore, hid⟩)
      · cases hstream.symm.trans htext
      · refine ⟨Rpc.Response.answers_iff.mpr hid, _, _, hreads, fun x hx => ?_⟩
        simpa using fun hxid => hbefore x hx (Rpc.Response.answers_iff.mp hxid)
  · next hstream =>
    rw [Rpc.Response.inText?, Option.filter_eq_some_iff]
    constructor
    · rintro ⟨hread, hid⟩
      exact .text (by simpa using hstream) hread (Rpc.Response.answers_iff.mp hid)
    · rintro (⟨-, hread, hid⟩ | ⟨hevents, -, -, -⟩)
      · exact ⟨hread, Rpc.Response.answers_iff.mpr hid⟩
      · exact absurd hevents hstream

/-! ## Messages -/

variable {c c' : Client} {method : String} {params message : Json} {log : List Sent}
  {q : Http.Request} {answer : Except Http.Trouble Http.Response}

/-- A message of the client is sent in this request. -/
def Posts (c : Client) (message : Json) (q : Http.Request) : Prop :=
  Http.makeRequest .post c.url c.headers (some message) = .ok q

/-- The client can send its messages. -/
def CanSend (c : Client) : Prop :=
  ∀ message, ∃ q, c.Posts message q

/-- The client after an answer. -/
def hear (c : Client) : Except Http.Trouble Http.Response → Client
  | .ok r => if r.isSuccess then c.heed r else c
  | .error _ => c

/-- The client when it has taken the next id. -/
def next (c : Client) : Client :=
  { c with nextId := c.nextId + 1 }

/-- An answer leaves the client as it is, but for the name of the session. -/
theorem hear_cases (c : Client) (answer : Except Http.Trouble Http.Response) :
    c.hear answer = c ∨ ∃ (h : Http.Header) (session : String), h.text? = some session ∧
      c.hear answer = { c with session := some session } := by
  rcases answer with trouble | r
  · exact .inl rfl
  · rw [hear]
    split
    · unfold heed
      split
      · next session hsession =>
        obtain ⟨h, -, htext⟩ := Option.bind_eq_some_iff.mp hsession
        exact .inr ⟨h, session, htext, rfl⟩
      · exact .inl rfl
    · exact .inl rfl

@[simp]
theorem nextId_hear (c : Client) (answer : Except Http.Trouble Http.Response) :
    (c.hear answer).nextId = c.nextId := by
  rcases c.hear_cases answer with h | ⟨_, _, _, h⟩ <;> rw [h]

@[simp]
theorem url_hear (c : Client) (answer : Except Http.Trouble Http.Response) :
    (c.hear answer).url = c.url := by
  rcases c.hear_cases answer with h | ⟨_, _, _, h⟩ <;> rw [h]

@[simp]
theorem url_next (c : Client) : c.next.url = c.url :=
  rfl

@[simp]
theorem url_fresh (name url : String) : (fresh name url).url = url :=
  rfl

/-! ## Which clients can send -/

/-- The text of a header is written with the octets of the header. -/
theorem ofText_of_text? {h : Http.Header} {s : String} (hs : h.text? = some s) (name : String) :
    Http.Header.ofText name s = ⟨name, h.value⟩ := by
  unfold Http.Header.text? at hs
  split at hs
  · next hall =>
    obtain rfl := Option.some.inj hs
    have hone : ∀ o ∈ h.value, Text.Utf8.octetsOf (Char.ofNat o) = [o] := by
      intro o ho
      have hrange : o = 0x09 ∨ 0x20 ≤ o ∧ o < 0x7F := by
        simpa using List.all_eq_true.mp hall o ho
      exact Text.Utf8.octetsOf_eq (.inl (by omega)) (if_pos (by omega))
    rw [Http.Header.ofText, String.toList_ofList, Text.Utf8.encode, List.flatMap_map,
      List.flatMap_congr hone, List.flatMap_singleton']
  · cases hs

/-- The octets of a header that is a text may stand in a header. -/
theorem isValid_ofText {h : Http.Header} {s : String} (hs : h.text? = some s) (name : String) :
    (Http.Header.ofText name s).isValid = true := by
  rw [ofText_of_text? hs]
  unfold Http.Header.text? at hs
  split at hs
  · next hall =>
    refine List.all_eq_true.mpr fun o ho => ?_
    have hrange : o = 0x09 ∨ 0x20 ≤ o ∧ o < 0x7F := by
      simpa using List.all_eq_true.mp hall o ho
    have hallowed : o = 0x09 ∨ 0x20 ≤ o ∧ o ≠ 0x7F := by omega
    simpa [Http.Header.isAllowed] using hallowed
  · cases hs

/-- Whether a client can send has nothing to do with what it sends. -/
theorem Posts.canSend (h : c.Posts message q) : c.CanSend := by
  obtain ⟨url, hurl, hhost, hheaders, hsend, -⟩ := Http.makeRequest_eq_ok_iff.mp h
  exact fun _ => ⟨_, Http.makeRequest_eq_ok_iff.mpr ⟨url, hurl, hhost, hheaders, hsend, rfl⟩⟩

theorem Posts.body_eq (h : c.Posts message q) : q.body = some message := by
  obtain ⟨url, -, -, -, -, rfl⟩ := Http.makeRequest_eq_ok_iff.mp h
  rfl

/-- A client that can send can send after any answer. -/
theorem CanSend.hear (h : c.CanSend) (answer : Except Http.Trouble Http.Response) :
    (c.hear answer).CanSend := by
  rcases c.hear_cases answer with heq | ⟨header, session, htext, heq⟩
  · rw [heq]
    exact h
  · obtain ⟨q, hq⟩ := h .null
    obtain ⟨url, hurl, hhost, hheaders, hsend, -⟩ := Http.makeRequest_eq_ok_iff.mp hq
    rw [heq]
    intro message
    refine ⟨_, Http.makeRequest_eq_ok_iff.mpr ⟨url, hurl, hhost, fun x hx => ?_, hsend, rfl⟩⟩
    rcases List.mem_append.mp hx with hx | hx
    · exact hheaders x (List.mem_append_left _ hx)
    · obtain ⟨name, hname, rfl⟩ := List.mem_map.mp hx
      obtain rfl : session = name := Option.mem_toList.mp hname |> Option.some.inj
      exact isValid_ofText htext _

theorem CanSend.next (h : c.CanSend) : c.next.CanSend :=
  h

/-! ## What is sent -/

/-- A client that cannot send blames the server; one that can sends its message once. -/
theorem send_passes {x : Except Failure Http.Response}
    (h : (c.send method message).Passes log (x, c')) :
    (¬ c.CanSend ∧ log = [] ∧ c' = c ∧ ∃ detail, x = .error (.toolServer detail)) ∨
    ∃ q answer, c.Posts message q ∧ log = [⟨q, answer⟩] ∧ c' = c.hear answer ∧
      ((∃ r, Succeeds answer r ∧ x = .ok r) ∨
        (∀ r, ¬ Succeeds answer r) ∧ ∃ detail, x = .error (.toolServer detail)) := by
  obtain ⟨l₁, l₂, asked, rfl, hask, hrest⟩ := Exchange.passes_bind_iff.mp h
  rcases Exchange.passes_ask_iff.mp hask with
    ⟨fault, hfault, rfl, rfl⟩ | ⟨q, answer, hq, rfl, rfl⟩
  · obtain ⟨rfl, rfl, rfl⟩ := Exchange.passes_done_pair_iff.mp hrest
    refine .inl ⟨fun hsend => ?_, rfl, rfl, _, rfl⟩
    obtain ⟨q, hq⟩ := hsend message
    cases hfault.symm.trans hq
  · refine .inr ⟨q, answer, hq, ?_⟩
    rcases answer with trouble | r
    · obtain ⟨rfl, rfl, rfl⟩ := Exchange.passes_done_pair_iff.mp hrest
      exact ⟨rfl, rfl, .inr ⟨fun r hr => (nomatch hr.1), _, rfl⟩⟩
    · change (if r.isSuccess = true then _ else _ : Exchange _).Passes l₂ _ at hrest
      split at hrest
      · next hsuccess =>
        split at hrest
        · next hwhole =>
          obtain ⟨rfl, rfl, rfl⟩ := Exchange.passes_done_pair_iff.mp hrest
          exact ⟨rfl, (if_pos hsuccess).symm, .inl ⟨r, ⟨rfl, hsuccess, hwhole⟩, rfl⟩⟩
        · next hcut =>
          obtain ⟨rfl, rfl, rfl⟩ := Exchange.passes_done_pair_iff.mp hrest
          refine ⟨rfl, (if_pos hsuccess).symm, .inr ⟨?_, _, rfl⟩⟩
          rintro _ ⟨⟨⟩, -, hwhole⟩
          cases hcut.symm.trans hwhole
      · next hsuccess =>
        obtain ⟨rfl, rfl, rfl⟩ := Exchange.passes_done_pair_iff.mp hrest
        refine ⟨rfl, (if_neg hsuccess).symm, .inr ⟨?_, _, rfl⟩⟩
        rintro _ ⟨⟨⟩, hsuccess', -⟩
        exact hsuccess hsuccess'

/-- A response has a result for a request exactly if it holds an answer to it without an error. -/
theorem resultOf_cases (c : Client) (method : String) (id : Nat) (r : Http.Response) :
    (∃ a, Holds r id a ∧ a.error = none ∧ c.resultOf method id r = .ok (a.result.getD .null)) ∨
    (∀ a, Holds r id a → a.error ≠ none) ∧
      ∃ detail, c.resultOf method id r = .error (.toolServer detail) := by
  unfold resultOf
  split
  · next hnone =>
    refine .inr ⟨fun a ha => ?_, _, rfl⟩
    cases hnone.symm.trans (answer?_eq_some_iff.mpr ha)
  · next a hanswer =>
    split
    · next error herror =>
      refine .inr ⟨fun a' ha' => ?_, _, rfl⟩
      obtain rfl : a = a' := Option.some.inj (hanswer.symm.trans (answer?_eq_some_iff.mpr ha'))
      rw [herror]
      exact Option.some_ne_none _
    · next herror => exact .inl ⟨a, answer?_eq_some_iff.mp hanswer, herror, rfl⟩

/-- What comes of a request: it is sent with the next id, and its value is the one that the answer
serves it with; an answer that does not is blamed on the server. -/
inductive Asks (c : Client) (method : String) (params : Json) : Sent → Except Failure Json → Prop
    where
  | served {q : Http.Request} {answer : Except Http.Trouble Http.Response} {v : Json} :
      c.Posts (Rpc.request (some c.nextId) method params) q → Serves answer c.nextId v →
      Asks c method params ⟨q, answer⟩ (.ok v)
  | failed {q : Http.Request} {answer : Except Http.Trouble Http.Response} {detail : String} :
      c.Posts (Rpc.request (some c.nextId) method params) q → (∀ v, ¬ Serves answer c.nextId v) →
      Asks c method params ⟨q, answer⟩ (.error (.toolServer detail))

/-- **A request** of a client that can send is one message, and the id is used up. A client that
cannot send uses the id up as well. -/
theorem request_passes {x : Except Failure Json}
    (h : (c.request method params).Passes log (x, c')) :
    (¬ c.CanSend ∧ log = [] ∧ c' = c.next ∧ ∃ detail, x = .error (.toolServer detail)) ∨
    ∃ s, log = [s] ∧ c.Asks method params s x ∧ c' = c.next.hear s.answer := by
  obtain ⟨l₁, l₂, ⟨y, c₁⟩, rfl, hsend, hrest⟩ := Exchange.passes_bind_iff.mp h
  obtain ⟨rfl, rfl, rfl⟩ := Exchange.passes_done_pair_iff.mp hrest
  rcases send_passes hsend with ⟨hcannot, rfl, rfl, detail, rfl⟩ | ⟨q, answer, hq, rfl, rfl, hy⟩
  · exact .inl ⟨hcannot, rfl, rfl, detail, rfl⟩
  · refine .inr ⟨⟨q, answer⟩, rfl, ?_, rfl⟩
    rcases hy with ⟨r, hr, rfl⟩ | ⟨hno, detail, rfl⟩
    · rcases resultOf_cases (c.next.hear answer) method c.nextId r with
        ⟨a, ha, herror, hresult⟩ | ⟨hno, detail, hresult⟩
      · change c.Asks method params _ ((c.next.hear answer).resultOf method c.nextId r)
        rw [hresult]
        exact .served hq ⟨r, a, hr, ha, herror, rfl⟩
      · change c.Asks method params _ ((c.next.hear answer).resultOf method c.nextId r)
        rw [hresult]
        refine .failed hq ?_
        rintro v ⟨r', a, hr', ha, herror, -⟩
        obtain rfl : r = r' := Except.ok.inj (hr.1.symm.trans hr'.1)
        exact hno a ha herror
    · refine .failed hq ?_
      rintro v ⟨r, -, hr, -⟩
      exact hno r hr

end Client

end Dialogue.ToolServer
