import Dialogue.Azure.Backend
import Dialogue.Proofs.Chat.Parsing
import Dialogue.Proofs.ToolServer.Echo

/-!
# What the answers of a service come to

Each request of an agent is one request of HTTP, which is never repeated, and what it comes to is
settled by the status and the body of the answer to it. `Classifies` says how: an answer that
reports success is read as a completion, and any other is a failure by its status, in the words of
the service if the body has some. So requests one after another do not influence each other,
whatever is answered.

The failures of misread answers (`Misread`) are not those of other answers, unless a service says of
itself what is said of a misread answer.

Main statement: `answers_of_requests`. Its step is `asks_complete` (one request), its run lemma
`asksAll_completeAll`.
-/

namespace Dialogue

/-- Asks a backend one request after another. -/
def Backend.completeAll {ω : Type} (b : Backend ω) : List Request → ω → List Answer × ω
  | [], w => ([], w)
  | r :: requests, w =>
    let (x, w) := b.complete r w
    let (xs, w) := b.completeAll requests w
    (x :: xs, w)

namespace Azure

open Http (Exchange Header Network Response Sent Trouble Url)

variable {deployment text : String} {a : Response} {x : Except Failure Completion} {e : Failure}

/-! ## What an answer comes to -/

/-- The service says something in an answer: the body is JSON, and the member `message` of its
member `error` is this string. -/
def Says (a : Response) (text : String) : Prop :=
  ∃ body error, a.json? = some body ∧ body.get? "error" = some error ∧
    error.get? "message" = some (.str text)

/-- How a failure is worded: as the service says, or else by the status. -/
inductive Words (a : Response) : String → Prop where
  | said {text : String} : Says a text → Words a text
  | unsaid : (∀ text, ¬ Says a text) → Words a (Http.statusLine a.status)

/-- What an answer comes to. A body that is no JSON is read as `null`. -/
inductive Classifies (deployment : String) (a : Response) : Except Failure Completion → Prop where
  | success {body : Json} : 200 ≤ a.status → a.status < 300 →
      (a.json? = some body ∨ a.json? = none ∧ body = .null) →
      Classifies deployment a (Chat.readCompletion body deployment)
  | unauthorized {text : String} : a.status = 401 ∨ a.status = 403 → Words a text →
      Classifies deployment a (.error (.unauthorized text))
  | rateLimited {text : String} : a.status = 429 → Words a text →
      Classifies deployment a (.error (.rateLimited text))
  | unavailable {text : String} : 500 ≤ a.status → a.status < 600 → Words a text →
      Classifies deployment a (.error (.backendUnavailable text))
  | other {text : String} : a.status < 200 ∨ 300 ≤ a.status →
      a.status ≠ 401 ∧ a.status ≠ 403 ∧ a.status ≠ 429 → a.status < 500 ∨ 600 ≤ a.status →
      Words a text → Classifies deployment a (.error (.backend text))

theorem isSuccess_iff : a.isSuccess = true ↔ 200 ≤ a.status ∧ a.status < 300 := by
  simp [Response.isSuccess]

theorem serviceText?_eq_some_iff : serviceText? a.json? = some text ↔ Says a text := by
  have htext (v : Json) : v.text? = some text ↔ v = .str text := by
    cases v <;> simp [Json.text?]
  simp only [serviceText?, Says, Option.bind_eq_bind, Option.bind_eq_some_iff, htext]
  constructor
  · rintro ⟨body, hbody, error, herror, v, hv, rfl⟩
    exact ⟨body, error, hbody, herror, hv⟩
  · rintro ⟨body, error, hbody, herror, hv⟩
    exact ⟨body, hbody, error, herror, _, hv, rfl⟩

theorem words_iff :
    Words a text ↔ text = (serviceText? a.json?).getD (Http.statusLine a.status) := by
  rcases hsays : serviceText? a.json? with _ | said
  · have hno (text : String) : ¬ Says a text := by
      rw [← serviceText?_eq_some_iff, hsays]
      exact (Option.some_ne_none _).symm
    constructor
    · rintro (htext | -)
      · exact absurd htext (hno _)
      · rfl
    · rintro rfl
      exact .unsaid hno
  · have hsaid := serviceText?_eq_some_iff.mp hsays
    constructor
    · rintro (htext | hno)
      · exact Option.some.inj ((serviceText?_eq_some_iff.mpr htext).symm.trans hsays)
      · exact absurd hsaid (hno said)
    · rintro rfl
      exact .said hsaid

theorem readAnswer_of_failed (h : a.status < 200 ∨ 300 ≤ a.status) (hwords : Words a text) :
    readAnswer deployment a = .error (
      if a.status = 401 ∨ a.status = 403 then .unauthorized text
      else if a.status = 429 then .rateLimited text
      else if 500 ≤ a.status ∧ a.status < 600 then .backendUnavailable text
      else .backend text) := by
  have hno : ¬ a.isSuccess = true := by
    rw [isSuccess_iff]
    omega
  rw [readAnswer, if_neg hno, words_iff.mp hwords]
  rfl

/-- Every answer comes to one thing, which is what the backend makes of it. -/
theorem classifies_iff : Classifies deployment a x ↔ x = readAnswer deployment a := by
  constructor
  · intro h
    cases h with
    | success hlow hhigh hbody =>
      rw [readAnswer, if_pos (isSuccess_iff.mpr ⟨hlow, hhigh⟩)]
      rcases hbody with hbody | ⟨hbody, rfl⟩
      · rw [hbody, Option.getD_some]
      · rw [hbody, Option.getD_none]
    | unauthorized hstatus hwords =>
      rw [readAnswer_of_failed (by omega) hwords, if_pos hstatus]
    | rateLimited hstatus hwords =>
      rw [readAnswer_of_failed (by omega) hwords, if_neg (by omega), if_pos hstatus]
    | unavailable hlow hhigh hwords =>
      rw [readAnswer_of_failed (by omega) hwords, if_neg (by omega), if_neg (by omega),
        if_pos ⟨hlow, hhigh⟩]
    | other hno _ _ hwords =>
      rw [readAnswer_of_failed hno hwords, if_neg (by omega), if_neg (by omega),
        if_neg (by omega)]
  · rintro rfl
    by_cases hsuccess : 200 ≤ a.status ∧ a.status < 300
    · rw [readAnswer, if_pos (isSuccess_iff.mpr hsuccess)]
      refine .success hsuccess.1 hsuccess.2 ?_
      rcases a.json? with _ | body
      · exact .inr ⟨rfl, rfl⟩
      · exact .inl rfl
    · have hwords : Words a _ := words_iff.mpr rfl
      rw [readAnswer_of_failed (by omega) hwords]
      split
      · next hstatus => exact .unauthorized hstatus hwords
      · split
        · next hstatus => exact .rateLimited hstatus hwords
        · split
          · next hrange => exact .unavailable hrange.1 hrange.2 hwords
          · exact .other (by omega) (by omega) (by omega) hwords

/-! ## Misread answers -/

/-- The failures of answers that report success and are misread: the body has not the form of a
response, has no choice in it, or has a call whose arguments stand for nothing. -/
inductive Misread : Failure → Prop where
  | shape {detail : String} : Misread (.backend ("Unexpected response shape: " ++ detail))
  | noChoice : Misread (.backend "Response contained no choices")
  | arguments {tool detail : String} :
      Misread (.unreadable ("Invalid arguments for tool '" ++ tool ++ "': " ++ detail))

theorem misread_of_toCall {w : Chat.WireCall} (h : w.toCall = .error e) : Misread e := by
  unfold Chat.WireCall.toCall at h
  split at h
  · cases h
  · cases h
    exact .arguments

theorem misread_of_mapM_toCall {wires : List Chat.WireCall}
    (h : wires.mapM Chat.WireCall.toCall = .error e) : Misread e := by
  induction wires with
  | nil => cases h
  | cons w wires ih =>
    rw [List.mapM_cons] at h
    rcases hw : w.toCall with e' | call
    · rw [hw] at h
      cases h
      exact misread_of_toCall hw
    · rcases hwires : wires.mapM Chat.WireCall.toCall with e' | calls
      · rw [hw, hwires] at h
        cases h
        exact ih hwires
      · rw [hw, hwires] at h
        cases h

theorem misread_of_readCompletion {body : Json}
    (h : Chat.readCompletion body deployment = .error e) : Misread e := by
  unfold Chat.readCompletion at h
  split at h
  · next r _ =>
    rcases hchoices : r.choices with _ | ⟨first, rest⟩
    · rw [Chat.Response.toCompletion, hchoices] at h
      cases h
      exact .noChoice
    · rw [Chat.toCompletion_cons hchoices] at h
      rcases hcalls : (first.calls.getD []).mapM Chat.WireCall.toCall with e' | calls
      · rw [hcalls] at h
        cases h
        exact misread_of_mapM_toCall hcalls
      · rw [hcalls] at h
        cases h
  · cases h
    exact .shape

/-- What is said by the status alone begins with a digit. -/
theorem isDigit_of_head?_statusLine {status : Nat} {c : Char}
    (h : (Http.statusLine status).toList.head? = some c) : c.isDigit = true := by
  obtain ⟨reason, hline⟩ : ∃ reason : String, Http.statusLine status =
      toString status ++ (" " ++ reason) := ⟨_, String.append_assoc ..⟩
  have hdigits : (toString status).toList = Nat.toDigits 10 status := by simp
  rw [hline, String.toList_append, hdigits,
    List.head?_append_of_ne_nil _ Nat.toDigits_ne_nil] at h
  exact Nat.isDigit_of_mem_toDigits (by decide) (by decide) (List.mem_of_head? h)

theorem Misread.head? (h : Misread (.backend text)) :
    ∃ c, text.toList.head? = some c ∧ c.isDigit = false := by
  generalize he : Failure.backend text = e at h
  cases h with
  | shape =>
    cases he
    exact ⟨'U', by rw [String.toList_append]; rfl, by decide⟩
  | noChoice =>
    cases he
    exact ⟨'R', rfl, by decide⟩
  | arguments => cases he

/-- A failure of an answer that reports success is that of a misread one. -/
theorem Classifies.misread (h : Classifies deployment a (.error e))
    (hsuccess : a.isSuccess = true) : Misread e := by
  rw [classifies_iff, readAnswer, if_pos hsuccess] at h
  exact misread_of_readCompletion h.symm

/-- An answer that reports no success is a failure, and this is not the failure of a misread answer
unless the service says so. -/
theorem Classifies.says_of_misread (h : Classifies deployment a x) (hno : a.isSuccess = false) :
    ∃ e, x = .error e ∧ (Misread e → ∃ text, e = .backend text ∧ Says a text) := by
  cases h with
  | success hlow hhigh _ =>
    rw [isSuccess_iff.mpr ⟨hlow, hhigh⟩] at hno
    cases hno
  | unauthorized _ _ => exact ⟨_, rfl, nofun⟩
  | rateLimited _ _ => exact ⟨_, rfl, nofun⟩
  | unavailable _ _ _ => exact ⟨_, rfl, nofun⟩
  | other _ _ _ hwords =>
    refine ⟨_, rfl, fun hmisread => ?_⟩
    cases hwords with
    | said hsays => exact ⟨_, rfl, hsays⟩
    | unsaid _ =>
      obtain ⟨c, hhead, hdigit⟩ := hmisread.head?
      rw [isDigit_of_head?_statusLine hhead] at hdigit
      cases hdigit

/-! ## One request -/

/-- The header of a key, or of a token that was issued beforehand. -/
def Auth.fixed? : Auth → Option Header
  | .apiKey key => some (.ofText "api-key" key)
  | .bearer (.issued token) => some (.ofText "authorization" ("Bearer " ++ token))
  | .bearer .commandLine => none

/-- Where requests to an address go, if they can be sent there. -/
def Leads (address : String) (url : Url) : Prop :=
  ∃ written, Url.read? address = some written ∧ written.hasHost = true ∧
    written.withoutUser.isSendable = true ∧ url = written.withoutUser

/-- What comes of a request: it is posted once, with these headers and with its body, and the answer
settles what it comes to. -/
structure Asks (d : Deployment) (header : Header) (url : Url) (r : Request) (s : Sent)
    (x : Answer) : Prop where
  request : s.request = ⟨.post, url, [.ofText "content-type" "application/json", header],
    some (Chat.requestBody r)⟩
  answered : ∀ a, s.answer = .ok a → Classifies d.name a x.result
  unanswered : ∀ trouble, s.answer = .error trouble →
    x.result = .error (failureOfFault (.trouble trouble url))
  delay : x.delay = 0

/-- What comes of requests one after another: each is posted once, and each comes to what its own
answer settles. -/
inductive AsksAll (d : Deployment) (header : Header) (url : Url) :
    List Request → List Sent → List Answer → Prop where
  | nil : AsksAll d header url [] [] []
  | cons {r : Request} {s : Sent} {x : Answer} {requests : List Request} {log : List Sent}
      {answers : List Answer} : Asks d header url r s x →
      AsksAll d header url requests log answers →
      AsksAll d header url (r :: requests) (s :: log) (x :: answers)

section

variable {ω : Type} {outside : Outside ω} {d : Deployment} {auth : Auth} {header : Header}
  {url : Url} {r : Request}

theorem header_of_fixed? (h : auth.fixed? = some header) (w : World ω) :
    auth.header outside w = (.granted header, w) := by
  rcases auth with key | token | -
  · cases h
    rfl
  · cases h
    rfl
  · cases h

theorem complete_of_fixed? (h : auth.fixed? = some header) (w : World ω) :
    (backend outside d auth).complete r w =
      (⟨((complete d header r).run outside.network w.outside).1, 0⟩,
        { w with outside := ((complete d header r).run outside.network w.outside).2 }) := by
  simp only [backend, header_of_fixed? h, World.exchange]

/-- What a request comes to when it is sent. -/
def outcomeOf (d : Deployment) (url : Url) : Except Trouble Response → Except Failure Completion
  | .ok a => readAnswer d.name a
  | .error trouble => .error (failureOfFault (.trouble trouble url))

/-- A request is one message if requests can be sent to the service. -/
theorem complete_of_leads (hurl : Leads d.chatUrl url) (hvalid : header.isValid = true) :
    complete d header r = .send ⟨.post, url, [.ofText "content-type" "application/json", header],
      some (Chat.requestBody r)⟩ fun answer => .done (outcomeOf d url answer) := by
  obtain ⟨written, hread, hhost, hsend, rfl⟩ := hurl
  have hkind : (Header.ofText "content-type" "application/json").isValid = true := by
    decide +kernel
  have hmake : Http.makeRequest .post d.chatUrl
      [.ofText "content-type" "application/json", header] (some (Chat.requestBody r)) =
      .ok ⟨.post, written.withoutUser, _, _⟩ :=
    Http.makeRequest_eq_ok_iff.mpr ⟨written, hread, hhost, by simp [hkind, hvalid], hsend, rfl⟩
  rw [complete, Exchange.ask, hmake]
  refine congrArg (Exchange.send _) (funext fun answer => ?_)
  rcases answer with trouble | a <;> rfl

/-- A request that cannot be made is not a matter of whether the service is there. -/
theorem isAway_of_makeRequest {method : Http.Method} {address : String} {headers : List Header}
    {body : Option Json} {fault : Http.Fault}
    (h : Http.makeRequest method address headers body = .error fault) : fault.isAway = false := by
  unfold Http.makeRequest at h
  repeat' split at h
  all_goals cases h
  all_goals rfl

/-- Nothing is sent if requests cannot be sent to the service. -/
theorem complete_of_not_leads (hurl : ∀ url, ¬ Leads d.chatUrl url) (header : Header)
    (r : Request) : ∃ detail, complete d header r = .done (.error (.backend detail)) := by
  rcases hmake : Http.makeRequest .post d.chatUrl
      [.ofText "content-type" "application/json", header] (some (Chat.requestBody r)) with fault | q
  · refine ⟨fault.message, ?_⟩
    rw [complete, Exchange.ask, hmake]
    simp only [Exchange.bind_eq, Exchange.done_bind, Exchange.pure_eq, failureOfFault,
      isAway_of_makeRequest hmake, Bool.false_eq_true, if_false]
  · obtain ⟨written, hread, hhost, -, hsend, -⟩ := Http.makeRequest_eq_ok_iff.mp hmake
    exact absurd ⟨written, hread, hhost, hsend, rfl⟩ (hurl _)

end

section

variable {ω : Type} {net : Network ω} {outside : Outside (ω × List Sent)} {d : Deployment}
  {auth : Auth} {header : Header} {url : Url} {requests : List Request}
  {w : World (ω × List Sent)}

/-- **A step.** A request is posted once, and the answer to it settles what it comes to. -/
theorem asks_complete (hnet : outside.network = net.recorded) (hauth : auth.fixed? = some header)
    (hvalid : header.isValid = true) (hurl : Leads d.chatUrl url) (r : Request)
    (w : World (ω × List Sent)) :
    ∃ s, ((backend outside d auth).complete r w).2.outside.2 = w.outside.2 ++ [s] ∧
      Asks d header url r s ((backend outside d auth).complete r w).1 := by
  let q : Http.Request := ⟨.post, url, [.ofText "content-type" "application/json", header],
    some (Chat.requestBody r)⟩
  have hstep : (backend outside d auth).complete r w =
      (⟨outcomeOf d url (net q w.outside.1).1, 0⟩, { w with
        outside := ((net q w.outside.1).2, w.outside.2 ++ [⟨q, (net q w.outside.1).1⟩]) }) := by
    rw [complete_of_fixed? hauth, hnet, complete_of_leads hurl hvalid]
    rfl
  rw [hstep]
  refine ⟨⟨q, (net q w.outside.1).1⟩, rfl, rfl, fun a ha => ?_, fun trouble htrouble => ?_, rfl⟩
  · exact classifies_iff.mpr (congrArg (outcomeOf d url) ha)
  · exact congrArg (outcomeOf d url) htrouble

/-- **A run.** Requests one after another are posted once each, and the answer to each settles what
it comes to. -/
theorem asksAll_completeAll (hnet : outside.network = net.recorded)
    (hauth : auth.fixed? = some header) (hvalid : header.isValid = true)
    (hurl : Leads d.chatUrl url) (requests : List Request) (w : World (ω × List Sent)) :
    ∃ log, ((backend outside d auth).completeAll requests w).2.outside.2 = w.outside.2 ++ log ∧
      AsksAll d header url requests log ((backend outside d auth).completeAll requests w).1 := by
  induction requests generalizing w with
  | nil => exact ⟨[], (List.append_nil _).symm, .nil⟩
  | cons r requests ih =>
    obtain ⟨s, hs, hasks⟩ := asks_complete hnet hauth hvalid hurl r w
    obtain ⟨log, hlog, hall⟩ := ih ((backend outside d auth).complete r w).2
    refine ⟨s :: log, ?_, .cons hasks hall⟩
    rw [List.append_cons, ← hs]
    exact hlog

/-- Nothing is sent if requests cannot be sent to the service, and each of them fails. -/
theorem completeAll_of_not_leads (hauth : auth.fixed? = some header)
    (hurl : ∀ url, ¬ Leads d.chatUrl url) :
    ((backend outside d auth).completeAll requests w).2 = w ∧
      List.Forall₂ (fun _ x => ∃ detail, x.result = .error (.backend detail)) requests
        ((backend outside d auth).completeAll requests w).1 := by
  induction requests with
  | nil => exact ⟨rfl, .nil⟩
  | cons r requests ih =>
    obtain ⟨detail, hdone⟩ := complete_of_not_leads hurl header r
    have hstep : (backend outside d auth).complete r w = (⟨.error (.backend detail), 0⟩, w) := by
      rw [complete_of_fixed? hauth, hdone]
      rfl
    rw [Backend.completeAll, hstep]
    exact ⟨ih.1, .cons ⟨detail, rfl⟩ ih.2⟩

/-- **The answers of a service** to requests one after another, whatever it answers, on a network
that keeps a record of what is sent. If requests can be sent to its address, each of them is posted
once, with its body, and comes to what the answer to it settles by its status and its body, and
nothing else; otherwise nothing is sent, and each request fails. An answer comes to one thing. If it
reports success, then it is misread if it is a failure, and it is one if its body is no JSON; and no
other answer is a completion, or the failure of a misread answer unless the service says of itself
what is said of those. -/
theorem answers_of_requests (net : Network ω) (hnet : outside.network = net.recorded)
    (d : Deployment) (hauth : auth.fixed? = some header) (hvalid : header.isValid = true)
    (requests : List Request) (w : World (ω × List Sent)) :
    let run := (backend outside d auth).completeAll requests w
    (∀ url, Leads d.chatUrl url → ∃ log, run.2.outside.2 = w.outside.2 ++ log ∧
      AsksAll d header url requests log run.1) ∧
    ((∀ url, ¬ Leads d.chatUrl url) → run.2 = w ∧ List.Forall₂
      (fun _ x => ∃ detail, x.result = .error (.backend detail)) requests run.1) ∧
    ∀ a : Response, (∃! x, Classifies d.name a x) ∧
      (a.isSuccess = true →
        (∀ e, Classifies d.name a (.error e) → Misread e) ∧
        (a.json? = none → ∃ detail, Classifies d.name a
          (.error (.backend ("Unexpected response shape: " ++ detail))))) ∧
      (a.isSuccess = false → ∃ e, Classifies d.name a (.error e) ∧
        (Misread e → ∃ text, e = .backend text ∧ Says a text)) := by
  refine ⟨fun url hurl => asksAll_completeAll hnet hauth hvalid hurl requests w,
    fun hurl => completeAll_of_not_leads hauth hurl, fun a => ?_⟩
  have hall : Classifies d.name a (readAnswer d.name a) := classifies_iff.mpr rfl
  refine ⟨⟨_, hall, fun x hx => classifies_iff.mp hx⟩,
    fun hsuccess => ⟨fun e he => he.misread hsuccess, fun hnone => ?_⟩, fun hno => ?_⟩
  · rw [readAnswer, if_pos hsuccess, hnone] at hall
    exact ⟨_, hall⟩
  · obtain ⟨e, he, hsays⟩ := hall.says_of_misread hno
    exact ⟨e, he ▸ hall, hsays⟩

/-- A service is too busy for the first request, and answers the second one with no JSON. -/
theorem answers_of_requests_busy :
    let busy := "\x7b\"error\":\x7b\"message\":\"slow down\"\x7d\x7d"
    let answers : List (Except Trouble Response) :=
      [.ok ⟨429, [], busy.toList.map Char.toNat, none, none⟩, .ok ⟨200, [], [0x3C], none, none⟩]
    let outside : Outside (List (Except Trouble Response) × List Sent) :=
      ⟨ToolServer.inTurn.recorded, fun _ w => (.notStarted "no such command", w),
        fun _ => .start, .fixed 0⟩
    let r : Request := ⟨[.plain .start .human "hi"], [], .unset⟩
    ∃ detail, ((backend outside ⟨"http://a", "gpt", "v"⟩ (.apiKey "k")).completeAll [r, r]
        (.initial (answers, []))).1.map (·.result) =
      [.error (.rateLimited "slow down"),
        .error (.backend ("Unexpected response shape: " ++ detail))] := by
  intro busy answers outside r
  let d : Deployment := ⟨"http://a", "gpt", "v"⟩
  let w : World (List (Except Trouble Response) × List Sent) := .initial (answers, [])
  obtain ⟨hrun, -, hclassified⟩ := answers_of_requests ToolServer.inTurn
    (show outside.network = _ from rfl) d
    (show (Auth.apiKey "k").fixed? = some (.ofText "api-key" "k") from rfl) (by decide +kernel)
    [r, r] w
  have hleads : ∃ url, Leads d.chatUrl url :=
    ⟨_, (Url.read? d.chatUrl).get (by decide +kernel), (Option.some_get _).symm,
      by decide +kernel, by decide +kernel, rfl⟩
  obtain ⟨url, hurl⟩ := hleads
  obtain ⟨log, hlog, hall⟩ := hrun url hurl
  have hanswers : (((backend outside d (.apiKey "k")).completeAll [r, r] w).2.outside.2).map
      (·.answer) = answers := by decide +kernel
  rw [hlog] at hanswers
  change ∃ detail, ((backend outside d (.apiKey "k")).completeAll [r, r] w).1.map (·.result) = _
  generalize ((backend outside d (.apiKey "k")).completeAll [r, r] w).1 = xs at hall ⊢
  obtain _ | ⟨hfirst, _ | ⟨hsecond, _ | _⟩⟩ := hall
  next s₁ x₁ s₂ x₂ =>
    obtain ⟨h₁, h₂⟩ := List.cons.inj (show [s₁.answer, s₂.answer] = answers from hanswers)
    have hbusy := classifies_iff.mp (hfirst.answered _ h₁)
    have hnoJson := hsecond.answered _ (List.head_eq_of_cons_eq h₂)
    obtain ⟨hunique, hsuccess, -⟩ := hclassified ⟨200, [], [0x3C], none, none⟩
    obtain ⟨detail, hdetail⟩ := (hsuccess rfl).2 (by decide +kernel)
    refine ⟨detail, ?_⟩
    rw [List.map_cons, hbusy, List.map_cons, hunique.unique hnoJson hdetail]
    exact congrArg (· :: _) (by decide +kernel)

end

/-- A service that finds no deployment says of itself what is said of an answer without a choice,
and the two answers come to the same. At an address that is none, nothing is sent. -/
theorem not_answers_apart :
    let missing := "\x7b\"error\":\x7b\"message\":\"Response contained no choices\"\x7d\x7d"
    let failed : Response := ⟨404, [], missing.toList.map Char.toNat, none, none⟩
    let misread : Response := ⟨200, [], "\x7b\"choices\":[]\x7d".toList.map Char.toNat, none, none⟩
    let outside : Outside (Unit × List Sent) :=
      ⟨Network.offline.recorded, fun _ w => (.notStarted "no such command", w), fun _ => .start,
        .fixed 0⟩
    let r : Request := ⟨[.plain .start .human "hi"], [], .unset⟩
    (failed.isSuccess = false ∧ misread.isSuccess = true ∧
      ∃ e, Misread e ∧ Classifies "gpt" failed (.error e) ∧ Classifies "gpt" misread (.error e)) ∧
    ((backend outside ⟨"nowhere", "gpt", "v"⟩ (.apiKey "k")).complete r
      (.initial ((), []))).2.outside.2 = [] := by
  intro missing failed misread outside r
  have hfailed : readAnswer "gpt" failed = .error (.backend "Response contained no choices") := by
    decide +kernel
  have hmisread : readAnswer "gpt" misread = .error (.backend "Response contained no choices") := by
    decide +kernel
  refine ⟨⟨rfl, rfl, _, .noChoice, ?_, ?_⟩, by decide +kernel⟩
  · exact classifies_iff.mpr hfailed.symm
  · exact classifies_iff.mpr hmisread.symm

end Azure

end Dialogue
