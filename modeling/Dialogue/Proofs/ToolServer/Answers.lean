import Dialogue.Proofs.Json.Grammar
import Dialogue.Proofs.Json.Spacing
import Dialogue.Proofs.ToolServer.EventStream
import Dialogue.Proofs.ToolServer.Requests

/-!
# Answers in streams

A server may send its answer to a request as a text or as the payload of an event in a stream. The
payload is read line by line, each line without the blanks before it, which makes no difference to
a JSON text.

Main statement: `answer_of_stream`. The first payload that answers the request counts, and the
request then ends as if the payload were all that the server sent.
-/

namespace Dialogue.ToolServer

open Http (Network)

namespace EventStream

/-- An event with lines as they should be and a JSON text as its payload, if it has one. -/
structure Event.Valid (e : Event) : Prop where
  lines : ∀ l ∈ e, l.Valid
  payload : ∀ P, e.payload? = some P → Json.IsText P

end EventStream

open EventStream (Event HasLines Streams)

namespace Rpc.Response

theorem within_form : form.Within 16 := by
  have hinteger : Json.Form.integer.Within 8 := .integer (by decide)
  have htext : Json.Form.text.Within 8 := .text (by decide)
  have hany : Json.Form.Within 12 (.nullable .any) := .nullable (.any (by decide))
  have herror : Json.Form.Within 12 (.nullable errorForm) :=
    .nullable (@Json.Form.Within.record 8 _ [_, _] (by simp [hinteger, htext]))
  exact @Json.Form.Within.record 12 _ [_, _, _] (by simp [hany, herror])

/-- Texts in which the same values of the form stand are read alike. -/
theorem read?_eq {cs cs' : List Char}
    (h : ∀ v, Json.parseForm .characters form cs = .ok v ↔
      Json.parseForm .characters form cs' = .ok v) : read? cs = read? cs' := by
  unfold read?
  split
  · next v hv => rw [(h v).mp hv]
  · next hnone =>
    split
    · next v hv => rw [(h v).mpr hv] at hnone; cases hnone
    · rfl

/-- The blanks before its lines make no difference to a JSON text. -/
theorem read?_intercalate_trimStart {lines : List (List Char)} (hne : lines ≠ [])
    (h : Json.IsText (['\n'].intercalate lines)) :
    read? (['\n'].intercalate (lines.map Text.trimStart)) = read? (['\n'].intercalate lines) :=
  read?_eq fun _ => (Json.parseForm_eq_ok_iff_of_alike within_form (h.alike_trimStart hne)).symm

end Rpc.Response

/-- A text is an answer to the request with an id. -/
def Answers (text : List Char) (id : Nat) (a : Rpc.Response) : Prop :=
  Rpc.Response.read? text = some a ∧ a.id = some (.ofNat id)

/-- A text is the first one that is an answer to the request with an id. -/
def FirstAnswers (texts : List (List Char)) (id : Nat) (text : List Char) (a : Rpc.Response) :
    Prop :=
  Answers text id a ∧ ∃ before after, texts = before ++ text :: after ∧
    ∀ other ∈ before, ∀ b, ¬ Answers other id b

variable {events : List Event} {lines : List (List Char)} {body : List Char} {id : Nat}
  {a : Rpc.Response}

/-! ## Reading a stream -/

theorem EventStream.Event.Valid.bind_trimmed? {e : Event} (h : e.Valid) :
    e.trimmed?.bind Rpc.Response.read? = e.payload?.bind Rpc.Response.read? := by
  rw [Event.trimmed?, Event.payload?]
  cases htexts : e.filterMap EventStream.Line.data? with
  | nil => rfl
  | cons text texts =>
    have hpayload : e.payload? = some (['\n'].intercalate (text :: texts)) := by
      rw [Event.payload?, htexts]
      rfl
    exact Rpc.Response.read?_intercalate_trimStart (List.cons_ne_nil _ _) (h.payload _ hpayload)

/-- The responses in a stream are those in the payloads of its events. -/
theorem filterMap_read?_payloads (hbody : HasLines lines body) (h : Streams events lines)
    (hvalid : ∀ e ∈ events, e.Valid) :
    (EventStream.payloads body).filterMap Rpc.Response.read? =
      (events.filterMap Event.payload?).filterMap Rpc.Response.read? := by
  rw [EventStream.payloads_eq_filterMap hbody h fun e he => (hvalid e he).lines,
    List.filterMap_filterMap, List.filterMap_filterMap]
  exact List.filterMap_congr fun e he => (hvalid e he).bind_trimmed?

theorem any_answers_iff {text : List Char} :
    (Rpc.Response.read? text).any (·.answers id) = true ↔ ∃ a, Answers text id a := by
  simp only [Option.any_eq_true, Rpc.Response.answers_iff, Answers]

/-- The first response to a request is the one that the first answer holds. -/
theorem find?_answers_eq_some_iff {texts : List (List Char)} :
    (texts.filterMap Rpc.Response.read?).find? (·.answers id) = some a ↔
      ∃ text, FirstAnswers texts id text a := by
  rw [List.find?_filterMap, Option.bind_eq_some_iff]
  refine exists_congr fun text => ?_
  rw [List.find?_eq_some_iff_append, any_answers_iff]
  constructor
  · rintro ⟨⟨⟨b, hread, hid⟩, before, after, rfl, hbefore⟩, ha⟩
    obtain rfl : b = a := Option.some.inj (hread.symm.trans ha)
    refine ⟨⟨hread, hid⟩, before, after, rfl, fun other hother b hb => ?_⟩
    simpa [any_answers_iff.mpr ⟨b, hb⟩] using hbefore other hother
  · rintro ⟨ha, before, after, rfl, hbefore⟩
    refine ⟨⟨⟨a, ha⟩, before, after, rfl, fun other hother => ?_⟩, ha.1⟩
    rw [Bool.not_eq_true', ← Bool.not_eq_true, any_answers_iff]
    exact fun ⟨b, hb⟩ => hbefore other hother b hb

theorem find?_answers_eq_none_iff {texts : List (List Char)} :
    (texts.filterMap Rpc.Response.read?).find? (·.answers id) = none ↔
      ∀ text ∈ texts, ∀ a, ¬ Answers text id a := by
  simp only [List.find?_eq_none, List.mem_filterMap, Rpc.Response.answers_iff, Answers]
  grind

/-! ## Requests -/

namespace Client

variable {c : Client} {method : String} {params : Json} {r : Http.Response}

/-- The result in a response is the same whatever session the client is in. -/
theorem resultOf_heed (r' : Http.Response) :
    (c.heed r').resultOf method id r = c.resultOf method id r := by
  unfold heed
  split <;> rfl

/-- A message that can be sent brings the response, and it is heeded. -/
theorem run_send {ω : Type} {net : Network ω} {w : ω} (hnet : ∀ q, (net q w).1 = .ok r)
    (hsuccess : r.isSuccess = true) (hwhole : r.cutOff = none) (message : Json) :
    ((c.send method message).run net w).1 =
      match Http.makeRequest .post c.url c.headers (some message) with
      | .error e => (.error (c.failure (method ++ " failed: " ++ e.message)), c)
      | .ok _ => (.ok r, c.heed r) := by
  unfold send Http.Exchange.ask
  cases Http.makeRequest .post c.url c.headers (some message) with
  | error e => rfl
  | ok q =>
    simp only [Http.Exchange.bind_eq, Http.Exchange.bind, Http.Exchange.run, hnet, Except.mapError,
      hsuccess, hwhole, if_true, Http.Exchange.pure_eq]

/-- A request that is answered has the result of the answer, unless it cannot be sent. -/
theorem run_request {ω : Type} {net : Network ω} {w : ω} (hnet : ∀ q, (net q w).1 = .ok r)
    (hsuccess : r.isSuccess = true) (hwhole : r.cutOff = none) :
    ((c.request method params).run net w).1.1 =
      match Http.makeRequest .post c.url c.headers
        (some (Rpc.request (some c.nextId) method params)) with
      | .error e => .error (c.failure (method ++ " failed: " ++ e.message))
      | .ok _ => c.resultOf method c.nextId r := by
  let message := Rpc.request (some c.nextId) method params
  have hsend : ((c.next.send method message).run net w).1 =
      match Http.makeRequest .post c.url c.headers (some message) with
      | .error e => (.error (c.failure (method ++ " failed: " ++ e.message)), c.next)
      | .ok _ => (.ok r, c.next.heed r) :=
    run_send hnet hsuccess hwhole message
  change (((c.next.send method message).bind fun x =>
    .done (x.1.bind (x.2.resultOf method c.nextId), x.2)).run net w).1.1 = _
  rw [Http.Exchange.run_bind, Http.Exchange.run_done, hsend]
  cases Http.makeRequest .post c.url c.headers (some message) with
  | error e => rfl
  | ok q => exact resultOf_heed r

theorem resultOf_congr {r' : Http.Response} (h : answer? r id = answer? r' id) :
    c.resultOf method id r = c.resultOf method id r' := by
  rw [resultOf, h, resultOf]

end Client

/-- A response that succeeds brings a whole text, which is a stream of events or is not. -/
structure Brings (r : Http.Response) (stream : Bool) (text : List Char) : Prop where
  success : r.isSuccess = true
  whole : r.cutOff = none
  stream : Client.isEventStream r = stream
  text : r.text = text

/-- **An answer in a stream.** In a stream of events with JSON texts as payloads, the answer to a
request is what the first payload that is an answer to it decodes to, and there is none if no
payload is one. A request to which a server sends the stream has the same result as one to which it
sends that payload by itself. -/
theorem answer_of_stream (hbody : HasLines lines body) (h : Streams events lines)
    (hvalid : ∀ e ∈ events, e.Valid) (id : Nat) :
    (∀ a, Rpc.Response.inEvents? body id = some a ↔
      ∃ P, FirstAnswers (events.filterMap Event.payload?) id P a) ∧
    (Rpc.Response.inEvents? body id = none ↔
      ∀ P ∈ events.filterMap Event.payload?, ∀ a, ¬ Answers P id a) ∧
    ∀ (P : List Char) (a : Rpc.Response),
      FirstAnswers (events.filterMap Event.payload?) id P a →
      ∀ (c : Client) (method : String) (params : Json) (r r' : Http.Response), c.nextId = id →
      Brings r true body → Brings r' false P →
      ∀ (ω ω' : Type) (net : Network ω) (net' : Network ω') (w : ω) (w' : ω'),
      (∀ q, (net q w).1 = .ok r) → (∀ q, (net' q w').1 = .ok r') →
      ((c.request method params).run net w).1.1 = ((c.request method params).run net' w').1.1 := by
  have hreads : Rpc.Response.inEvents? body id =
      ((events.filterMap Event.payload?).filterMap Rpc.Response.read?).find? (·.answers id) := by
    rw [Rpc.Response.inEvents?, filterMap_read?_payloads hbody h hvalid]
  refine ⟨fun a => hreads ▸ find?_answers_eq_some_iff, hreads ▸ find?_answers_eq_none_iff, ?_⟩
  rintro P a hfirst c method params r r' rfl hr hr' ω ω' net net' w w' hnet hnet'
  have hstream : Client.answer? r c.nextId = some a := by
    rw [Client.answer?, hr.stream, if_pos rfl, hr.text, hreads]
    exact find?_answers_eq_some_iff.mpr ⟨P, hfirst⟩
  have htext : Client.answer? r' c.nextId = some a := by
    rw [Client.answer?, hr'.stream, if_neg Bool.false_ne_true, hr'.text, Rpc.Response.inText?,
      Option.filter_eq_some_iff]
    exact ⟨hfirst.1.1, Rpc.Response.answers_iff.mpr hfirst.1.2⟩
  rw [Client.run_request hnet hr.success hr.whole, Client.run_request hnet' hr'.success hr'.whole,
    Client.resultOf_congr (hstream.trans htext.symm)]

/-- A stream with mixed line ends, an answer to another request, and a payload over three lines of
which one is blank. -/
theorem answer_of_stream_over_lines :
    let body := ("event: message\ndata:\x7b\"id\":3\x7d\r\n\n\r\n" ++
      "id: 5\r\ndata: \x7b\"id\":\ndata:\r\ndata:\t7,\"result\":true\x7d\n").toList
    let P := "\x7b\"id\":\n\n\t7,\"result\":true\x7d".toList
    let c : Client := { Client.fresh "docs" "http://a/" with nextId := 7 }
    let r : Http.Response :=
      ⟨200, [.ofText "content-type" "text/event-stream"], Text.Utf8.encode body, none, none⟩
    let r' : Http.Response :=
      ⟨200, [.ofText "content-type" "application/json"], Text.Utf8.encode P, none, none⟩
    Rpc.Response.inEvents? body 7 = some ⟨some (.ofNat 7), some (.bool true), none⟩ ∧
    ((c.request "tools/list" (.obj [])).run (fun _ _ => (.ok r, ())) ()).1.1 =
      ((c.request "tools/list" (.obj [])).run (fun _ _ => (.ok r', ())) ()).1.1 := by
  intro body P c r r'
  let other : Event := [.note "event: message".toList, .data 0 "\x7b\"id\":3\x7d".toList]
  let event : Event := [.note "id: 5".toList, .data 1 "\x7b\"id\":".toList, .data 0 [],
    .data 0 "\t7,\"result\":true\x7d".toList]
  have hstreams : Streams [other, event] _ := .event other (.blank (.event event .nil))
  have hlines : HasLines _ body :=
    (congrArg (HasLines (other.map EventStream.Line.chars ++ [] :: [] ::
      (event.map EventStream.Line.chars ++ [[]]))) (by decide)).mp
    (.feed _ (.returnFeed _ (.feed _ (.returnFeed _ (.returnFeed _ (.feed _ (.returnFeed _
      (.feed _ (.last _)))))))))
  have hdigit (d : Char) (hd : Json.isDigit d = true) : Json.IsText [d] :=
    .number (@Json.IsNumber.mk [] [d] [] [] (.inl rfl) ⟨nofun, by simpa using hd⟩ (by simp)
      (.inl rfl) (.inl rfl))
  have hseven : Json.IsText "\n\n\t7".toList :=
    @Json.IsText.blank "\n\n\t".toList ['7'] [] (List.all_eq_true.mp rfl) (hdigit '7' rfl) nofun
  have hother : Json.IsText "\x7b\"id\":3\x7d".toList := by
    refine @Json.IsText.object [("\"id\"".toList, ['3'])] (by decide) ?_ ?_
    · exact List.forall_mem_singleton.mpr
        ⟨[], "id".toList, [], nofun, Json.isContent_of_plain (by decide), nofun, by decide⟩
    · exact List.forall_mem_singleton.mpr (hdigit '3' rfl)
  have hevent : Json.IsText P := by
    refine @Json.IsText.object [("\"id\"".toList, "\n\n\t7".toList),
      ("\"result\"".toList, "true".toList)] (by decide) ?_ ?_
    · refine List.forall_mem_cons.mpr ⟨?_, List.forall_mem_singleton.mpr ?_⟩
      · exact ⟨[], "id".toList, [], nofun, Json.isContent_of_plain (by decide), nofun, by decide⟩
      · exact ⟨[], "result".toList, [], nofun, Json.isContent_of_plain (by decide), nofun,
          by decide⟩
    · exact List.forall_mem_cons.mpr
        ⟨hseven, List.forall_mem_singleton.mpr (.literal (.inr (.inr rfl)))⟩
  have hvalid : ∀ e ∈ [other, event], e.Valid := by
    refine List.forall_mem_cons.mpr ⟨⟨by decide, ?_⟩, List.forall_mem_singleton.mpr ⟨by decide, ?_⟩⟩
    · rintro _ ⟨⟩
      exact hother
    · rintro _ ⟨⟩
      exact hevent
  have hfirst : FirstAnswers ([other, event].filterMap Event.payload?) 7 P
      ⟨some (.ofNat 7), some (.bool true), none⟩ := by
    refine ⟨⟨by decide +kernel, rfl⟩, ["\x7b\"id\":3\x7d".toList], [], by decide,
      List.forall_mem_singleton.mpr ?_⟩
    rintro b ⟨hread, hid⟩
    have hother : Rpc.Response.read? "\x7b\"id\":3\x7d".toList =
        some ⟨some (.ofNat 3), none, none⟩ := by
      decide +kernel
    obtain rfl := Option.some.inj (hother.symm.trans hread)
    exact absurd hid (by decide)
  obtain ⟨hsome, -, hrequest⟩ := answer_of_stream hlines hstreams hvalid 7
  refine ⟨(hsome _).mpr ⟨P, hfirst⟩, ?_⟩
  exact hrequest P _ hfirst c _ _ r r' rfl ⟨rfl, rfl, by decide, by decide +kernel⟩
    ⟨rfl, rfl, by decide, by decide +kernel⟩ _ _ _ _ _ _ (fun _ => rfl) (fun _ => rfl)

end Dialogue.ToolServer
