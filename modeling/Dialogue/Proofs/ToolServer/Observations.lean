import Dialogue.Proofs.Json.Shapes
import Dialogue.Proofs.ToolServer.Paging
import Mathlib.Algebra.Order.BigOperators.Group.List

/-!
# What calls of tools of servers observe

The result of a call has parts of several kinds. What is observed are the texts of all parts that
have one, whatever their kinds, although only parts of the kind `text` are meant to have a text that
counts. `Shows` says what a call comes to when this or that text is taken for its result; the text
that is taken and the text that is meant are the same only if no other part has a text, or if one
part has a text and that text is empty (`text_eq_proseText_iff`).

Main statement: `observation_of_call`; `not_observes_prose` is a call that observes what it should
not.
-/

namespace Dialogue.ToolServer

open Http (Exchange Network Sent)
open Json

/-! ## The form of results -/

/-- A part. Its text may be missing or `null`. -/
structure IsPart (v : Json) (p : Part) : Prop where
  record : v.IsRecord 2
  kind : v.fieldAt "type" 0 = some (.str p.kind)
  text : Perhaps (fun v s => v = .str s) (v.fieldAt "text" 1) p.text

/-- A result. Parts may be missing, and there are none then; a result is none of an error unless it
says so. -/
structure IsCallResult (v : Json) (r : CallResult) : Prop where
  record : v.IsRecord 3
  parts : v.fieldAt "content" 0 = none ∧ r.parts = [] ∨
    ∃ content, v.fieldAt "content" 0 = some content ∧ ListOf IsPart content r.parts
  structured : Perhaps Eq (v.fieldAt "structuredContent" 1) r.structured
  isError : v.fieldAt "isError" 2 = none ∧ r.isError = false ∨
    v.fieldAt "isError" 2 = some (.bool r.isError)

theorem accepts_part : Accepts CallResult.decodePart IsPart := by
  rintro v ⟨kind, text⟩
  refine (Record.decoder_two_eq_ok_iff (Record.reads_field "type" .string none 0)
    (Record.reads_field "text" _ (some none) 1) Part.mk _ v _).trans ?_
  simp only [accepts_string.fieldFits_required, accepts_string.fieldFits_optional]
  constructor
  · rintro ⟨hrecord, _, _, ⟨_, hkind, rfl⟩, htext, ⟨⟩⟩
    exact ⟨hrecord, hkind, htext⟩
  · rintro ⟨hrecord, hkind, htext⟩
    exact ⟨hrecord, _, _, ⟨_, hkind, rfl⟩, htext, rfl⟩

theorem accepts_callResult : Accepts CallResult.decode IsCallResult := by
  rintro v ⟨parts, structured, isError⟩
  refine (Record.decoder_three_eq_ok_iff (Record.reads_field "content" _ (some []) 0)
    (Record.reads_field "structuredContent" _ (some none) 1)
    (Record.reads_field "isError" _ (some false) 2) CallResult.mk _ v _).trans ?_
  simp only [accepts_part.list.fieldFits_default, accepts_any.fieldFits_optional,
    accepts_boolean.fieldFits_default]
  constructor
  · rintro ⟨hrecord, _, _, _, hparts, hstructured, hisError, ⟨⟩⟩
    refine ⟨hrecord, hparts, hstructured, hisError.imp_right ?_⟩
    rintro ⟨_, hfield, rfl⟩
    exact hfield
  · rintro ⟨hrecord, hparts, hstructured, hisError⟩
    exact ⟨hrecord, _, _, _, hparts, hstructured, hisError.imp_right fun h => ⟨_, h, rfl⟩, rfl⟩

/-! ## The text that is taken and the text that is meant -/

/-- The number of characters that lines take, with a line feed after each of them. -/
def spaceOf (lines : List String) : Nat :=
  (lines.map String.length).sum + lines.length

/-- Lines one below the other lack the line feed after the last one. -/
theorem length_intercalate {lines : List String} (h : lines ≠ []) :
    ("\n".intercalate lines).length + 1 = spaceOf lines := by
  induction lines with
  | nil => exact absurd rfl h
  | cons line lines ih =>
    rcases lines with _ | ⟨next, lines⟩
    · simp [spaceOf]
    · have hrest := ih (List.cons_ne_nil _ _)
      have hfeed : "\n".length = 1 := rfl
      rw [String.intercalate_cons_cons, String.length_append, String.length_append, hfeed,
        Nat.add_assoc _ _ 1, hrest]
      simp only [spaceOf, List.map_cons, List.sum_cons, List.length_cons]
      omega

/-- Lines that make up the same text as some of them are all of them, unless there is nothing but
one empty line. -/
theorem eq_of_intercalate_eq {some all : List String} (hsub : some.Sublist all)
    (h : "\n".intercalate all = "\n".intercalate some) : some = all ∨ all = [""] := by
  rcases eq_or_ne all [] with rfl | hall
  · exact .inl (List.sublist_nil.mp hsub)
  have hspace := length_intercalate hall
  rcases eq_or_ne some [] with rfl | hsome
  · rw [h] at hspace
    right
    rcases all with _ | ⟨line, _ | ⟨next, rest⟩⟩
    · exact absurd rfl hall
    · simpa [spaceOf] using hspace
    · simp [spaceOf] at hspace
      omega
  · left
    rw [h, length_intercalate hsome] at hspace
    have hsum := (hsub.map String.length).sum_le_sum fun _ _ => Nat.zero_le _
    have hlength := hsub.length_le
    refine hsub.eq_of_length ?_
    unfold spaceOf at hspace
    omega

namespace CallResult

variable {r : CallResult}

/-- The texts of the parts of the kind `text`. -/
def prose (parts : List Part) : List String :=
  parts.filterMap fun p => if p.kind = "text" then p.text else none

/-- The texts of the parts of the kind `text`, one below the other. -/
def proseText (r : CallResult) : String :=
  "\n".intercalate (prose r.parts)

theorem prose_sublist (parts : List Part) : (prose parts).Sublist (parts.filterMap (·.text)) := by
  induction parts with
  | nil => exact .slnil
  | cons p parts ih =>
    unfold prose at *
    rcases htext : p.text with _ | text
    · simpa [htext] using ih
    · by_cases hkind : p.kind = "text"
      · simpa [htext, hkind] using ih
      · simpa [htext, hkind] using ih.cons text

theorem prose_eq_iff {parts : List Part} :
    prose parts = parts.filterMap (·.text) ↔ ∀ p ∈ parts, p.text ≠ none → p.kind = "text" := by
  induction parts with
  | nil => simp [prose]
  | cons p parts ih =>
    rw [List.forall_mem_cons, ← ih]
    rcases htext : p.text with _ | text
    · simp [prose, htext]
    · by_cases hkind : p.kind = "text"
      · simp [prose, htext, hkind]
      · have hskip : prose (p :: parts) = prose parts := by simp [prose, hkind]
        refine iff_of_false (fun h => ?_) fun h => hkind (h.1 (Option.some_ne_none _))
        -- There is one text more than those of the kind.
        have hlength := (prose_sublist parts).length_le
        rw [← hskip, h, List.filterMap_cons_some htext, List.length_cons] at hlength
        exact absurd hlength (Nat.not_succ_le_self _)

/-- The text of a result is the one that is meant only if no other part has a text, or if one part
has a text and that text is empty. -/
theorem text_eq_proseText_iff :
    r.text = r.proseText ↔
      (∀ p ∈ r.parts, p.text ≠ none → p.kind = "text") ∨ r.parts.filterMap (·.text) = [""] := by
  have hsub := prose_sublist r.parts
  rw [← prose_eq_iff]
  constructor
  · exact eq_of_intercalate_eq hsub
  · rintro (hall | hone)
    · rw [text, proseText, hall]
    · rw [hone, List.sublist_singleton] at hsub
      rw [text, proseText, hone]
      rcases hsub with hnone | hsame
      · rw [hnone]
        rfl
      · rw [hsame]

/-- What a call of a tool comes to when a text is taken for its result. -/
def showing (r : CallResult) (tool text : String) : Except Failure Observation :=
  if r.isError then .error (.toolFailed (tool ++ ": " ++ text)) else .ok ⟨tool, text, r.structured⟩

theorem isError_of_observe {tool : String} {o : Observation} (h : r.observe tool = .ok o) :
    r.isError = false := by
  unfold observe at h
  split at h
  · cases h
  · next hobserved => exact Bool.eq_false_iff.mpr hobserved

/-- No two texts are shown alike. -/
theorem showing_inj {tool text text' : String} :
    r.showing tool text = r.showing tool text' ↔ text = text' := by
  unfold showing
  split <;> simp

end CallResult

/-! ## What a client makes of the answer to a call -/

namespace Client

variable {c c' : Client} {call : Call} {s : Sent} {log : List Sent} {v : Json}

theorem name_hear (answer : Except Http.Trouble Http.Response) : (c.hear answer).name = c.name := by
  rcases c.hear_cases answer with h | ⟨_, _, _, h⟩ <;> rw [h]

theorem Talks.name_eq (h : c.Talks log c') : c'.name = c.name := by
  induction h with
  | nil => rfl
  | next _ ih => exact ih
  | send _ _ ih => rw [ih, name_hear]

/-- A client keeps the name of its server. -/
theorem SpeaksWith.name_eq {name url : String} (h : c.SpeaksWith name url) : c.name = name := by
  obtain ⟨opening, c₀, acts, hopens, hacts⟩ := h
  obtain ⟨c₁, htalks, hc₁⟩ := hopens.talks
  rw [hacts.talks.name_eq, hc₁ c₀ rfl, htalks.name_eq]
  rfl

/-- The result of a call that the answer to it has. -/
def callResultOf (c : Client) (s : Sent) : Except Failure CallResult :=
  (c.valueOf "tools/call" s).bind fun v =>
    (CallResult.decode v).mapError fun e => c.failure ("invalid tools/call result: " ++ e.message)

/-- A call is one message, and the answer says what comes of it. -/
theorem call_passes {x : Except Failure CallResult}
    (h : (c.call call.name call.arguments).Passes log (x, c')) (hsend : c.CanSend) :
    ∃ s, log = [s] ∧ CallsTool c.url c.nextId call s ∧ x = c.callResultOf s := by
  obtain ⟨l₁, l₂, ⟨y, c₁⟩, rfl, hrequest, hread⟩ := Exchange.passes_bind_iff.mp h
  obtain ⟨rfl, rfl, rfl⟩ := Exchange.passes_done_pair_iff.mp hread
  obtain ⟨s, rfl, hposts, rfl, rfl⟩ := request_passes_valueOf hrequest hsend
  simp only [failure_hear]
  exact ⟨s, rfl, hposts.callsTool, rfl⟩

theorem callResultOf_eq_ok_iff {r : CallResult} :
    c.callResultOf s = .ok r ↔ ∃ v, Serves s.answer c.nextId v ∧ IsCallResult v r := by
  rw [callResultOf, valueOf_bind_eq_ok_iff]
  exact exists_congr fun v => and_congr_right fun _ =>
    mapError_eq_ok_iff.trans (accepts_callResult v r)

/-- A value that has not the form of a result is blamed on the server. -/
theorem callResultOf_of_misread (hserves : Serves s.answer c.nextId v)
    (hno : ¬ ∃ r, IsCallResult v r) :
    ∃ fault, CallResult.decode v = .error fault ∧ c.callResultOf s =
      .error (c.failure ("invalid tools/call result: " ++ fault.message)) := by
  rw [callResultOf, valueOf_eq_ok_iff.mpr hserves]
  rcases hdecode : CallResult.decode v with fault | r
  · exact ⟨fault, rfl, by rw [Except.bind, hdecode]; rfl⟩
  · exact absurd ⟨r, (accepts_callResult v r).mp hdecode⟩ hno

end Client

open Client (CallsTool)

/-- What a call of a tool of a server comes to. -/
theorem result_remoteTool {ω : Type} (net : Network ω) (server : String) (d : Definition)
    (call : Call) (w : World ω) :
    ((remoteTool net server d).run call w).1 =
      (((w.clients server).call call.name call.arguments).run net w.outside).1.1.bind
        (·.observe call.name) := by
  simp only [remoteTool, World.useClient, World.exchange]

/-- **A call of a tool of a server** whose session is open is one message, and the answer settles
what it comes to. If the answer serves it with a result, the text taken is that of all parts that
have one, whatever their kinds; so what is meant is shown only if no part of another kind has a
text, or if one part has a text and it is empty. A value without the form of a result, and an
answer without a value, are failures of the server. Nothing else is observed. -/
theorem observation_of_call {ω : Type} (net : Network ω) (d : Definition) (call : Call)
    {w : World ω} {server url : String} (hopen : (w.clients server).SpeaksWith server url) :
    let client := w.clients server
    let x := ((remoteTool net server d).run call w).1
    ∃ s, (client.call call.name call.arguments).sent net w.outside = [s] ∧
      CallsTool url client.nextId call s ∧
      (∀ v r, Serves s.answer client.nextId v → IsCallResult v r →
        x = r.showing call.name ("\n".intercalate (r.parts.filterMap (·.text))) ∧
        (x = r.showing call.name r.proseText ↔
          (∀ p ∈ r.parts, p.text ≠ none → p.kind = "text") ∨
            r.parts.filterMap (·.text) = [""])) ∧
      (∀ v, Serves s.answer client.nextId v → (¬ ∃ r, IsCallResult v r) →
        ∃ fault, CallResult.decode v = .error fault ∧ x =
          .error (.toolServer (server ++ ": invalid tools/call result: " ++ fault.message))) ∧
      (∀ detail, Refuses "tools/call" client.nextId s detail →
        x = .error (.toolServer (server ++ ": " ++ detail))) ∧
      ∀ o, x = .ok o → ∃ v r, Serves s.answer client.nextId v ∧ IsCallResult v r ∧
        r.isError = false := by
  obtain ⟨hsend, hurl⟩ := hopen.keeps
  have hname : (w.clients server).name = server := hopen.name_eq
  obtain ⟨s, hsent, hcalls, hresult⟩ := Client.call_passes
    (Exchange.passes_run net ((w.clients server).call call.name call.arguments) w.outside) hsend
  have hx : ((remoteTool net server d).run call w).1 =
      ((w.clients server).callResultOf s).bind (·.observe call.name) := by
    rw [result_remoteTool, hresult]
  rw [hurl] at hcalls
  intro client x
  -- From here on the answer alone counts.
  change x = (client.callResultOf s).bind _ at hx
  clear_value x
  refine ⟨s, hsent, hcalls, fun v r hserves hr => ?_, fun v hserves hno => ?_,
    fun detail hrefuses => ?_, fun o ho => ?_⟩
  · have hshown : x = r.showing call.name r.text := by
      rw [hx, Client.callResultOf_eq_ok_iff.mpr ⟨v, hserves, hr⟩]
      rfl
    refine ⟨hshown, ?_⟩
    rw [hshown, CallResult.showing_inj, CallResult.text_eq_proseText_iff]
  · obtain ⟨fault, hdecode, hfault⟩ := Client.callResultOf_of_misread hserves hno
    refine ⟨fault, hdecode, ?_⟩
    rw [hx, hfault, ← hname, Client.failure, String.append_assoc, String.append_assoc]
    rfl
  · rw [hx, Client.callResultOf, Client.valueOf_of_refuses hrefuses, Client.failure, hname]
    rfl
  · rw [hx] at ho
    obtain ⟨r, hr, hobserve⟩ := bind_eq_ok_iff.mp ho
    obtain ⟨v, hserves, hv⟩ := Client.callResultOf_eq_ok_iff.mp hr
    exact ⟨v, r, hserves, hv, CallResult.isError_of_observe hobserve⟩

/-- A world in which the client of a server has an open session, and the next call is answered with
a result that is written like this. -/
def answering (result : String) : World (List (Except Http.Trouble Http.Response)) :=
  let body := "\x7b\"id\":2,\"result\":" ++ result ++ "\x7d"
  (World.initial [.ok ⟨200, [], body.toList.map Char.toNat, none, none⟩]).withClient "docs"
    { Client.fresh "docs" "http://a/" with nextId := 2 }

/-- An image without a text between two texts is passed over. -/
theorem observation_of_call_mixed :
    let result := "\x7b\"content\":[\x7b\"type\":\"text\",\"text\":\"a\"\x7d," ++
      "\x7b\"type\":\"image\"\x7d,\x7b\"type\":\"text\",\"text\":\"b\"\x7d]\x7d"
    let r : CallResult := ⟨[⟨"text", some "a"⟩, ⟨"image", none⟩, ⟨"text", some "b"⟩], none, false⟩
    let look : Definition := ⟨"look", none, Definition.anyObject⟩
    ((remoteTool inTurn "docs" look).run ⟨"1", "look", .obj []⟩ (answering result)).1 =
      r.showing "look" r.proseText := by
  intro result r look
  let hello : Http.Response := ⟨200, [], "\x7b\"id\":1\x7d".toList.map Char.toNat, none, none⟩
  have hopen : ((answering result).clients "docs").SpeaksWith "docs" "http://a/" :=
    Client.speaksWith_of_run inTurn [.ok hello, .ok ⟨202, [], [], none, none⟩] (by decide +kernel)
  obtain ⟨s, hsent, -, hserved, -⟩ := observation_of_call inTurn look ⟨"1", "look", .obj []⟩ hopen
  have hanswers : ((((answering result).clients "docs").call "look" (.obj [])).sent inTurn
      (answering result).outside).map (·.answer) = (answering result).outside := by decide +kernel
  have hanswer : [s.answer] = (answering result).outside := by
    rw [← hanswers, hsent]
    rfl
  let part (kind text : String) : Json := Json.object [("type", .str kind), ("text", .str text)]
  let value : Json := Json.object
    [("content", .arr [part "text" "a", Json.object [("type", .str "image")], part "text" "b"])]
  have hserves : Serves s.answer 2 value := by
    rw [List.head_eq_of_cons_eq hanswer]
    exact ⟨_, ⟨some (.ofNat 2), some value, none⟩, ⟨rfl, rfl, rfl⟩,
      .text rfl (by decide +kernel) rfl, rfl, rfl⟩
  have hr : IsCallResult value r := (accepts_callResult value r).mp (by decide +kernel)
  exact (hserved value r hserves hr).2.mpr (.inl (by decide))

/-- **A part of another kind that has a text is observed**: of the result of a call, an image whose
text is not empty, the text is shown although nothing is meant to be. -/
theorem not_observes_prose :
    let result :=
      "\x7b\"content\":[\x7b\"type\":\"image\",\"text\":\"alt text counts\"\x7d]\x7d"
    let r : CallResult := ⟨[⟨"image", some "alt text counts"⟩], none, false⟩
    let look : Definition := ⟨"look", none, Definition.anyObject⟩
    ((remoteTool inTurn "docs" look).run ⟨"1", "look", .obj []⟩ (answering result)).1 =
        .ok ⟨"look", "alt text counts", none⟩ ∧
      r.showing "look" r.proseText = .ok ⟨"look", "", none⟩ := by
  decide +kernel

end Dialogue.ToolServer
