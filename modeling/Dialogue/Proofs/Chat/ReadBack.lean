import Dialogue.Chat.Request
import Dialogue.Chat.Response
import Dialogue.Proofs.Json.ReadBack
import Dialogue.Proofs.Json.Records

/-!
# Messages of the model that come back

A message of the model is written into requests in one form, and read from responses by other code.
Here a message is put into a response in the form it has in requests: the completion has the text
and the calls of the message.

Main statement: `readCompletion_withMessage`. The arguments of the calls are JSON text inside JSON,
so it rests on `Json.parse_render`.
-/

namespace Dialogue.Chat

open Json

/-- A response with another message in its first choice. -/
def withMessage (message body : Json) : Json :=
  match body.fieldAt "choices" 1 with
  | some (.arr (choice :: others)) =>
    body.setField "choices" 1 (.arr (choice.setField "message" 0 message :: others))
  | _ => body

/-- Reads the message of a choice: its text and its calls. -/
def decodeMessage : Decoder (Option String × Option (List WireCall)) :=
  Record.decoder "ResponseMessage" 2 <|
    Prod.mk <$> .optional "content" .string <*> .optional "tool_calls" (.list WireCall.decode)

/-- A call as it stands in a message. -/
def wireCall (c : Call) : WireCall :=
  ⟨c.id, c.name, c.arguments.render⟩

/-! ## What is read -/

theorem decodeMessage_eq_ok_iff {v : Json} {content : Option String}
    {calls : Option (List WireCall)} :
    decodeMessage v = .ok (content, calls) ↔
      v.IsRecord 2 ∧
        FieldFits (.nullable .string) (some none) (v.fieldAt "content" 0) content ∧
        FieldFits (.nullable (.list WireCall.decode)) (some none) (v.fieldAt "tool_calls" 1)
          calls := by
  refine (Record.decoder_two_eq_ok_iff (Record.reads_field "content" _ _ 0)
    (Record.reads_field "tool_calls" _ _ 1) Prod.mk _ v _).trans (and_congr_right fun _ => ?_)
  simp

theorem Choice.decode_eq_ok_iff {v : Json} {c : Choice} :
    Choice.decode v = .ok c ↔
      v.IsRecord 2 ∧
        FieldFits decodeMessage none (v.fieldAt "message" 0) (c.content, c.calls) ∧
        FieldFits (.nullable .string) (some none) (v.fieldAt "finish_reason" 1) c.finish := by
  obtain ⟨content, calls, finish⟩ := c
  refine (Record.decoder_two_eq_ok_iff (Record.reads_field "message" decodeMessage none 0)
    (Record.reads_field "finish_reason" _ _ 1) _ _ v _).trans (and_congr_right fun _ => ?_)
  simp

theorem Response.decode_eq_ok_iff {v : Json} {r : Response} :
    Response.decode v = .ok r ↔
      v.IsRecord 3 ∧
        FieldFits (.nullable .string) (some none) (v.fieldAt "model" 0) r.model ∧
        FieldFits (.list Choice.decode) (some []) (v.fieldAt "choices" 1) r.choices ∧
        FieldFits (.nullable (Record.decoder "Usage" 3 Usage.record)) (some none)
          (v.fieldAt "usage" 2) r.usage := by
  obtain ⟨model, choices, usage⟩ := r
  refine (Record.decoder_three_eq_ok_iff (Record.reads_field "model" _ _ 0)
    (Record.reads_field "choices" _ _ 1) (Record.reads_field "usage" _ _ 2) _ _ v _).trans
    (and_congr_right fun _ => ?_)
  simp

/-- The message of the first choice may be replaced by every other message that is read. -/
theorem decode_withMessage {body message : Json} {r : Response} {first : Choice}
    {rest : List Choice} {content : Option String} {calls : Option (List WireCall)}
    (hbody : Response.decode body = .ok r) (hchoices : r.choices = first :: rest)
    (hmessage : decodeMessage message = .ok (content, calls)) :
    Response.decode (withMessage message body) =
      .ok { r with choices := ⟨content, calls, first.finish⟩ :: rest } := by
  obtain ⟨hrecord, hmodel, hlist, husage⟩ := Response.decode_eq_ok_iff.mp hbody
  -- A response without choices would have none to replace the message in.
  rcases hfield : body.fieldAt "choices" 1 with _ | v
  · rw [hfield, hchoices, fieldFits_none] at hlist
    cases hlist
  rw [hfield, hchoices, fieldFits_some] at hlist
  obtain ⟨choice, others, rfl, hfirst, hrest⟩ := list_eq_ok_cons_iff.mp hlist
  obtain ⟨hshape, hold, hfinish⟩ := Choice.decode_eq_ok_iff.mp hfirst
  rcases holdField : choice.fieldAt "message" 0 with _ | old
  · rw [holdField, fieldFits_none] at hold
    cases hold
  have hnewChoice : Choice.decode (choice.setField "message" 0 message) =
      .ok ⟨content, calls, first.finish⟩ := by
    refine Choice.decode_eq_ok_iff.mpr ⟨isRecord_setField.mpr hshape, ?_, ?_⟩
    · rwa [fieldAt_setField_self holdField, fieldFits_some]
    · rwa [fieldAt_setField_of_ne _ (by decide) (by decide)]
  simp only [withMessage, hfield]
  refine Response.decode_eq_ok_iff.mpr ⟨isRecord_setField.mpr hrecord, ?_, ?_, ?_⟩
  · rwa [fieldAt_setField_of_ne _ (by decide) (by decide)]
  · rw [fieldAt_setField_self hfield, fieldFits_some]
    exact list_eq_ok_cons_iff.mpr ⟨_, others, rfl, hnewChoice, hrest⟩
  · rwa [fieldAt_setField_of_ne _ (by decide) (by decide)]

/-! ## What is written -/

theorem decode_callBody (c : Call) : WireCall.decode (callBody c) = .ok (wireCall c) := by
  have hfunction := (Record.decoder_two_eq_ok_iff (Record.reads_field "name" .string none 0)
    (Record.reads_field "arguments" .string (some "") 1) Prod.mk "WireFunction"
    (object [("name", .str c.name), ("arguments", .str c.arguments.render)])
    (c.name, c.arguments.render)).mpr
    ⟨isRecord_object _ _, _, _, by rw [fieldAt_object]; rfl, by rw [fieldAt_object]; rfl, rfl⟩
  refine (Record.decoder_two_eq_ok_iff (Record.reads_field "id" .string none 0)
    (Record.reads_field "function" _ none 1) _ "WireCall" (callBody c) (wireCall c)).mpr
    ⟨isRecord_object _ _, c.id, (c.name, c.arguments.render), ?_, ?_, rfl⟩
  · rw [callBody, fieldAt_object]
    rfl
  · rw [callBody, fieldAt_object]
    exact hfunction

theorem list_decode_callBody (calls : List Call) :
    Decoder.list WireCall.decode (.arr (calls.map callBody)) = .ok (calls.map wireCall) := by
  induction calls with
  | nil => rfl
  | cons c calls ih => exact list_eq_ok_cons_iff.mpr ⟨_, _, rfl, decode_callBody c, ih⟩

/-- A message of the model is read as its text and its calls. No text and no calls may be left out,
which says the same. -/
theorem decodeMessage_messageBody {m : Message} (hrole : m.role = .model) :
    ∃ content calls, decodeMessage (messageBody m) = .ok (content, calls) ∧
      content.getD "" = m.content ∧ calls.getD [] = m.calls.map wireCall := by
  simp only [messageBody, hrole]
  split
  · next hcalls =>
    have hread : decodeMessage (plainBody "assistant" m.content) = .ok (some m.content, none) := by
      refine decodeMessage_eq_ok_iff.mpr ⟨isRecord_object _ _, ?_, ?_⟩
      · rw [plainBody, fieldAt_object]
        rfl
      · rw [plainBody, fieldAt_object]
        rfl
    exact ⟨_, _, hread, rfl, by rw [List.isEmpty_iff.mp hcalls]; rfl⟩
  · refine ⟨if m.content = "" then none else some m.content, some (m.calls.map wireCall),
      decodeMessage_eq_ok_iff.mpr ⟨isRecord_object _ _, ?_, ?_⟩, ?_, rfl⟩
    · rw [fieldAt_object]
      change Decoder.nullable .string (if m.content = "" then .null else .str m.content) = _
      split <;> rfl
    · rw [fieldAt_object]
      change (Decoder.list WireCall.decode (.arr (m.calls.map callBody))).map some = _
      rw [list_decode_callBody]
      rfl
    · split
      · next h => exact h.symm
      · rfl

/-- The arguments of a call are read back from their text. -/
theorem toCall_wireCall {c : Call} (h : c.arguments.Integral 127) :
    (wireCall c).toCall = .ok c := by
  have hblank : (Text.trim c.arguments.render.toList).isEmpty = false :=
    List.isEmpty_eq_false_iff.mpr h.trim_render_ne_nil
  simp [wireCall, WireCall.toCall, readArguments, hblank, parse_render h]

theorem mapM_toCall_wireCall {calls : List Call} (h : ∀ c ∈ calls, c.arguments.Integral 127) :
    (calls.map wireCall).mapM WireCall.toCall = .ok calls := by
  induction calls with
  | nil => rfl
  | cons c calls ih =>
    rw [List.map_cons, List.mapM_cons, toCall_wireCall (h c (List.mem_cons_self ..)),
      ih fun d hd => h d (List.mem_cons_of_mem _ hd)]
    rfl

/-- A message that has calls and no text goes out with the content `null`. -/
theorem get?_content_messageBody {m : Message} (hrole : m.role = .model) (hcalls : m.calls ≠ [])
    (hcontent : m.content = "") : (messageBody m).get? "content" = some .null := by
  have hsome : ¬ m.calls.isEmpty = true := fun h => hcalls (List.isEmpty_iff.mp h)
  simp only [messageBody, hrole, if_neg hsome, if_pos hcontent, get?_object]
  rfl

/-- **A message of the model comes back as it went out.** Take a message of the model whose calls
have arguments that a text keeps, and any response that is read and has a choice, be it written with
objects or with arrays. With the message in the place of the one in its first choice, the response
gives the text and the calls of the message, and all else as before. So the empty text comes back
where it went out as `null`, and the text of arguments is never blank, which would stand for an
empty object. -/
theorem readCompletion_withMessage {m : Message} (hrole : m.role = .model)
    (harguments : ∀ c ∈ m.calls, c.arguments.Integral 127) {body : Json} {r : Response}
    (hbody : Response.decode body = .ok r) {first : Choice} {rest : List Choice}
    (hchoices : r.choices = first :: rest) (fallback : String) :
    readCompletion (withMessage (messageBody m) body) fallback =
        .ok ⟨m.content, m.calls, r.model.getD fallback, r.usage,
          first.finish.map FinishReason.ofWire⟩ ∧
      (m.calls ≠ [] → m.content = "" → (messageBody m).get? "content" = some .null) ∧
      ∀ c ∈ m.calls, Text.trim c.arguments.render.toList ≠ [] := by
  refine ⟨?_, get?_content_messageBody hrole, fun c hc => (harguments c hc).trim_render_ne_nil⟩
  obtain ⟨content, calls, hmessage, hcontent, hcalls⟩ := decodeMessage_messageBody hrole
  rw [readCompletion, decode_withMessage hbody hchoices hmessage]
  simp only [Response.toCompletion, hcalls, mapM_toCall_wireCall harguments, ok_bind, hcontent]

/-- A message without text whose calls hold an array, escapes and the least integer. -/
def storingMessage : Message :=
  (Completion.withCalls "" [
    ⟨"1", "store", .obj [("depth", .arr [.arr [], .obj []]), ("text", .str "say \"no\"\n")]⟩,
    ⟨"2", "store", .ofInt (-0x8000000000000000)⟩]).toMessage .start

/-- A response with a choice that holds nothing. -/
def emptyAnswer : Json :=
  Json.object [("id", .str "r"), ("model", .str "m"),
    ("choices", .arr [Json.object [("message", Json.object []), ("finish_reason", .str "stop")]])]

/-- The content `null` comes back as the empty text, and both calls come back. -/
theorem readCompletion_withMessage_storing :
    storingMessage.role = .model ∧
    (∀ c ∈ storingMessage.calls, c.arguments.Integral 127) ∧
    Response.decode emptyAnswer = .ok ⟨some "m", [⟨none, none, some "stop"⟩], none⟩ ∧
    (messageBody storingMessage).get? "content" = some .null ∧
    readCompletion (withMessage (messageBody storingMessage) emptyAnswer) "f" =
      .ok ⟨"", storingMessage.calls, "m", none, some .stop⟩ := by
  have hnested : Integral 126 (.arr [.arr [], .obj []]) := by
    refine .arr (List.forall_mem_cons.mpr ⟨.arr nofun, List.forall_mem_singleton.mpr ?_⟩)
    exact .obj (by unfold Table.Ascending; decide) nofun
  have harguments : ∀ c ∈ storingMessage.calls, c.arguments.Integral 127 := by
    refine List.forall_mem_cons.mpr ⟨.obj (by unfold Table.Ascending; decide) ?_,
      List.forall_mem_singleton.mpr (.int (by decide) (by decide))⟩
    exact List.forall_mem_cons.mpr ⟨hnested, List.forall_mem_singleton.mpr (.str _)⟩
  have hbody : Response.decode emptyAnswer =
      .ok ⟨some "m", [⟨none, none, some "stop"⟩], none⟩ := by
    rfl
  obtain ⟨hcompletion, hnull, -⟩ := readCompletion_withMessage rfl harguments hbody rfl "f"
  exact ⟨rfl, harguments, hbody, hnull nofun rfl, hcompletion⟩

end Dialogue.Chat
