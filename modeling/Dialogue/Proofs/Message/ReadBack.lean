import Dialogue.Proofs.Json.Objects
import Dialogue.Proofs.Time.ReadBack
import Dialogue.Transcript

/-!
# Messages that are written and read again

A message is read back from the value that it is written as, whatever its parts hold, except for
data that are `null`: they are written, but what is read is that there are none. The value still
tells the two apart, so it tells all messages apart.

Main statements: `Message.decode_toJson` and `Transcript.decode_toJson`. The timestamp is read back
by `Time.readTimestamp_chars`.
-/

namespace Dialogue

open Json

/-! ## Parts of a message -/

theorem Role.decode_name (r : Role) : Role.decode (.str r.name) = .ok r := by
  cases r <;> rfl

theorem Call.decode_toJson (c : Call) : Call.decode c.toJson = .ok c := by
  have hid : (Record.required "id" .string).Takes c.fields c.id :=
    Record.takes_of_some (v := .str c.id) (by simp [Call.fields]) rfl
  have hname : (Record.required "name" .string).Takes c.fields c.name :=
    Record.takes_of_some (v := .str c.name) (by simp [Call.fields]) rfl
  have harguments : (Record.withDefault "arguments" .any (.obj [])).Takes c.fields c.arguments :=
    Record.takes_of_some (v := c.arguments) (by simp [Call.fields]) rfl
  exact (((hid.map Call.mk).seq hname).seq harguments).decoder_eq "ToolCall" 3

theorem word32_ofNat (n : UInt32) : Decoder.word32 (.ofNat n.toNat) = .ok n := by
  have hfits : (0 : Int) ≤ n.toNat ∧ (n.toNat : Int) ≤ 0xFFFFFFFF := by
    have hlt := n.toNat_lt
    omega
  simp only [Decoder.word32, Json.ofNat, Decoder.integer, if_pos hfits, Except.map,
    Int.toNat_natCast, UInt32.ofNat_toNat]

theorem Metadata.decode_object (d : Metadata) : Metadata.decode (Json.object d.fields) = .ok d := by
  have htokens : (Record.nullable "tokens" .word32).Takes d.fields d.tokens :=
    Record.takes_of_map (f := fun n => .ofNat n.toNat) (by simp [Metadata.fields]) (fun _ => nofun)
      word32_ofNat
  have hmodel : (Record.nullable "model" .string).Takes d.fields d.model :=
    Record.takes_of_map (f := .str) (by simp [Metadata.fields]) (fun _ => nofun) fun _ => rfl
  exact ((htokens.map Metadata.mk).seq hmodel).decoder_eq "MessageMetadata" 2

theorem decodeTimestamp_render (t : Time.Instant) :
    Message.decodeTimestamp (.str t.render) = .ok t := by
  simp only [Message.decodeTimestamp, Decoder.formatted, Time.Instant.render, String.toList_ofList,
    Time.readTimestamp_chars]
  rfl

/-! ## Messages -/

namespace Message

/-- The message without data that are `null`. -/
def withoutNull (m : Message) : Message :=
  { m with data := m.data.filter (· ≠ .null) }

theorem withoutNull_eq_self_iff {m : Message} : m.withoutNull = m ↔ m.data ≠ some .null := by
  obtain ⟨role, content, calls, callId, data, timestamp, metadata⟩ := m
  rcases data with _ | v
  · simp [withoutNull]
  · simp [withoutNull, Option.filter]

/-- What is written of a message shows its data. -/
theorem lookup_data (m : Message) :
    Table.lookup "data" (Table.ofList (m.fields Json.object)) = m.data := by
  simp [fields]

/-- **Reading back.** A message is read as it was written, but without data that are `null`. -/
theorem decode_toJson (now : Time.Instant) (m : Message) :
    decode now m.toJson = .ok m.withoutNull := by
  have hrole : (Record.required "role" Role.decode).Takes (m.fields Json.object) m.role :=
    Record.takes_of_some (v := .str m.role.name) (by simp [fields]) m.role.decode_name
  have hcontent : (Record.required "content" .string).Takes (m.fields Json.object) m.content :=
    Record.takes_of_some (v := .str m.content) (by simp [fields]) rfl
  have hcalls : (Record.withDefault "tool_calls" (.list Call.decode) []).Takes
      (m.fields Json.object) m.calls := by
    by_cases hnone : m.calls = []
    · rw [hnone]
      exact Record.takes_of_none (by simp [fields, hnone])
    · refine Record.takes_of_some (v := .arr (m.calls.map Call.toJson)) ?_ ?_
      · simp [fields, hnone, Call.toJson]
      · rw [list_arr_map fun c _ => c.decode_toJson, List.map_id']
  have hid : (Record.optional "tool_call_id" .string).Takes (m.fields Json.object) m.callId :=
    Record.takes_of_map (f := .str) (by simp [fields]) (fun _ => nofun) fun _ => rfl
  have hdata : (Record.optional "data" .any).Takes (m.fields Json.object)
      (m.data.filter (· ≠ .null)) := by
    have hlookup := m.lookup_data
    rcases hv : m.data with _ | v
    · exact Record.takes_of_none (hlookup.trans hv)
    · refine Record.takes_of_some (hlookup.trans hv) ?_
      by_cases hnull : v = .null
      · subst hnull
        rfl
      · rw [nullable_of_ne_null hnull, Option.filter_some, if_pos (decide_eq_true hnull)]
        rfl
  have htimestamp : (Record.withDefault "timestamp" decodeTimestamp now).Takes
      (m.fields Json.object) m.timestamp :=
    Record.takes_of_some (v := .str m.timestamp.render) (by simp [fields])
      (decodeTimestamp_render _)
  have hmetadata : (Record.optional "metadata" Metadata.decode).Takes (m.fields Json.object)
      m.metadata :=
    Record.takes_of_map (f := fun d => Json.object d.fields) (by simp [fields])
      (fun _ => nofun) Metadata.decode_object
  exact (((((((hrole.map Message.mk).seq hcontent).seq hcalls).seq hid).seq hdata).seq
    htimestamp).seq hmetadata).decoder_eq "Message" 7

/-- Messages that are written alike are equal. -/
theorem toJson_injective {m n : Message} (h : m.toJson = n.toJson) : m = n := by
  have hread : m.withoutNull = n.withoutNull := by
    have hm := m.decode_toJson .start
    rw [h, n.decode_toJson] at hm
    exact (Except.ok.inj hm).symm
  have hdata : m.data = n.data := by
    rw [← m.lookup_data, ← n.lookup_data]
    exact congrArg (Table.lookup "data") (Json.obj.inj h)
  obtain ⟨role, content, calls, callId, data, timestamp, metadata⟩ := m
  simp only [withoutNull, Message.mk.injEq] at hread
  obtain ⟨rfl, rfl, rfl, rfl, -, rfl, rfl⟩ := hread
  subst hdata
  rfl

end Message

/-! ## Transcripts -/

namespace Transcript

theorem withoutNull_eq_self_iff {t : Transcript} :
    ⟨t.messages.map Message.withoutNull⟩ = t ↔ ∀ m ∈ t.messages, m.data ≠ some .null := by
  obtain ⟨messages⟩ := t
  calc (⟨messages.map Message.withoutNull⟩ : Transcript) = ⟨messages⟩
    _ ↔ messages.map Message.withoutNull = messages.map id := by
      rw [List.map_id, Transcript.mk.injEq]
    _ ↔ ∀ m ∈ messages, m.withoutNull = id m := List.map_inj_left
    _ ↔ ∀ m ∈ messages, m.data ≠ some .null :=
      forall₂_congr fun m _ => Message.withoutNull_eq_self_iff

/-- **Reading back.** A transcript is read message after message. -/
theorem decode_toJson (now : Time.Instant) (t : Transcript) :
    decode now t.toJson = .ok ⟨t.messages.map Message.withoutNull⟩ := by
  have hmessages : (Record.required "messages" (.list (Message.decode now))).Takes
      [("messages", .arr (t.messages.map Message.toJson))]
      (t.messages.map Message.withoutNull) :=
    Record.takes_of_some rfl (list_arr_map fun m _ => m.decode_toJson now)
  exact (hmessages.map Transcript.mk).decoder_eq "ConversationState" 1

theorem toJson_injective {t u : Transcript} (h : t.toJson = u.toJson) : t = u := by
  have hmessages : t.messages.map Message.toJson = u.messages.map Message.toJson := by
    have hfield := congrArg (Json.get? "messages") h
    rw [toJson, toJson, get?_object, get?_object] at hfield
    exact Json.arr.inj (Option.some.inj hfield)
  obtain ⟨messages⟩ := t
  exact congrArg Transcript.mk
    ((List.map_inj_right fun _ _ => Message.toJson_injective).mp hmessages)

end Transcript

/-- **Messages and transcripts come back.** A message is read from the value that it is written as,
except that data that are `null` are read as none; so it comes back as it was exactly if its data
are not `null`, and values tell messages apart. The same holds of transcripts, message after
message. -/
theorem messages_come_back (now : Time.Instant) :
    (∀ m : Message, Message.decode now m.toJson = .ok m.withoutNull ∧
      (Message.decode now m.toJson = .ok m ↔ m.data ≠ some .null)) ∧
    (∀ m n : Message, m.toJson = n.toJson → m = n) ∧
    (∀ t : Transcript,
      Transcript.decode now t.toJson = .ok ⟨t.messages.map Message.withoutNull⟩ ∧
      (Transcript.decode now t.toJson = .ok t ↔ ∀ m ∈ t.messages, m.data ≠ some .null)) ∧
    ∀ t u : Transcript, t.toJson = u.toJson → t = u := by
  refine ⟨fun m => ⟨m.decode_toJson now, ?_⟩, fun _ _ => Message.toJson_injective,
    fun t => ⟨t.decode_toJson now, ?_⟩, fun _ _ => Transcript.toJson_injective⟩
  · rw [Message.decode_toJson, Except.ok.injEq, Message.withoutNull_eq_self_iff]
  · rw [Transcript.decode_toJson, Except.ok.injEq, Transcript.withoutNull_eq_self_iff]

end Dialogue
