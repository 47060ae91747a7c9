import Dialogue.Chat.Request
import Dialogue.Proofs.Agent.Rehearsal
import Dialogue.Proofs.Tool.Order
import Mathlib.Data.List.Forall2

/-!
# Groups of messages in a request

A chat service refuses a body in which a call is not answered, or an answer belongs to no call. It
wants the messages of the system and of the user, and then groups: an assistant that asks for calls,
and one answer to each of them, in their order. `Orderly` says this of a body, with no word about
how bodies are made.

Main statement: `requests_orderly` (the body of every request of a run is orderly, and all of them
offer the same tools). It puts together what a run reaches (`exists_reaches_of_mem_requests`), what
a round becomes (`group_of_round`) and the order of a toolbox (`Toolbox.Built.ascending`).
-/

namespace Dialogue.Chat

/-! ## What a service accepts -/

/-- An object of this role with this text. -/
structure IsSaid (role content : String) (v : Json) : Prop where
  role : v.get? "role" = some (.str role)
  content : v.get? "content" = some (.str content)

/-- An assistant that says a message and asks for the calls of these ids. The content is `null` for
a message without text. -/
structure IsAsking (m : Message) (ids : List String) (v : Json) : Prop where
  role : v.get? "role" = some (.str "assistant")
  content : v.get? "content" = some (if m.content = "" then .null else .str m.content)
  calls : ∃ calls, v.get? "tool_calls" = some (.arr calls) ∧
    calls.map (·.get? "id") = ids.map (some ∘ .str)

/-- The answer to the call of an id. -/
structure IsAnswer (id : String) (v : Json) : Prop where
  role : v.get? "role" = some (.str "tool")
  callId : v.get? "tool_call_id" = some (.str id)

/-- A message that asks for calls, and the answers to all of them in order. -/
inductive IsGroup (m : Message) : List Json → Prop where
  | intro {ids : List String} {v : Json} {answers : List Json} : IsAsking m ids v → ids ≠ [] →
      List.Forall₂ IsAnswer ids answers → IsGroup m (v :: answers)

/-- A body with the messages of the system and of the user, and a group for each reply. -/
def Orderly (instructions line : String) (replies : List Message) (body : Json) : Prop :=
  ∃ system user groups,
    body.get? "messages" = some (.arr (system :: user :: groups.flatten)) ∧
    IsSaid "system" instructions system ∧ IsSaid "user" line user ∧
    List.Forall₂ IsGroup replies groups

/-- The name of a tool that is offered. -/
def offeredName (v : Json) : Option Json :=
  (v.get? "function").bind (·.get? "name")

/-! ## The fields of a body -/

/-- How to generate an answer is said beside the messages and the tools. -/
theorem find?_samplingFields (s : Sampling) {name : String} (ht : name ≠ "temperature")
    (hm : name ≠ "max_tokens") : s.fields.reverse.find? (·.1 == name) = none := by
  rw [List.find?_eq_none]
  intro kv hkv
  simp only [Sampling.fields, List.mem_reverse, List.mem_append, List.mem_map] at hkv
  rcases hkv with ⟨x, -, rfl⟩ | ⟨n, -, rfl⟩
  · simpa using ht.symm
  · simpa using hm.symm

theorem get?_messages (r : Request) :
    (requestBody r).get? "messages" = some (.arr (messagesBody r.messages)) := by
  rw [requestBody, Json.get?_object, List.reverse_append, List.find?_append,
    find?_samplingFields r.sampling (by decide) (by decide), Option.none_or]
  split <;> simp

theorem get?_tools (r : Request) :
    (requestBody r).get? "tools" =
      if r.tools.isEmpty then none else some (.arr (toolsBody r.tools)) := by
  rw [requestBody, Json.get?_object, List.reverse_append, List.find?_append,
    find?_samplingFields r.sampling (by decide) (by decide), Option.none_or]
  split <;> simp

/-- Tools are offered under their names. -/
theorem map_offeredName (signatures : List Signature) :
    (toolsBody signatures).map offeredName = signatures.map fun s => some (.str s.name) := by
  rw [toolsBody, List.map_map]
  refine List.map_congr_left fun s _ => ?_
  simp [toolBody, offeredName, Json.get?_object]

/-! ## From messages to groups -/

theorem isSaid_plainBody (role content : String) : IsSaid role content (plainBody role content) :=
  ⟨by simp [plainBody, Json.get?_object], by simp [plainBody, Json.get?_object]⟩

theorem isAsking_messageBody {m : Message} (hrole : m.role = .model) (hcalls : m.calls ≠ []) :
    IsAsking m (m.calls.map (·.id)) (messageBody m) := by
  have hbody : messageBody m = Json.object [("role", .str "assistant"),
      ("content", if m.content = "" then .null else .str m.content),
      ("tool_calls", .arr (m.calls.map callBody))] := by
    simp [messageBody, hrole, hcalls]
  rw [hbody]
  refine ⟨by simp [Json.get?_object], by simp [Json.get?_object], m.calls.map callBody,
    by simp [Json.get?_object], ?_⟩
  rw [List.map_map, List.map_map]
  exact List.map_congr_left fun c _ => by simp [callBody, Json.get?_object]

theorem isAnswer_messageBody (now : Time.Instant) (c : Call) (o : Observation) :
    IsAnswer c.id (messageBody (c.answer now o)) :=
  ⟨by simp [messageBody, Call.answer, Json.get?_object],
    by simp [messageBody, Call.answer, Json.get?_object]⟩

/-- The answers stand in the order of the calls. -/
theorem answers_in_order (now : Time.Instant) {cs : List Call} {os : List Observation}
    (h : os.length = cs.length) :
    List.Forall₂ IsAnswer (cs.map (·.id))
      (messagesBody (List.zipWith (Call.answer now) cs os)) := by
  induction cs generalizing os with
  | nil => exact .nil
  | cons c cs ih =>
    cases os with
    | nil => cases h
    | cons o os => exact .cons (isAnswer_messageBody now c o) (ih (Nat.succ.inj h))

/-- A round with calls becomes a group. -/
theorem group_of_round (now : Time.Instant) {r : Round} (hrole : r.reply.role = .model)
    (hcalls : r.reply.calls ≠ []) (hlength : r.observations.length = r.reply.calls.length) :
    IsGroup r.reply (messagesBody (r.messages now)) :=
  .intro (isAsking_messageBody hrole hcalls) (by simpa using hcalls)
    (answers_in_order now hlength)

theorem flatten_groups (now : Time.Instant) (rs : List Round) :
    (rs.map fun r => messagesBody (r.messages now)).flatten =
      messagesBody (Round.allMessages now rs) := by
  rw [messagesBody, Round.allMessages, List.map_flatMap, List.flatMap]
  rfl

/-- The messages of the model among those of a round are its reply. -/
theorem filter_model_round (now : Time.Instant) {r : Round} (hrole : r.reply.role = .model) :
    (r.messages now).filter (·.role = .model) = [r.reply] := by
  -- Answers to calls are messages of tools.
  have hanswers : (List.zipWith (Call.answer now) r.reply.calls r.observations).filter
      (·.role = .model) = [] := by
    refine List.filter_eq_nil_iff.mpr fun m hm => ?_
    obtain ⟨i, hi, rfl⟩ := List.mem_iff_getElem.mp hm
    simp [Call.answer]
  rw [Round.messages, List.filter_cons_of_pos (by simpa using hrole), hanswers]

theorem filter_model_rounds (now : Time.Instant) {rs : List Round}
    (hrole : ∀ r ∈ rs, r.reply.role = .model) :
    (Round.allMessages now rs).filter (·.role = .model) = rs.map (·.reply) := by
  rw [Round.allMessages, List.filter_flatMap, List.map_eq_flatMap]
  exact List.flatMap_congr fun r hr => filter_model_round now (hrole r hr)

/-! ## Runs -/

section

variable {ω : Type} {a : Agent ω} {now : Time.Instant} {line : String} {w : ω}

/-- What the model is shown after rounds with calls is orderly. -/
theorem orderly_of_reaches {rs : List Round} {t' : Transcript} {w' : ω}
    (h : a.Reaches now (.ofHuman now line) w rs t' w') :
    Orderly a.instructions line ((a.request now t').messages.filter (·.role = .model))
      (requestBody (a.request now t')) := by
  have hrole := h.plays.role_reply
  have hshown : (a.request now t').messages = .plain now .system a.instructions ::
      .plain now .human line :: Round.allMessages now rs := by
    rw [h.plays.transcript_eq]
    rfl
  have hreplies : (a.request now t').messages.filter (·.role = .model) = rs.map (·.reply) := by
    rw [hshown, List.filter_cons_of_neg (by simp [Message.plain]),
      List.filter_cons_of_neg (by simp [Message.plain]), filter_model_rounds now hrole]
  refine ⟨plainBody "system" a.instructions, plainBody "user" line,
    rs.map fun r => messagesBody (r.messages now), ?_, isSaid_plainBody _ _,
    isSaid_plainBody _ _, ?_⟩
  · rw [get?_messages, hshown, flatten_groups]
    rfl
  · rw [hreplies, List.forall₂_map_left_iff, List.forall₂_map_right_iff, List.forall₂_same]
    exact fun r hr => group_of_round now (hrole r hr) (h.calls r hr)
      (h.plays.length_observations r hr)

/-- What is offered does not depend on the transcript. -/
theorem get?_tools_request (a : Agent ω) (now : Time.Instant) (t : Transcript) :
    (requestBody (a.request now t)).get? "tools" =
      if a.toolbox.signatures.isEmpty then none else some (.arr (toolsBody a.toolbox.signatures)) :=
  get?_tools _

/-- **Requests are orderly.** In a run from what a user says, the body of every request holds the
messages of the system and of the user, and then a group for each message of the model in it. All
bodies of the run offer the same tools: none if the toolbox is empty, and else all of them in the
order of their names. -/
theorem requests_orderly (hbuilt : a.toolbox.Built) (now : Time.Instant) (fuel : Nat)
    (line : String) (w : ω) :
    (∀ q ∈ (a.run now fuel (.ofHuman now line) w).requests,
      Orderly a.instructions line (q.messages.filter (·.role = .model)) (requestBody q)) ∧
    ∃ tools : Option Json,
      (∀ q ∈ (a.run now fuel (.ofHuman now line) w).requests,
        (requestBody q).get? "tools" = tools) ∧
      (tools.isSome ↔ a.toolbox.tools ≠ []) ∧
      ∀ v, tools = some v → ∃ offers names, v = .arr offers ∧
        offers.map offeredName = names.map (some ∘ .str) ∧ names.Pairwise (· < ·) ∧
        names = a.toolbox.names := by
  refine ⟨fun q hq => ?_, if a.toolbox.signatures.isEmpty then none
    else some (.arr (toolsBody a.toolbox.signatures)), fun q hq => ?_, ?_, fun v hv => ?_⟩
  · obtain ⟨rs, t', w', hreach, -, rfl⟩ := Agent.exists_reaches_of_mem_requests hq
    exact orderly_of_reaches hreach
  · obtain ⟨rs, t', w', -, -, rfl⟩ := Agent.exists_reaches_of_mem_requests hq
    exact get?_tools_request a now t'
  · simp [Toolbox.signatures]
  · obtain ⟨-, rfl⟩ : ¬ a.toolbox.signatures.isEmpty ∧
        Json.arr (toolsBody a.toolbox.signatures) = v := by simpa using hv
    refine ⟨_, a.toolbox.names, rfl, ?_, hbuilt.ascending, rfl⟩
    rw [map_offeredName, Toolbox.signatures, Toolbox.names, List.map_map, List.map_map]
    rfl

end

/-- The requests of a calculator are orderly, also those after a message with two calls. -/
theorem requests_orderly_sums :
    (Agent.calculator none).toolbox.Built ∧
    ∀ q ∈ ((Agent.calculator none).run .start 3 (.ofHuman .start "2+2?")
        [Agent.sumAnswer ["x"], Agent.sumAnswer ["y", "y"]]).requests,
      Orderly defaultInstructions "2+2?" (q.messages.filter (·.role = .model)) (requestBody q) :=
  ⟨Toolbox.built_arithmetic, (requests_orderly Toolbox.built_arithmetic .start 3 "2+2?" _).1⟩

end Dialogue.Chat
