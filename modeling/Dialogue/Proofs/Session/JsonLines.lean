import Dialogue.Proofs.Json.Printed
import Dialogue.Proofs.Message.ReadBack
import Dialogue.Proofs.Session.Notices

/-!
# Lines of JSON

A session that writes JSON gives every message a line of its own. Whatever a message holds, there is
no line feed in its line, so who splits the text of a turn at the line feeds has the lines of its
messages, the notice of the limit if there is one, and nothing else. A line is read as the value of
its message, though the fields stand in it in the order in which they are declared.

Main statement: `lines_of_finished`. Its parts are `Message.printable_line`, `Message.parse_line`
and `splitOn_write`.
-/

namespace Dialogue

open Json

/-! ## The line of a message -/

namespace Message

/-- The values in a message are ones that their texts keep: its data and the arguments of its calls.
-/
structure Integral (depth : Nat) (m : Message) : Prop where
  arguments : ∀ c ∈ m.calls, c.arguments.Integral depth
  data : ∀ v ∈ m.data, v.Integral depth

/-- The fields of a message: the name of each, the value that is printed, and the value that is
meant by it, in which the fields of the parts are in order. -/
def printedFields (m : Message) : List (String × Json × Json) :=
  [("role", .str m.role.name, .str m.role.name), ("content", .str m.content, .str m.content)] ++
    (if m.calls.isEmpty then [] else
      [("tool_calls", .arr (m.calls.map fun c => .obj c.fields),
        .arr (m.calls.map Call.toJson))]) ++
    (m.callId.toList.map fun id => ("tool_call_id", .str id, .str id)) ++
    (m.data.toList.map fun v => ("data", v, v)) ++
    [("timestamp", .str m.timestamp.render, .str m.timestamp.render)] ++
    m.metadata.toList.map fun d => ("metadata", .obj d.fields, Json.object d.fields)

theorem fields_obj (m : Message) :
    m.fields Json.obj = m.printedFields.map fun x => (x.1, x.2.1) := by
  unfold fields printedFields
  split <;> simp [Function.comp_def]

theorem fields_object (m : Message) :
    m.fields Json.object = m.printedFields.map fun x => (x.1, x.2.2) := by
  unfold fields printedFields
  split <;> simp [Call.toJson, Function.comp_def]

theorem toList_line (m : Message) : m.line.toList = (Json.obj (m.fields Json.obj)).chars :=
  String.toList_ofList

/-- **The line of a message** holds no control character. -/
theorem printable_line (m : Message) : Printable m.line.toList :=
  toList_line m ▸ printable_chars _

theorem head?_line (m : Message) : m.line.toList.head? = some '{' := by
  rw [toList_line]
  rfl

variable {m : Message} {depth limit : Nat}

theorem readAs_metadata (d : Metadata) (hlimit : 0 < limit) :
    ReadAs (limit + 1) (Json.obj d.fields).chars (Json.object d.fields) := by
  refine readAs_obj (fun x hx => ?_) hlimit
  simp only [Metadata.fields, List.mem_append, List.mem_map, Option.mem_toList] at hx
  rcases hx with ⟨n, -, rfl⟩ | ⟨model, -, rfl⟩
  · have hlt := n.toNat_lt
    exact (readsBack_int (by omega) (by omega)).readAs
  · exact (readsBack_str model).readAs

theorem Integral.readAs_call (h : m.Integral depth) (hlimit : depth < limit) {c : Call}
    (hc : c ∈ m.calls) : ReadAs (limit + 1) (Json.obj c.fields).chars c.toJson := by
  refine readAs_obj (fun x hx => ?_) (Nat.zero_lt_of_lt hlimit)
  simp only [Call.fields, List.mem_cons, List.not_mem_nil, or_false] at hx
  rcases hx with rfl | rfl | rfl
  · exact (readsBack_str c.id).readAs
  · exact (readsBack_str c.name).readAs
  · exact ((h.arguments c hc).readsBack hlimit).readAs

/-- Each field of a line is read as the value that is meant. The arguments of a call are deepest:
they stand in an object in a list. -/
theorem Integral.readAs_printedFields (h : m.Integral depth) (hlimit : depth < limit) :
    ∀ x ∈ m.printedFields, ReadAs (limit + 2) x.2.1.chars x.2.2 := by
  intro x hx
  simp only [printedFields, List.mem_append, List.mem_cons, List.not_mem_nil, or_false,
    List.mem_map, Option.mem_toList] at hx
  rcases hx with (((((rfl | rfl) | hcalls) | ⟨id, -, rfl⟩) | ⟨v, hv, rfl⟩) | rfl) | ⟨d, -, rfl⟩
  · exact (readsBack_str m.role.name).readAs
  · exact (readsBack_str m.content).readAs
  · split at hcalls
    · cases hcalls
    · obtain rfl := List.mem_singleton.mp hcalls
      exact readAs_arr_map (fun c hc => h.readAs_call hlimit hc) (Nat.zero_lt_succ _)
  · exact (readsBack_str id).readAs
  · exact ((h.data v hv).readsBack (by omega)).readAs
  · exact (readsBack_str m.timestamp.render).readAs
  · exact readAs_metadata d (Nat.zero_lt_succ _)

/-- **A line is read** as the value of its message. -/
theorem parse_line (h : m.Integral 100) : parse m.line.toList = .ok m.toJson := by
  have hfields := h.readAs_printedFields (show 100 < 125 by decide)
  have hobject := readAs_obj_map Prod.fst hfields (by decide : 0 < 127)
  rw [toList_line, fields_obj, toJson, fields_object]
  exact ReadAs.parse hobject

/-- Messages with the same lines are the same. -/
theorem map_line_inj {ms ns : List Message} (hm : ∀ m ∈ ms, m.Integral 100)
    (hn : ∀ n ∈ ns, n.Integral 100) (h : ms.map line = ns.map line) : ms = ns := by
  -- The lines are compared by what is read from them.
  have hvalues {ms : List Message} (hm : ∀ m ∈ ms, m.Integral 100) :
      (ms.map line).map (fun s => parse s.toList) = (ms.map toJson).map .ok := by
    rw [List.map_map, List.map_map]
    exact List.map_congr_left fun m hmem => parse_line (hm m hmem)
  have hok : (ms.map toJson).map Except.ok = (ns.map toJson).map Except.ok :=
    (hvalues hm).symm.trans ((congrArg _ h).trans (hvalues hn))
  exact (List.map_inj_right fun _ _ => toJson_injective).mp
    ((List.map_inj_right fun _ _ => Except.ok.inj).mp hok)

end Message

/-! ## The text of a turn -/

/-- The notice of an ending without the end of its line, if there is one. -/
def Ending.noticeLines : Ending → List String
  | .answered => []
  | .limitReached limit =>
    ["[stopped after " ++ toString limit ++ " model calls without a final answer]"]

/-- Lines, each with its end. -/
def lineText (lines : List String) : String :=
  String.join (lines.map (· ++ "\n"))

/-- Lines without line feeds are had back from their text. -/
theorem splitOn_lineText {lines : List String} (h : ∀ line ∈ lines, '\n' ∉ line.toList) :
    (lineText lines).toList.splitOn '\n' = lines.map String.toList ++ [[]] := by
  induction lines with
  | nil => rfl
  | cons line lines ih =>
    obtain ⟨hline, hlines⟩ := List.forall_mem_cons.mp h
    have htext :
        (lineText (line :: lines)).toList = line.toList ++ '\n' :: (lineText lines).toList := by
      simp [lineText]
    rw [htext, List.splitOn_append_cons_self_of_not_mem hline, ih hlines]
    rfl

theorem lineText_append (ls ks : List String) :
    lineText (ls ++ ks) = lineText ls ++ lineText ks := by
  simp [lineText]

theorem Ending.lineText_noticeLines (e : Ending) : lineText e.noticeLines = e.notice := by
  cases e with
  | answered => rfl
  | limitReached n =>
    have hend : " model calls without a final answer]" ++ "\n" =
        " model calls without a final answer]\n" := rfl
    calc lineText (noticeLines (.limitReached n))
      _ = ("[stopped after " ++ toString n ++ " model calls without a final answer]") ++ "\n" :=
        String.empty_append
      _ = limitNotice n := (String.append_assoc ..).trans (congrArg (_ ++ ·) hend)

/-- What a result gives rise to, line after line. -/
def Result.lines (r : Result) : List String :=
  r.transcript.messages.map Message.line ++ r.ending.noticeLines

theorem write_finished (r : Result) : (Outcome.finished r).write .json = lineText r.lines := by
  rw [Result.lines, lineText_append, Ending.lineText_noticeLines, lineText, List.map_map]
  rfl

theorem newline_notMem_noticeLines {e : Ending} {line : String} (h : line ∈ e.noticeLines) :
    '\n' ∉ line.toList := by
  cases e with
  | answered => cases h
  | limitReached n =>
    obtain rfl := List.mem_singleton.mp h
    exact Printable.newline_notMem (by simpa using printable_toDigits n)

theorem head?_noticeLines {e : Ending} {line : String} (h : line ∈ e.noticeLines) :
    line.toList.head? ≠ some '{' := by
  cases e with
  | answered => cases h
  | limitReached n =>
    obtain rfl := List.mem_singleton.mp h
    simp

/-- The text of a turn, split at the line feeds. -/
theorem splitOn_write (r : Result) :
    ((Outcome.finished r).write .json).toList.splitOn '\n' = r.lines.map String.toList ++ [[]] := by
  rw [write_finished, splitOn_lineText]
  intro line hline
  rcases List.mem_append.mp hline with hmessage | hnotice
  · obtain ⟨m, -, rfl⟩ := List.mem_map.mp hmessage
    exact m.printable_line.newline_notMem
  · exact newline_notMem_noticeLines hnotice

/-- The lines of messages are those that begin with a brace. -/
theorem Result.filter_lines (r : Result) :
    r.lines.filter (fun line => line.toList.head? = some '{') =
      r.transcript.messages.map Message.line := by
  rw [lines, List.filter_append, List.filter_eq_self.mpr, List.filter_eq_nil_iff.mpr,
    List.append_nil]
  · intro line hline
    simpa using head?_noticeLines hline
  · intro line hline
    obtain ⟨m, -, rfl⟩ := List.mem_map.mp hline
    simpa using m.head?_line

/-- Results that are written alike have the same messages. -/
theorem messages_eq_of_write {r r' : Result} (hr : ∀ m ∈ r.transcript.messages, m.Integral 100)
    (hr' : ∀ m ∈ r'.transcript.messages, m.Integral 100)
    (h : (Outcome.finished r).write .json = (Outcome.finished r').write .json) :
    r.transcript.messages = r'.transcript.messages := by
  have hsplit := congrArg (fun text => text.toList.splitOn '\n') h
  simp only [splitOn_write, List.append_left_inj] at hsplit
  have hlines : r.lines = r'.lines := (List.map_inj_right fun _ _ => String.toList_inj.mp).mp hsplit
  refine Message.map_line_inj hr hr' ?_
  rw [← r.filter_lines, hlines, r'.filter_lines]

namespace Session

variable {ω : Type}

/-- **One line for each message.** In every session that writes JSON, of any agent and with any
input and interrupts, the text of a turn that succeeds is split at its line feeds into the lines of
the messages that it came to, one for each in their order, the notice of the limit if the limit was
reached, and the nothing that follows the last line feed. No line of a message is empty or holds a
control character, whatever the message holds. If the values in a message are at most a hundred
arrays and objects deep and all their numbers are integers of 64 bits, its line is read as the value
of the message; so other messages of this kind are written otherwise. -/
theorem lines_of_finished (a : Agent ω) (now : Time.Instant) (fuel : Nat) (schedule : Schedule)
    (input : Input) (w : ω) :
    let session := run a .json now fuel schedule input w
    session.output = written .json session.status session.turns ∧
    ∀ turn ∈ session.turns, ∀ r, turn.outcome = .finished r →
      (turn.outcome.write .json).toList.splitOn '\n' =
        (r.transcript.messages.map Message.line ++ r.ending.noticeLines).map String.toList ++
          [[]] ∧
      (∀ m ∈ r.transcript.messages, m.line ≠ "" ∧ (∀ c ∈ m.line.toList, 0x20 ≤ c.toNat) ∧
        (m.Integral 100 → parse m.line.toList = .ok m.toJson)) ∧
      ∀ r' : Result, (∀ m ∈ r.transcript.messages, m.Integral 100) →
        (∀ m ∈ r'.transcript.messages, m.Integral 100) →
        r'.transcript.messages ≠ r.transcript.messages →
        (Outcome.finished r').write .json ≠ turn.outcome.write .json := by
  intro session
  refine ⟨(output_run a .json now fuel schedule input w).1, fun turn _ r hr => ?_⟩
  rw [hr]
  refine ⟨splitOn_write r, fun m _ => ⟨?_, m.printable_line, Message.parse_line⟩,
    fun r' hm hm' hne h => hne (messages_eq_of_write hm' hm h)⟩
  intro hempty
  have hhead := m.head?_line
  rw [hempty] at hhead
  cases hhead

/-- What comes of a question with control characters and a call whose id has two lines. -/
def sumResult : Result where
  transcript := ⟨[.plain .start .human "2\t+\x01 2?",
    ⟨.model, "", [Agent.sumCall "x\ny"], none, none, .start, some ⟨none, none⟩⟩,
    ⟨.tool, "4", [], some "x\ny", some (.ofInt 4), .start, none⟩]⟩
  ending := .limitReached 1
  rounds := 1

theorem integral_sumResult : ∀ m ∈ sumResult.transcript.messages, m.Integral 100 := by
  have hnumber (n : Int) (hn : 0 ≤ n ∧ n ≤ 4) : Json.Integral 99 (.ofInt n) :=
    .int (by omega) (by omega)
  have hsum : Json.Integral 100 (Agent.sumCall "x\ny").arguments :=
    .obj (by unfold Table.Ascending; decide) (by simp [hnumber])
  simp only [sumResult, List.forall_mem_cons]
  refine ⟨⟨nofun, nofun⟩, ⟨?_, nofun⟩, ⟨nofun, ?_⟩, List.forall_mem_nil _⟩
  · exact List.forall_mem_singleton.mpr hsum
  · rintro v ⟨⟩
    exact .int (by decide) (by decide)

/-- A question with control characters and a call whose id has two lines: there are three lines of
messages and the notice. -/
theorem lines_of_finished_sum :
    let session := run (Agent.calculator (some 1)) .json .start 3 .never
      ⟨[.text "2\t+\x01 2?"], false⟩ [Agent.sumAnswer ["x\ny"]]
    ∃ turn, session.turns = [turn] ∧ turn.outcome = .finished sumResult ∧
      ((turn.outcome.write .json).toList.splitOn '\n').length = 5 ∧
      ∀ m ∈ sumResult.transcript.messages, parse m.line.toList = .ok m.toJson := by
  intro session
  obtain ⟨turn, hturn, houtcome⟩ :
      ∃ turn, session.turns = [turn] ∧ turn.outcome = .finished sumResult := ⟨_, rfl, rfl⟩
  obtain ⟨hsplit, hlines, -⟩ := (lines_of_finished (Agent.calculator (some 1)) .start 3 .never
    ⟨[.text "2\t+\x01 2?"], false⟩ [Agent.sumAnswer ["x\ny"]]).2 turn
    (hturn ▸ List.mem_singleton_self turn) sumResult houtcome
  exact ⟨turn, hturn, houtcome, by rw [hsplit]; rfl,
    fun m hm => (hlines m hm).2.2 (integral_sumResult m hm)⟩

end Session

end Dialogue
