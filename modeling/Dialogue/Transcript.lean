import Dialogue.Message

/-!
# Transcripts

A transcript is the list of messages of a conversation in the order in which they were said.
Messages are only ever added, at the end.
-/

namespace Dialogue

/-- The messages of a conversation. -/
structure Transcript where
  messages : List Message
deriving DecidableEq, Repr, Inhabited

namespace Transcript

/-- The transcript without messages. -/
def empty : Transcript := ⟨[]⟩

/-- The transcript that starts with what a user says. -/
def ofHuman (now : Time.Instant) (text : String) : Transcript :=
  ⟨[.plain now .human text]⟩

/-- Adds messages at the end. -/
def extend (t : Transcript) (ms : List Message) : Transcript :=
  ⟨t.messages ++ ms⟩

/-- Adds a message at the end. -/
def push (t : Transcript) (m : Message) : Transcript :=
  t.extend [m]

/-- The last message. -/
def last? (t : Transcript) : Option Message :=
  t.messages.getLast?

/-- The number of messages. -/
def size (t : Transcript) : Nat :=
  t.messages.length

/-- The calls of the last message that wait for observations. -/
def pendingCalls (t : Transcript) : List Call :=
  match t.last? with
  | some m => m.pendingCalls
  | none => []

/-- A transcript as a value. -/
def toJson (t : Transcript) : Json :=
  Json.object [("messages", .arr (t.messages.map Message.toJson))]

/-- Reads a transcript. -/
def decode (now : Time.Instant) : Json.Decoder Transcript :=
  Json.Record.decoder "ConversationState" 1 <|
    Transcript.mk <$> .required "messages" (.list (Message.decode now))

@[simp]
theorem messages_extend (t : Transcript) (ms : List Message) :
    (t.extend ms).messages = t.messages ++ ms :=
  rfl

@[simp]
theorem messages_push (t : Transcript) (m : Message) :
    (t.push m).messages = t.messages ++ [m] :=
  rfl

@[simp]
theorem extend_nil (t : Transcript) : t.extend [] = t := by
  simp [extend]

@[simp]
theorem extend_extend (t : Transcript) (ms ns : List Message) :
    (t.extend ms).extend ns = t.extend (ms ++ ns) := by
  simp [extend]

theorem extend_push (t : Transcript) (m : Message) (ms : List Message) :
    (t.push m).extend ms = t.extend (m :: ms) := by
  simp [push]

@[simp]
theorem last?_push (t : Transcript) (m : Message) : (t.push m).last? = some m := by
  simp [push, last?]

/-- After a message of the model, its calls wait. -/
theorem pendingCalls_push (t : Transcript) {m : Message} (h : m.role = .model) :
    (t.push m).pendingCalls = m.calls := by
  simp [pendingCalls, Message.pendingCalls, h]

end Transcript

end Dialogue
