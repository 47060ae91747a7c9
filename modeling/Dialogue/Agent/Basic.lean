import Dialogue.Agent.Step
import Dialogue.Backend.Basic
import Dialogue.Time.Span
import Dialogue.Tool.Toolbox

/-!
# Agents

An agent is a backend and a toolbox together with the rules of their use. This module holds the two
things an agent can do: ask the model, and run the tools that the model asked for.

Asking the model always gives a message. A backend that fails or is too slow is answered for by a
degraded reply, which tells the user of the failure and asks for no tools. Running tools goes from
left to right and stops at the first failure.

Only the model takes time; tools take none, also those of servers. The clock of messages stands
still: all that are made in one run have the same timestamp.
-/

namespace Dialogue

/-- A backend, a toolbox and the rules of their use. -/
structure Agent (ω : Type) where
  backend : Backend ω
  toolbox : Toolbox ω
  /-- What the system says in front of every request. -/
  instructions : String
  sampling : Sampling
  /-- How long the backend may take. -/
  patience : Option Time.Span
  /-- How often the model may be asked in one run. -/
  limit : Option Nat

/-- What the system says unless other instructions are given. -/
def defaultInstructions : String :=
  "You are a helpful conversational agent. Keep responses brief and engaging."

/-- How often the model may be asked unless another limit is given. -/
def defaultLimit : Nat := 25

/-! ## Replies -/

/-- What comes of asking the model. -/
inductive Reply where
  | answered (message : Message)
  /-- The backend failed for this reason. -/
  | degraded (reason : String)
deriving DecidableEq, Repr

/-- The reply that stands in for a backend that failed. It shows the start of the reason. -/
def degradedMessage (now : Time.Instant) (reason : String) : Message :=
  .plain now .model
    ("I received your message but had trouble processing it. Error: " ++
      String.ofList (reason.toList.take 50) ++ "...")

/-- The message of a reply. -/
def Reply.message (now : Time.Instant) : Reply → Message
  | .answered m => m
  | .degraded reason => degradedMessage now reason

@[simp]
theorem role_degradedMessage (now : Time.Instant) (reason : String) :
    (degradedMessage now reason).role = .model :=
  rfl

@[simp]
theorem calls_degradedMessage (now : Time.Instant) (reason : String) :
    (degradedMessage now reason).calls = [] :=
  rfl

/-! ## Asking the model -/

/-- A request of an agent with what came of it. -/
structure Asked (ω : Type) where
  request : Request
  reply : Reply
  /-- The milliseconds it took. -/
  elapsed : Nat
  world : ω

/-- The span that an answer exceeds: more milliseconds pass than a timer of that span runs. -/
def exceeded? (patience : Option Time.Span) (delay : Nat) : Option Time.Span :=
  patience.filter fun span => span.ticks < delay

/-- The reply that an answer makes. -/
def Reply.ofResult (now : Time.Instant) : Except Failure Completion → Reply
  | .ok c => .answered (c.toMessage now)
  | .error e => .degraded e.message

namespace Agent

variable {ω : Type}

/-- What the backend is shown of a transcript. -/
def request (a : Agent ω) (now : Time.Instant) (t : Transcript) : Request where
  messages := .plain now .system a.instructions :: t.messages
  tools := a.toolbox.signatures
  sampling := a.sampling

/-- Asks the model how a transcript goes on. -/
def ask (a : Agent ω) (now : Time.Instant) (t : Transcript) (w : ω) : Asked ω :=
  let r := a.request now t
  let (answer, w) := a.backend.complete r w
  match exceeded? a.patience answer.delay with
  | some span =>
    let e := Failure.backendUnavailable ("no response within " ++ span.render)
    ⟨r, .degraded e.message, span.ticks, w⟩
  | none => ⟨r, .ofResult now answer.result, answer.delay, w⟩

end Agent

/-! ## Running tools -/

namespace Toolbox

variable {ω : Type}

/-- Runs calls from left to right: the messages with their observations, or the first failure. -/
def runCalls (b : Toolbox ω) (now : Time.Instant) :
    List Call → ω → Except Failure (List Message) × ω
  | [], w => (.ok [], w)
  | c :: cs, w =>
    match b.execute c w with
    | (.error e, w) => (.error e, w)
    | (.ok o, w) =>
      match b.runCalls now cs w with
      | (.error e, w) => (.error e, w)
      | (.ok ms, w) => (.ok (.ofObservation now c.id o :: ms), w)

/-- Runs the calls that the last message of a transcript asks for. -/
def runPending (b : Toolbox ω) (now : Time.Instant) (t : Transcript) (w : ω) :
    Except Failure (List Message) × ω :=
  if t.pendingCalls.isEmpty then (.error .noPendingCalls, w) else b.runCalls now t.pendingCalls w

end Toolbox

end Dialogue
