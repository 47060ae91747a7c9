import Dialogue.Agent.Run
import Dialogue.Text.Utf8

/-!
# Sessions

A session asks for a line, runs the agent on it, writes what came of it, and asks for the next line,
up to a blank line or the end of the input. Every turn starts a transcript of its own. A turn that
fails does not end the session. An interrupt cancels the turn that is under way; one that comes
while a line is awaited ends the session.

What a turn writes is a function of the outcome of its run, so a cancelled turn shows nothing of
what it had computed. All messages of a session have the timestamp of its start.
-/

namespace Dialogue

/-! ## Lines -/

/-- A line of input. -/
inductive Line where
  | text (s : String)
  /-- Octets that are not text. -/
  | unreadable
deriving DecidableEq, Repr

namespace Line

/-- The line of these octets. -/
def ofOctets (octets : List Nat) : Line :=
  match Text.Utf8.decode? octets with
  | some cs => .text (String.ofList cs)
  | none => .unreadable

/-- The octets of a line without the carriage return before its line feed. -/
def dropReturn (octets : List Nat) : List Nat :=
  if octets.getLast? = some 0x0D then octets.dropLast else octets

/-- The lines of octets. What stands after the last line feed is a line only if the input ends there
and something stands there. -/
def split (isOpen : Bool) (octets : List Nat) : List Line :=
  let pieces := octets.splitOn 0x0A
  let whole := pieces.dropLast.map fun piece => ofOctets (dropReturn piece)
  let last := pieces.getLast?.getD []
  if isOpen ∨ last.isEmpty then whole else whole ++ [ofOctets last]

example : split false [0x61, 0x0D, 0x0A, 0x62, 0x0D] = [.text "a", .text "b\r"] := by decide
example : split true [0x61, 0x0A, 0x62] = [.text "a"] := by decide

end Line

/-- The lines that are to come, and whether the input stays open after them. -/
structure Input where
  lines : List Line
  isOpen : Bool

/-- The input of octets. -/
def Input.ofOctets (isOpen : Bool) (octets : List Nat) : Input :=
  ⟨Line.split isOpen octets, isOpen⟩

/-! ## Interrupts -/

/-- When interrupts come. The waits of a session are numbered: one for each line that is awaited and
one for each turn, in turns. -/
structure Schedule where
  /-- The milliseconds after which a wait is interrupted. -/
  after : Nat → Option Nat
  /-- Whether the interrupt of a wait comes first when it falls together with an event: a line, or
  the answer to the request of a number. -/
  first : Nat → Nat → Bool

namespace Schedule

/-- No interrupts. -/
def never : Schedule := ⟨fun _ => none, fun _ _ => true⟩

/-- The interrupt of a wait. -/
def interrupt (s : Schedule) (wait : Nat) : Interrupt :=
  ⟨s.after wait, s.first wait⟩

/-- Whether the wait for a line that is there is interrupted before the line is taken. -/
def beatsLine (s : Schedule) (wait : Nat) : Bool :=
  s.after wait == some 0 && s.first wait 0

end Schedule

/-! ## What is written -/

/-- How messages are written. -/
inductive Format where
  | text
  /-- One JSON object a line. -/
  | json
deriving DecidableEq, Repr

/-- A message as it is written. -/
def Format.write : Format → Message → String
  | .text, m => m.render ++ "\n"
  | .json, m => m.line ++ "\n"

/-- What stands before each line of input. -/
def prompt : String := "Enter your message: "

/-- The notice that a limit was reached. -/
def limitNotice (limit : Nat) : String :=
  "[stopped after " ++ toString limit ++ " model calls without a final answer]\n"

/-- The notice of an ending. -/
def Ending.notice : Ending → String
  | .answered => ""
  | .limitReached limit => limitNotice limit

/-- What the outcome of a turn writes. -/
def Outcome.write (format : Format) : Outcome → String
  | .finished r => String.join (r.transcript.messages.map format.write) ++ r.ending.notice
  | .failed e => "Error: " ++ e.notice ++ "\n"
  | .cancelled => "\n[cancelled]\n"
  | .unfinished => ""

/-! ## Sessions -/

/-- How a session ended. -/
inductive Status where
  /-- By a blank line, the end of the input or an interrupt. -/
  | ended
  /-- By a line that is not text. -/
  | unreadable
  /-- It did not: the input is open and nothing more comes. -/
  | waiting
  /-- It did not: the fuel of a turn ran out. -/
  | unfinished
deriving DecidableEq, Repr

/-- What a session did. -/
structure Session (ω : Type) where
  output : String
  status : Status
  /-- The runs of its turns. -/
  turns : List (Run ω)
  world : ω

namespace Session

variable {ω : Type}

/-- The requests that were made. -/
def requests (s : Session ω) : List Request :=
  s.turns.flatMap (·.requests)

/-- A session that ends while it waits for a line. -/
def stop (status : Status) (w : ω) : Session ω :=
  ⟨prompt, status, [], w⟩

/-- The session with a turn before it. -/
def after (format : Format) (turn : Run ω) (s : Session ω) : Session ω :=
  { s with output := prompt ++ turn.outcome.write format ++ s.output, turns := turn :: s.turns }

/-- A session from the wait of a number on. `fuel` bounds each turn. -/
def runFrom (a : Agent ω) (format : Format) (now : Time.Instant) (fuel : Nat) (schedule : Schedule)
    (isOpen : Bool) : (wait : Nat) → List Line → ω → Session ω
  | wait, [], w => stop (if isOpen ∧ schedule.after wait = none then .waiting else .ended) w
  | wait, line :: rest, w =>
    if schedule.beatsLine wait then stop .ended w
    else
      match line with
      | .unreadable => stop .unreadable w
      | .text line =>
        if (Text.trim line.toList).isEmpty then stop .ended w
        else
          let turn := a.runUnder now fuel (schedule.interrupt (wait + 1)) (.ofHuman now line) w
          if turn.outcome = .unfinished then ⟨prompt, .unfinished, [turn], turn.world⟩
          else
            (runFrom a format now fuel schedule isOpen (wait + 2) rest turn.world).after format turn

/-- A session over an input. -/
def run (a : Agent ω) (format : Format) (now : Time.Instant) (fuel : Nat) (schedule : Schedule)
    (input : Input) (w : ω) : Session ω :=
  runFrom a format now fuel schedule input.isOpen 0 input.lines w

end Session

end Dialogue
