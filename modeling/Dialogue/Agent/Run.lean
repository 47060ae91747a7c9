import Dialogue.Agent.Basic

/-!
# Runs

A run asks the model, runs the tools it asks for, shows it the observations, and so on until it
answers without calls, a tool fails, the limit is reached or an interrupt comes. The limit is looked
at before every request but the first, so the model is always asked once.

A run is bounded by `fuel`, the number of times it may come to the model. It reports every request
that was made, also when it fails or is cancelled.

An interrupt comes before everything, while the model is waited for, or together with its answer.
Since tools take no time it never comes while one runs: a call to the server of a tool is made or
not made, and not left half way.
-/

namespace Dialogue

/-! ## Interrupts -/

/-- An interrupt that may come during a run. -/
structure Interrupt where
  /-- The milliseconds until it comes. -/
  after : Option Nat
  /-- Whether it comes first when it falls together with the answer to the request of a number. -/
  first : Nat → Bool

namespace Interrupt

/-- No interrupt. -/
def never : Interrupt := ⟨none, fun _ => true⟩

/-- The interrupt after an answer that took a number of milliseconds, none if it came before. -/
def elapse (i : Interrupt) (round milliseconds : Nat) : Option Interrupt :=
  match i.after with
  | none => some i
  | some left =>
    if left < milliseconds ∨ (left = milliseconds ∧ i.first round) then none
    else some { i with after := some (left - milliseconds) }

@[simp]
theorem elapse_never (round milliseconds : Nat) : never.elapse round milliseconds = some never :=
  rfl

end Interrupt

/-! ## Runs -/

/-- What a run that came to its end gives. -/
structure Result where
  transcript : Transcript
  ending : Ending
  /-- How often the model was asked. -/
  rounds : Nat
deriving DecidableEq, Repr

/-- How a run went. -/
inductive Outcome where
  | finished (result : Result)
  | failed (failure : Failure)
  | cancelled
  /-- The fuel ran out. -/
  | unfinished
deriving DecidableEq, Repr

/-- How a run went, the requests it made, and the world it leaves. -/
structure Run (ω : Type) where
  outcome : Outcome
  requests : List Request
  world : ω

namespace Run

variable {ω : Type}

/-- The run with a request before it. -/
def after (request : Request) (r : Run ω) : Run ω :=
  { r with requests := request :: r.requests }

@[simp]
theorem outcome_after (request : Request) (r : Run ω) : (r.after request).outcome = r.outcome :=
  rfl

@[simp]
theorem requests_after (request : Request) (r : Run ω) :
    (r.after request).requests = request :: r.requests :=
  rfl

@[simp]
theorem world_after (request : Request) (r : Run ω) : (r.after request).world = r.world :=
  rfl

end Run

namespace Agent

variable {ω : Type}

/-- The limit, if it allows no request after `rounds` of them. -/
def limitReached? (a : Agent ω) (rounds : Nat) : Option Nat :=
  a.limit.filter fun limit => 0 < rounds && limit ≤ rounds

/-- A run from the model on, when `rounds` requests were made before. -/
def runFrom (a : Agent ω) (now : Time.Instant) :
    (fuel rounds : Nat) → Interrupt → Transcript → ω → Run ω
  | 0, _, _, _, w => ⟨.unfinished, [], w⟩
  | fuel + 1, rounds, i, t, w =>
    match a.limitReached? rounds with
    | some limit => ⟨.finished ⟨t, .limitReached limit, rounds⟩, [], w⟩
    | none =>
      let asked := a.ask now t w
      match i.elapse rounds asked.elapsed with
      | none => ⟨.cancelled, [asked.request], asked.world⟩
      | some i =>
        let t := t.push (asked.reply.message now)
        match Step.afterModel t with
        | .runTools =>
          match a.toolbox.runPending now t asked.world with
          | (.error e, w) => ⟨.failed e, [asked.request], w⟩
          | (.ok ms, w) => (a.runFrom now fuel (rounds + 1) i (t.extend ms) w).after asked.request
        | _ => ⟨.finished ⟨t, .answered, rounds + 1⟩, [asked.request], asked.world⟩

/-- A run from a transcript without interrupts. -/
def run (a : Agent ω) (now : Time.Instant) (fuel : Nat) (t : Transcript) (w : ω) : Run ω :=
  a.runFrom now fuel 0 .never t w

/-- A run that an interrupt may cancel. An interrupt that is there at the start comes before
everything. -/
def runUnder (a : Agent ω) (now : Time.Instant) (fuel : Nat) (i : Interrupt) (t : Transcript)
    (w : ω) : Run ω :=
  if i.after = some 0 then ⟨.cancelled, [], w⟩ else a.runFrom now fuel 0 i t w

end Agent

end Dialogue
