import Dialogue.Proofs.Agent.Rounds
import Dialogue.Proofs.Session.Lines

/-!
# Turns

What a session goes through, said turn by turn. `Follow` threads the world through turns that follow
one another: each starts a transcript with its own line, in the world that the turn before it has
left. `Stops` lists the ways in which a session stops where it has come to, and `Writes` says what a
turn writes that went to its end.

Main statements: `Follow.runFrom_eq` (a session that has come to a line is the session from there
on, after what the turns before it have written) and `exists_follow_stops` (every session goes
through turns and stops after them).
-/

namespace Dialogue

/-! ## What turns write -/

/-- What a turn writes that is not cancelled: every message of its transcript as a line, and that
the limit was reached if it was; or what the user is told of its failure. -/
inductive Writes (format : Format) : Outcome → String → Prop where
  | answered {r : Result} : r.ending = .answered →
      Writes format (.finished r) (String.join (r.transcript.messages.map format.write))
  | limitReached {r : Result} {limit : Nat} : r.ending = .limitReached limit →
      Writes format (.finished r) (String.join (r.transcript.messages.map format.write) ++
        ("[stopped after " ++ toString limit ++ " model calls without a final answer]\n"))
  | failed {e : Failure} : Writes format (.failed e) ("Error: " ++ e.notice ++ "\n")

/-- A turn that goes to its end writes what is said of its outcome. -/
theorem writes_write (format : Format) {outcome : Outcome} (hcancelled : outcome ≠ .cancelled)
    (hunfinished : outcome ≠ .unfinished) : Writes format outcome (outcome.write format) := by
  cases outcome with
  | finished r =>
    rcases hending : r.ending with _ | limit
    · simp only [Outcome.write, hending, Ending.notice, String.append_empty]
      exact .answered hending
    · simp only [Outcome.write, hending, Ending.notice]
      exact .limitReached hending
  | failed e => exact .failed
  | cancelled => exact absurd rfl hcancelled
  | unfinished => exact absurd rfl hunfinished

/-- A turn of a session: the line that was typed, the interrupt that may come, and the world that
the turn finds. -/
structure Turn (ω : Type) where
  line : String
  interrupt : Interrupt
  world : ω

namespace Turn

variable {ω : Type}

/-- The run of a turn: it starts with the line and nothing else. -/
def run (a : Agent ω) (now : Time.Instant) (fuel : Nat) (turn : Turn ω) : Run ω :=
  a.runUnder now fuel turn.interrupt (.ofHuman now turn.line) turn.world

/-- The run that a turn would have without its interrupt. -/
def whole (a : Agent ω) (now : Time.Instant) (fuel : Nat) (turn : Turn ω) : Run ω :=
  a.run now fuel (.ofHuman now turn.line) turn.world

end Turn

namespace Session

variable {ω : Type} {a : Agent ω} {format : Format} {now : Time.Instant} {fuel : Nat}
  {schedule : Schedule} {isOpen : Bool} {wait : Nat} {w w' : ω} {turns : List (Turn ω)}
  {lines rest : List Line} {s : Session ω}

/-- The session with turns before it. -/
def afterAll (format : Format) (runs : List (Run ω)) (s : Session ω) : Session ω :=
  { s with
    output := String.join (runs.map fun run => prompt ++ run.outcome.write format) ++ s.output
    turns := runs ++ s.turns }

@[simp]
theorem afterAll_nil (format : Format) (s : Session ω) : s.afterAll format [] = s := by
  simp [afterAll]

theorem afterAll_cons (format : Format) (run : Run ω) (runs : List (Run ω)) (s : Session ω) :
    s.afterAll format (run :: runs) = (s.afterAll format runs).after format run := by
  simp [afterAll, after, String.append_assoc]

/-! ## Turns one after another -/

/-- Turns follow one another from the wait of a number and a world on: each is typed before an
interrupt comes, is not blank, goes to its end or is cancelled, and leaves its world to the next. -/
inductive Follow (a : Agent ω) (now : Time.Instant) (fuel : Nat) (schedule : Schedule) :
    (wait : Nat) → ω → List (Turn ω) → ω → Prop where
  | nil {wait : Nat} {w : ω} : Follow a now fuel schedule wait w [] w
  | cons {wait : Nat} {turn : Turn ω} {turns : List (Turn ω)} {w' : ω} :
      schedule.beatsLine wait = false → ¬ Line.Blank turn.line →
      turn.interrupt = schedule.interrupt (wait + 1) →
      (turn.run a now fuel).outcome ≠ .unfinished →
      Follow a now fuel schedule (wait + 2) (turn.run a now fuel).world turns w' →
      Follow a now fuel schedule wait turn.world (turn :: turns) w'

/-- How a session stops that waits for a line. -/
inductive Stops (a : Agent ω) (now : Time.Instant) (fuel : Nat) (schedule : Schedule)
    (isOpen : Bool) (wait : Nat) (w : ω) : List Line → Session ω → Prop where
  /-- The input has ended, or an interrupt comes while nothing is typed. -/
  | ended : (isOpen = true → schedule.after wait ≠ none) →
      Stops a now fuel schedule isOpen wait w [] (stop .ended w)
  | waiting : isOpen = true → schedule.after wait = none →
      Stops a now fuel schedule isOpen wait w [] (stop .waiting w)
  /-- An interrupt comes before the line. -/
  | interrupted {line : Line} {rest : List Line} : schedule.beatsLine wait = true →
      Stops a now fuel schedule isOpen wait w (line :: rest) (stop .ended w)
  | unreadable {rest : List Line} : schedule.beatsLine wait = false →
      Stops a now fuel schedule isOpen wait w (.unreadable :: rest) (stop .unreadable w)
  | blank {line : String} {rest : List Line} : schedule.beatsLine wait = false →
      Line.Blank line → Stops a now fuel schedule isOpen wait w (.text line :: rest) (stop .ended w)
  | unfinished {turn : Turn ω} {rest : List Line} : schedule.beatsLine wait = false →
      ¬ Line.Blank turn.line → turn.interrupt = schedule.interrupt (wait + 1) → turn.world = w →
      (turn.run a now fuel).outcome = .unfinished →
      Stops a now fuel schedule isOpen wait w (.text turn.line :: rest)
        ⟨prompt, .unfinished, [turn.run a now fuel], (turn.run a now fuel).world⟩

/-- The lines of turns. -/
def linesOf (turns : List (Turn ω)) : List Line :=
  turns.map fun turn => .text turn.line

/-- A line that is typed in time and not blank makes a turn. -/
theorem runFrom_of_turn {turn : Turn ω} (hwait : schedule.beatsLine wait = false)
    (hblank : ¬ Line.Blank turn.line) (hi : turn.interrupt = schedule.interrupt (wait + 1))
    (rest : List Line) :
    runFrom a format now fuel schedule isOpen wait (.text turn.line :: rest) turn.world =
      if (turn.run a now fuel).outcome = .unfinished then
        ⟨prompt, .unfinished, [turn.run a now fuel], (turn.run a now fuel).world⟩
      else
        (runFrom a format now fuel schedule isOpen (wait + 2) rest
          (turn.run a now fuel).world).after format (turn.run a now fuel) := by
  have htrim : ¬ (Text.trim turn.line.toList).isEmpty = true := fun h =>
    hblank (Line.blank_iff.mp h)
  simp only [runFrom, hwait, Bool.false_eq_true, if_false, if_neg htrim, Turn.run, hi]

/-- **On the way.** A session that has come to a line is the session from there on, after the turns
before it. -/
theorem Follow.runFrom_eq (h : Follow a now fuel schedule wait w turns w') (rest : List Line) :
    runFrom a format now fuel schedule isOpen wait (linesOf turns ++ rest) w =
      (runFrom a format now fuel schedule isOpen (wait + 2 * turns.length) rest w').afterAll format
        (turns.map (·.run a now fuel)) := by
  induction h with
  | nil => simp [linesOf]
  | @cons wait turn turns w' hwait hblank hi hout _ ih =>
    have hnumber : wait + 2 + 2 * turns.length = wait + 2 * (turns.length + 1) := by omega
    rw [hnumber] at ih
    rw [linesOf, List.map_cons, List.cons_append, runFrom_of_turn hwait hblank hi, if_neg hout,
      List.map_cons, afterAll_cons, List.length_cons, ← ih]
    rfl

/-- What holds of the world at the start and is kept by every turn holds of the world that each turn
finds, and of the one that they leave. -/
theorem Follow.forall_world (P : ω → Prop) (h : Follow a now fuel schedule wait w turns w')
    (hstep : ∀ turn : Turn ω, P turn.world → P (turn.run a now fuel).world) (hw : P w) :
    (∀ turn ∈ turns, P turn.world) ∧ P w' := by
  induction h with
  | nil => exact ⟨nofun, hw⟩
  | @cons wait turn turns w' _ _ _ _ _ ih =>
    obtain ⟨hturns, hw'⟩ := ih (hstep turn hw)
    refine ⟨fun x hx => ?_, hw'⟩
    rcases List.mem_cons.mp hx with rfl | hmem
    · exact hw
    · exact hturns x hmem

/-- The interrupts of turns are those of their waits. -/
theorem Follow.exists_interrupt (h : Follow a now fuel schedule wait w turns w') :
    ∀ turn ∈ turns, ¬ Line.Blank turn.line ∧ ∃ n, turn.interrupt = schedule.interrupt n := by
  induction h with
  | nil => exact nofun
  | cons _ hblank hi _ _ ih =>
    intro x hx
    rcases List.mem_cons.mp hx with rfl | hmem
    · exact ⟨hblank, _, hi⟩
    · exact ih x hmem

/-- The session stops in the way that is said. -/
theorem Stops.runFrom_eq (h : Stops a now fuel schedule isOpen wait w lines s) :
    runFrom a format now fuel schedule isOpen wait lines w = s := by
  cases h with
  | ended hafter =>
    rw [runFrom, if_neg]
    rintro ⟨hopen, hnone⟩
    exact hafter hopen hnone
  | waiting hopen hnone => rw [runFrom, if_pos ⟨hopen, hnone⟩]
  | interrupted hwait => simp only [runFrom, hwait, if_true]
  | unreadable hwait => simp only [runFrom, hwait, Bool.false_eq_true, if_false]
  | blank hwait hblank =>
    simp only [runFrom, hwait, Bool.false_eq_true, if_false, if_pos (Line.blank_iff.mpr hblank)]
  | unfinished hwait hblank hi hw hout =>
    subst hw
    rw [runFrom_of_turn hwait hblank hi, if_pos hout]

/-- A session stops while it waits for a line, unless the fuel of a turn runs out. -/
theorem Stops.exists_eq_stop (h : Stops a now fuel schedule isOpen wait w lines s)
    (hrun : ∀ turn : Turn ω, turn.world = w → (turn.run a now fuel).outcome ≠ .unfinished) :
    ∃ status, status ≠ .unfinished ∧ s = stop status w := by
  cases h with
  | ended _ => exact ⟨.ended, nofun, rfl⟩
  | waiting _ _ => exact ⟨.waiting, nofun, rfl⟩
  | interrupted _ => exact ⟨.ended, nofun, rfl⟩
  | unreadable _ => exact ⟨.unreadable, nofun, rfl⟩
  | blank _ _ => exact ⟨.ended, nofun, rfl⟩
  | unfinished _ _ _ hw hout => exact absurd hout (hrun _ hw)

/-- Where a session waits for a line, it stops or makes a turn. -/
theorem stops_or_turn (a : Agent ω) (now : Time.Instant) (fuel : Nat) (schedule : Schedule)
    (isOpen : Bool) (wait : Nat) (lines : List Line) (w : ω) :
    (∃ s, Stops a now fuel schedule isOpen wait w lines s) ∨
      ∃ (turn : Turn ω) (rest : List Line), lines = .text turn.line :: rest ∧ turn.world = w ∧
        schedule.beatsLine wait = false ∧ ¬ Line.Blank turn.line ∧
        turn.interrupt = schedule.interrupt (wait + 1) ∧
        (turn.run a now fuel).outcome ≠ .unfinished := by
  cases lines with
  | nil =>
    by_cases hwaiting : isOpen = true ∧ schedule.after wait = none
    · exact .inl ⟨_, .waiting hwaiting.1 hwaiting.2⟩
    · exact .inl ⟨_, .ended fun hopen hnone => hwaiting ⟨hopen, hnone⟩⟩
  | cons line rest =>
    rcases Bool.eq_false_or_eq_true (schedule.beatsLine wait) with hwait | hwait
    · exact .inl ⟨_, .interrupted hwait⟩
    · cases line with
      | unreadable => exact .inl ⟨_, .unreadable hwait⟩
      | text line =>
        by_cases hblank : Line.Blank line
        · exact .inl ⟨_, .blank hwait hblank⟩
        · let turn : Turn ω := ⟨line, schedule.interrupt (wait + 1), w⟩
          by_cases hout : (turn.run a now fuel).outcome = .unfinished
          · exact .inl ⟨_, .unfinished hwait hblank rfl rfl hout⟩
          · exact .inr ⟨turn, rest, rfl, rfl, hwait, hblank, rfl, hout⟩

/-- **Every session** goes through turns, one for each of the first lines, and stops after them. -/
theorem exists_follow_stops (a : Agent ω) (format : Format) (now : Time.Instant) (fuel : Nat)
    (schedule : Schedule) (isOpen : Bool) (wait : Nat) (lines : List Line) (w : ω) :
    ∃ turns rest w' s, lines = linesOf turns ++ rest ∧
      Follow a now fuel schedule wait w turns w' ∧
      Stops a now fuel schedule isOpen (wait + 2 * turns.length) w' rest s ∧
      runFrom a format now fuel schedule isOpen wait lines w =
        s.afterAll format (turns.map (·.run a now fuel)) := by
  suffices hturns : ∃ turns rest w' s, lines = linesOf turns ++ rest ∧
      Follow a now fuel schedule wait w turns w' ∧
      Stops a now fuel schedule isOpen (wait + 2 * turns.length) w' rest s by
    obtain ⟨turns, rest, w', s, rfl, hfollow, hstop⟩ := hturns
    refine ⟨turns, rest, w', s, rfl, hfollow, hstop, ?_⟩
    rw [hfollow.runFrom_eq, hstop.runFrom_eq]
  -- The induction is on the lines that are left: every turn takes one.
  induction hlength : lines.length generalizing lines wait w with
  | zero =>
    obtain rfl := List.eq_nil_of_length_eq_zero hlength
    rcases stops_or_turn a now fuel schedule isOpen wait [] w with
      ⟨s, hstop⟩ | ⟨_, _, hlines, -⟩
    · exact ⟨[], [], w, s, rfl, .nil, hstop⟩
    · cases hlines
  | succ n ih =>
    rcases stops_or_turn a now fuel schedule isOpen wait lines w with
      ⟨s, hstop⟩ | ⟨turn, rest, rfl, rfl, hwait, hblank, hi, hout⟩
    · exact ⟨[], lines, w, s, rfl, .nil, hstop⟩
    · obtain ⟨turns, rest', w', s, rfl, hfollow, hstop⟩ :=
        ih (wait + 2) rest (turn.run a now fuel).world (Nat.succ.inj hlength)
      have hnumber : wait + 2 + 2 * turns.length = wait + 2 * (turns.length + 1) := by omega
      rw [hnumber] at hstop
      exact ⟨turn :: turns, rest', w', s, rfl, .cons hwait hblank hi hout hfollow, hstop⟩

/-! ## Interrupts between turns -/

/-- An interrupt that comes while a line is awaited, after the first `k` of them, ends the session
as the end of the input does. -/
theorem runFrom_take {k : Nat} (hk : k ≤ lines.length)
    (h : schedule.beatsLine (wait + 2 * k) = true ∨
      k = lines.length ∧ schedule.after (wait + 2 * k) ≠ none) (w : ω) :
    runFrom a format now fuel schedule isOpen wait lines w =
      runFrom a format now fuel schedule false wait (lines.take k) w := by
  induction k generalizing wait lines w with
  | zero =>
    have hends : Stops a now fuel schedule isOpen wait w lines (stop .ended w) := by
      rcases h with hbeats | ⟨hlength, hafter⟩
      · cases lines with
        | nil =>
          refine .ended fun _ hnone => ?_
          simp [Schedule.beatsLine, hnone] at hbeats
        | cons line rest => exact .interrupted hbeats
      · obtain rfl : lines = [] := List.eq_nil_of_length_eq_zero hlength.symm
        exact .ended fun _ => hafter
    have hclosed : Stops a now fuel schedule false wait w [] (stop .ended w) := .ended nofun
    rw [hends.runFrom_eq, List.take_zero, hclosed.runFrom_eq]
  | succ k ih =>
    cases lines with
    | nil => cases hk
    | cons line rest =>
      have hnumber : wait + 2 * (k + 1) = wait + 2 + 2 * k := by omega
      rw [hnumber, List.length_cons, Nat.add_right_cancel_iff] at h
      have hrest := ih (Nat.le_of_succ_le_succ hk) h
      -- Both sessions do the same with the first line.
      rw [List.take_succ_cons]
      cases line with
      | unreadable => simp only [runFrom]
      | text line => simp only [runFrom, hrest]

end Session

end Dialogue
