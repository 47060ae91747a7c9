import Dialogue.Proofs.Agent.InterruptedRehearsal
import Dialogue.Proofs.Session.Turns
import Mathlib.Data.List.Forall2

/-!
# Turns apart

What the turns of a session have to do with each other, in a session with a script. Nothing that is
said in a turn is shown in another: every request of a turn is made of what the system says, the
line of the turn and the messages of its own rounds. The one thing that passes from turn to turn is
the rest of the script, and each turn takes from it as many answers as it makes requests.

Main statements: `run_of_octets` (a session over octets, without interrupts, from the first prompt
to the last) and `run_of_interrupts` (a session under interrupts: every turn is written as a whole
or not at all).
-/

namespace Dialogue

variable {σ : Type}

/-! ## One turn -/

namespace Turn

/-- A turn of a session with a script that has nothing of the turns before it. -/
structure Apart (a : Agent (Script × σ)) (now : Time.Instant) (fuel : Nat)
    (turn : Turn (Script × σ)) : Prop where
  /-- It takes an answer of the script for each of its requests. -/
  script : (turn.run a now fuel).world.1 =
    turn.world.1.drop (turn.run a now fuel).requests.length
  /-- Its requests show what the system says, its line, and rounds that it has played. -/
  requests : ∀ q ∈ (turn.run a now fuel).requests, ∃ rs t' w',
    a.Reaches now (.ofHuman now turn.line) turn.world rs t' w' ∧
    q.messages = .plain now .system a.instructions :: .plain now .human turn.line ::
      Round.allMessages now rs

/-- What a turn gives under its interrupt, and what it writes: all of the turn without the
interrupt, or nothing of it. If the interrupt comes when `n` requests have been made, these are all
the requests of the turn. -/
inductive Gives (a : Agent (Script × σ)) (format : Format) (now : Time.Instant) (fuel : Nat)
    (turn : Turn (Script × σ)) : String → Prop where
  | whole {text : String} :
      (∀ n ≤ (turn.whole a now fuel).requests.length,
        ¬ turn.interrupt.Finds (turn.world.1.time a.patience) n) →
      turn.run a now fuel = turn.whole a now fuel →
      Writes format (turn.whole a now fuel).outcome text → Gives a format now fuel turn text
  | nothing {n : Nat} : n ≤ (turn.whole a now fuel).requests.length →
      turn.interrupt.Finds (turn.world.1.time a.patience) n →
      (turn.run a now fuel).outcome = .cancelled →
      (turn.run a now fuel).requests = (turn.whole a now fuel).requests.take n →
      Gives a format now fuel turn "\n[cancelled]\n"

variable {b : Toolbox σ} {instructions : String} {sampling : Sampling}
  {patience : Option Time.Span} {limit : Option Nat} {now : Time.Instant} {fuel : Nat}
  {turn : Turn (Script × σ)}

/-- A turn is the whole turn, or it is cut off. -/
theorem run_cases (b : Toolbox σ) (instructions : String) (sampling : Sampling)
    (patience : Option Time.Span) (limit : Option Nat) (now : Time.Instant) (fuel : Nat)
    (turn : Turn (Script × σ)) :
    let a := Agent.rehearsal b instructions sampling patience limit
    (∃ n ≤ (turn.whole a now fuel).requests.length,
      turn.interrupt.Finds (turn.world.1.time patience) n ∧
      (turn.run a now fuel).outcome = .cancelled ∧
      (turn.run a now fuel).requests = (turn.whole a now fuel).requests.take n) ∨
    (∀ n ≤ (turn.whole a now fuel).requests.length,
      ¬ turn.interrupt.Finds (turn.world.1.time patience) n) ∧
      turn.run a now fuel = turn.whole a now fuel :=
  Agent.runUnder_rehearsal b instructions sampling patience limit now fuel turn.interrupt
    (.ofHuman now turn.line) turn.world.1 turn.world.2

/-- A turn with fuel for the script goes to its end or is cancelled. -/
theorem run_ne_unfinished (hfuel : turn.world.1.length < fuel) :
    (turn.run (.rehearsal b instructions sampling patience limit) now fuel).outcome ≠
      .unfinished := by
  rcases run_cases b instructions sampling patience limit now fuel turn with
    ⟨n, -, -, hout, -⟩ | ⟨-, hrun⟩
  · rw [hout]
    exact nofun
  · rw [hrun]
    exact (Agent.run_rehearsal_ne hfuel).1

/-- **All or nothing.** -/
theorem gives_write (format : Format) (hfuel : turn.world.1.length < fuel) :
    turn.Gives (.rehearsal b instructions sampling patience limit) format now fuel
      ((turn.run (.rehearsal b instructions sampling patience limit) now fuel).outcome.write
        format) := by
  rcases run_cases b instructions sampling patience limit now fuel turn with
    ⟨n, hn, hfinds, hout, hrequests⟩ | ⟨hfinds, hrun⟩
  · rw [hout]
    exact .nothing hn hfinds hout hrequests
  · obtain ⟨hunfinished, hcancelled⟩ : (turn.whole (.rehearsal b instructions sampling patience
        limit) now fuel).outcome ≠ .unfinished ∧ _ := Agent.run_rehearsal_ne hfuel
    rw [hrun]
    exact .whole hfinds hrun (writes_write format hcancelled hunfinished)

/-- Every turn is apart from those before it. -/
theorem apart (b : Toolbox σ) (instructions : String) (sampling : Sampling)
    (patience : Option Time.Span) (limit : Option Nat) (now : Time.Instant) (fuel : Nat)
    (turn : Turn (Script × σ)) :
    turn.Apart (.rehearsal b instructions sampling patience limit) now fuel where
  script := Agent.script_of_runUnder b instructions sampling patience limit now fuel
    turn.interrupt (.ofHuman now turn.line) turn.world
  requests q hq := by
    have hwhole : q ∈ (turn.whole (.rehearsal b instructions sampling patience limit) now
        fuel).requests := by
      rcases run_cases b instructions sampling patience limit now fuel turn with
        ⟨n, -, -, -, hrequests⟩ | ⟨-, hrun⟩
      · exact List.mem_of_mem_take (hrequests ▸ hq)
      · exact hrun ▸ hq
    obtain ⟨rs, t', w', hreach, -, rfl⟩ := Agent.exists_reaches_of_mem_requests hwhole
    refine ⟨rs, t', w', hreach, ?_⟩
    rw [hreach.plays.transcript_eq]
    rfl

end Turn

namespace Session

open Agent (sumAnswer)

variable {b : Toolbox σ} {instructions : String} {sampling : Sampling}
  {patience : Option Time.Span} {limit : Option Nat} {now : Time.Instant} {fuel : Nat}
  {schedule : Schedule} {wait : Nat} {w w' : Script × σ} {turns : List (Turn (Script × σ))}

/-- The script gets shorter from turn to turn. -/
theorem Follow.length_script_le
    (h : Follow (.rehearsal b instructions sampling patience limit) now fuel schedule wait w turns
      w') : (∀ turn ∈ turns, turn.world.1.length ≤ w.1.length) ∧ w'.1.length ≤ w.1.length := by
  refine h.forall_world (fun x => x.1.length ≤ w.1.length) (fun turn hle => ?_) (Nat.le_refl _)
  rw [(turn.apart b instructions sampling patience limit now fuel).script, List.length_drop]
  omega

/-- The world of functions is the same in all turns. -/
theorem Follow.tools_eq (hb : ∀ x ∈ b.tools, x.IsFunction)
    (h : Follow (.rehearsal b instructions sampling patience limit) now fuel schedule wait w turns
      w') : ∀ turn ∈ turns, turn.world.2 = w.2 :=
  (h.forall_world (fun x => x.2 = w.2) (fun turn htools => (Agent.tools_of_runUnder hb now fuel
    turn.interrupt (.ofHuman now turn.line) turn.world).trans htools) rfl).1

/-- **A session with a script.** With fuel for the script, every turn goes to its end or is
cancelled, and the session stops while it waits for a line. -/
theorem exists_follow_stop (b : Toolbox σ) (instructions : String) (sampling : Sampling)
    (patience : Option Time.Span) (limit : Option Nat) (format : Format) (now : Time.Instant)
    (schedule : Schedule) (isOpen : Bool) (lines : List Line) {w : Script × σ}
    (hfuel : w.1.length < fuel) :
    let a := Agent.rehearsal b instructions sampling patience limit
    ∃ turns rest w' status, lines = linesOf turns ++ rest ∧ status ≠ .unfinished ∧
      Follow a now fuel schedule 0 w turns w' ∧
      Stops a now fuel schedule isOpen (2 * turns.length) w' rest (stop status w') ∧
      runFrom a format now fuel schedule isOpen 0 lines w =
        (stop status w').afterAll format (turns.map (·.run a now fuel)) := by
  intro a
  obtain ⟨turns, rest, w', s, hlines, hfollow, hstop, hrun⟩ :=
    exists_follow_stops a format now fuel schedule isOpen 0 lines w
  have hleft : w'.1.length < fuel := Nat.lt_of_le_of_lt hfollow.length_script_le.2 hfuel
  obtain ⟨status, hstatus, rfl⟩ := hstop.exists_eq_stop fun turn hw =>
    Turn.run_ne_unfinished (hw.symm ▸ hleft)
  rw [Nat.zero_add] at hstop
  exact ⟨turns, rest, w', status, hlines, hstatus, hfollow, hstop, hrun⟩

/-! ## Sessions without interrupts -/

/-- What ends a session that is not interrupted: the end of its lines, a blank line, or a line that
is no text. -/
inductive Closes : List (List Nat) → Status → Prop where
  | ended : Closes [] .ended
  | blank {line : String} {rest : List (List Nat)} : Line.Blank line →
      Closes (Line.octetsOf line :: rest) .ended
  | unreadable {line : List Nat} {rest : List (List Nat)} : (∀ s, line ≠ Line.octetsOf s) →
      Closes (line :: rest) .unreadable

theorem beatsLine_of_none {schedule : Schedule} {n : Nat} (h : schedule.after n = none) :
    schedule.beatsLine n = false := by
  rw [Schedule.beatsLine, h]
  rfl

theorem Stops.closes {ω : Type} {a : Agent ω} {w : ω} {n : Nat} {lines : List (List Nat)}
    {rest : List Line} {s : Session ω} (h : Stops a now fuel schedule false n w rest s)
    (hrest : lines.map Line.ofOctets = rest) (hnever : schedule.after n = none)
    (hstatus : s.status ≠ .unfinished) : Closes lines s.status := by
  cases h with
  | ended _ =>
    obtain rfl := List.map_eq_nil_iff.mp hrest
    exact .ended
  | waiting hopen _ => cases hopen
  | interrupted hwait => cases (beatsLine_of_none hnever).symm.trans hwait
  | unreadable _ =>
    obtain ⟨line, lines, rfl, hline, -⟩ := List.map_eq_cons_iff.mp hrest
    exact .unreadable (Line.ofOctets_eq_unreadable_iff.mp hline)
  | blank _ hblank =>
    obtain ⟨line, lines, rfl, hline, -⟩ := List.map_eq_cons_iff.mp hrest
    rw [Line.ofOctets_eq_text_iff.mp hline]
    exact .blank hblank
  | unfinished _ _ _ _ _ => exact absurd rfl hstatus

/-- The octets of the lines of turns. -/
theorem eq_map_octetsOf {ω : Type} {turns : List (Turn ω)} {lines : List (List Nat)}
    (h : lines.map Line.ofOctets = linesOf turns) :
    lines = turns.map fun turn => Line.octetsOf turn.line := by
  induction turns generalizing lines with
  | nil => exact List.map_eq_nil_iff.mp h
  | cons turn turns ih =>
    obtain ⟨line, lines, rfl, hline, hlines⟩ := List.map_eq_cons_iff.mp h
    rw [List.map_cons, Line.ofOctets_eq_text_iff.mp hline, ih hlines]

/-- **From the first prompt to the last.** A session over octets, without interrupts, makes a turn
of each line before the first that is blank or no text, and writes each turn after a prompt. Every
turn runs on its line alone, and on what the turns before it have left of the script; a turn that
fails is followed by the next. -/
theorem run_of_octets (b : Toolbox σ) (instructions : String) (sampling : Sampling)
    (patience : Option Time.Span) (limit : Option Nat) (format : Format) (now : Time.Instant)
    (schedule : Schedule) (hnever : ∀ n, schedule.after n = none) (octets : List Nat) (s : Script)
    (y : σ) {fuel : Nat} (hfuel : s.length < fuel) :
    let a := Agent.rehearsal b instructions sampling patience limit
    let session := Session.run a format now fuel schedule (.ofOctets false octets) (s, y)
    ∃ turns rest texts,
      Line.Spells octets (turns.map (fun turn => Line.octetsOf turn.line) ++ rest) ∧
      (∀ turn ∈ turns, ¬ Line.Blank turn.line) ∧ Closes rest session.status ∧
      Follow a now fuel schedule 0 (s, y) turns session.world ∧
      session.turns = turns.map (·.whole a now fuel) ∧
      List.Forall₂ (fun turn text => Writes format (turn.whole a now fuel).outcome text) turns
        texts ∧
      session.output = String.join (texts.map (prompt ++ ·)) ++ prompt ∧
      ∀ turn ∈ turns, turn.run a now fuel = turn.whole a now fuel ∧ turn.Apart a now fuel := by
  intro a session
  have hspells : Line.Spells octets (Line.bodies octets) := Line.spells_iff.mpr rfl
  obtain ⟨turns, rest, w', status, hlines, hstatus, hfollow, hstop, hrun⟩ :
      ∃ turns rest w' status, Line.split false octets = linesOf turns ++ rest ∧
        status ≠ .unfinished ∧ Follow a now fuel schedule 0 (s, y) turns w' ∧
        Stops a now fuel schedule false (2 * turns.length) w' rest (stop status w') ∧
        session = (stop status w').afterAll format (turns.map (·.run a now fuel)) :=
    exists_follow_stop b instructions sampling patience limit format now schedule false _ hfuel
  rw [Line.split_eq_map hspells] at hlines
  obtain ⟨lines, rest', hbodies, hmap, hrest⟩ := List.map_eq_append_iff.mp hlines
  -- No interrupt comes, so nothing is cut off.
  have hwhole : ∀ turn ∈ turns, turn.run a now fuel = turn.whole a now fuel := by
    intro turn hmem
    obtain ⟨-, n, hi⟩ := hfollow.exists_interrupt turn hmem
    have hnone : turn.interrupt.after = none := by
      rw [hi]
      exact hnever n
    rcases turn.run_cases b instructions sampling patience limit now fuel with
      ⟨n, -, hfinds, -⟩ | ⟨-, hwhole⟩
    · exact absurd hfinds (Interrupt.not_finds_of_none hnone _ n)
    · exact hwhole
  rw [hrun, List.map_congr_left hwhole]
  refine ⟨turns, rest', turns.map fun turn => (turn.whole a now fuel).outcome.write format, ?_,
    fun turn hmem => (hfollow.exists_interrupt turn hmem).1, hstop.closes hrest (hnever _) hstatus,
    hfollow, List.append_nil _, ?_, ?_, fun turn hmem => ⟨hwhole turn hmem, turn.apart ..⟩⟩
  · rw [← eq_map_octetsOf hmap, ← hbodies]
    exact hspells
  · refine List.forall₂_map_right_iff.mpr (List.forall₂_same.mpr fun turn hmem => ?_)
    have hlength : turn.world.1.length < fuel :=
      Nat.lt_of_le_of_lt (hfollow.length_script_le.1 turn hmem) hfuel
    obtain ⟨hunfinished, hcancelled⟩ : (turn.whole a now fuel).outcome ≠ .unfinished ∧ _ :=
      Agent.run_rehearsal_ne hlength
    exact writes_write format hcancelled hunfinished
  · simp [afterAll, stop, Function.comp_def]

/-- A line before a blank one, in a session with a calculator: the line after them is not read. -/
theorem run_of_octets_sums :
    let a := Agent.rehearsal Arithmetic.toolbox defaultInstructions .unset none none
    let octets := Line.octetsOf "2+2?\r\n \n3+3?"
    let session := Session.run a .text .start 2 .never (.ofOctets false octets)
      ([sumAnswer ["x"]], ())
    (∀ n, Schedule.never.after n = none) ∧ [sumAnswer ["x"]].length < 2 ∧
    ∃ (turns : List (Turn (Script × Unit))) (rest : List (List Nat)) (texts : List String),
      Line.Spells octets (turns.map (fun turn => Line.octetsOf turn.line) ++ rest) ∧
      turns.length = 1 ∧ Closes rest session.status ∧
      List.Forall₂ (fun turn text => Writes .text (turn.whole a .start 2).outcome text) turns
        texts ∧
      session.output = String.join (texts.map (prompt ++ ·)) ++ prompt := by
  intro a octets session
  have hnever : ∀ n, Schedule.never.after n = none := fun _ => rfl
  have hfuel : [sumAnswer ["x"]].length < 2 := by decide
  obtain ⟨turns, rest, texts, hspells, -, hcloses, -, hturns, htexts, houtput, -⟩ :=
    run_of_octets Arithmetic.toolbox defaultInstructions .unset none none .text .start .never
      hnever octets [sumAnswer ["x"]] () hfuel
  have hlength : session.turns.length = 1 := rfl
  have hone : turns.length = 1 := by
    rw [← hlength, hturns, List.length_map]
  exact ⟨hnever, hfuel, turns, rest, texts, hspells, hone, hcloses, htexts, houtput⟩

/-! ## Sessions under interrupts -/

/-- **All or nothing.** In a session under interrupts, what stands between two prompts is all that a
turn writes without its interrupt, or that it is cancelled. A turn that is cancelled has made the
first requests of the whole turn, as many as there are when the interrupt comes, and has taken as
many answers of the script; nothing else is left of it for the turns after it. An interrupt that
comes while a line is awaited ends the session as the end of the input does. -/
theorem run_of_interrupts (b : Toolbox σ) (instructions : String) (sampling : Sampling)
    (patience : Option Time.Span) (limit : Option Nat) (format : Format) (now : Time.Instant)
    (schedule : Schedule) (input : Input) (s : Script) (y : σ) {fuel : Nat}
    (hfuel : s.length < fuel) :
    let a := Agent.rehearsal b instructions sampling patience limit
    let session := Session.run a format now fuel schedule input (s, y)
    (∃ turns rest texts, input.lines = linesOf turns ++ rest ∧
      Follow a now fuel schedule 0 (s, y) turns session.world ∧
      Stops a now fuel schedule input.isOpen (2 * turns.length) session.world rest
        (stop session.status session.world) ∧
      session.turns = turns.map (·.run a now fuel) ∧
      List.Forall₂ (Turn.Gives a format now fuel) turns texts ∧
      session.output = String.join (texts.map (prompt ++ ·)) ++ prompt ∧
      (∀ turn ∈ turns, turn.Apart a now fuel) ∧
      ((∀ x ∈ b.tools, x.IsFunction) → ∀ turn ∈ turns, turn.world.2 = y)) ∧
    ∀ k ≤ input.lines.length,
      schedule.beatsLine (2 * k) = true ∨
        k = input.lines.length ∧ schedule.after (2 * k) ≠ none →
      session = Session.run a format now fuel schedule ⟨input.lines.take k, false⟩ (s, y) := by
  intro a session
  constructor
  · obtain ⟨turns, rest, w', status, hlines, -, hfollow, hstop, hrun⟩ :
        ∃ turns rest w' status, input.lines = linesOf turns ++ rest ∧
          status ≠ .unfinished ∧ Follow a now fuel schedule 0 (s, y) turns w' ∧
          Stops a now fuel schedule input.isOpen (2 * turns.length) w' rest (stop status w') ∧
          session = (stop status w').afterAll format (turns.map (·.run a now fuel)) :=
      exists_follow_stop b instructions sampling patience limit format now schedule input.isOpen _
        hfuel
    rw [hrun]
    refine ⟨turns, rest, turns.map fun turn => (turn.run a now fuel).outcome.write format, hlines,
      hfollow, hstop, List.append_nil _, ?_, ?_, fun turn _ => turn.apart ..,
      fun hb => hfollow.tools_eq hb⟩
    · refine List.forall₂_map_right_iff.mpr (List.forall₂_same.mpr fun turn hmem => ?_)
      exact turn.gives_write format
        (Nat.lt_of_le_of_lt (hfollow.length_script_le.1 turn hmem) hfuel)
    · simp [afterAll, stop, Function.comp_def]
  · intro k hk hwait
    refine runFrom_take hk ?_ (s, y)
    rw [Nat.zero_add]
    exact hwait

/-- A calculator is interrupted before it is asked: its answer is there for the next turn. -/
theorem run_of_interrupts_sums :
    let a := Agent.rehearsal Arithmetic.toolbox defaultInstructions .unset none none
    let schedule : Schedule := ⟨fun n => if n = 1 then some 0 else none, fun _ _ => true⟩
    let session := Session.run a .text .start 2 schedule ⟨[.text "2+2?", .text "3+3?"], false⟩
      ([sumAnswer ["x"]], ())
    [sumAnswer ["x"]].length < 2 ∧
    ∃ turns texts, Follow a .start 2 schedule 0 ([sumAnswer ["x"]], ()) turns session.world ∧
      List.Forall₂ (Turn.Gives a .text .start 2) turns texts ∧ turns.length = 2 ∧
      session.output = String.join (texts.map (prompt ++ ·)) ++ prompt ∧
      (session.turns.map fun run => run.requests.length) = [0, 2] := by
  intro a schedule session
  have hfuel : [sumAnswer ["x"]].length < 2 := by decide
  obtain ⟨⟨turns, rest, texts, -, hfollow, -, hturns, htexts, houtput, -⟩, -⟩ :=
    run_of_interrupts Arithmetic.toolbox defaultInstructions .unset none none .text .start schedule
      ⟨[.text "2+2?", .text "3+3?"], false⟩ [sumAnswer ["x"]] () hfuel
  have hlength : session.turns.length = 2 := rfl
  have htwo : turns.length = 2 := by
    rw [← hlength, hturns, List.length_map]
  exact ⟨hfuel, turns, texts, hfollow, htexts, htwo, houtput, rfl⟩

end Session

end Dialogue
