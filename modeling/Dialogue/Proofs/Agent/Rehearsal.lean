import Dialogue.Backend.Script
import Dialogue.Proofs.Agent.Rounds
import Dialogue.Tool.Arithmetic
import Mathlib.Data.List.Basic

/-!
# Rehearsals

An agent whose model plays back a script, and whose tools have a world of their own. Every round
takes one answer of the script, so the script tells how long a run is: its *opening* are the answers
at the front that come in time and ask for calls, and the first answer after them ends the run if
the limit has not ended it before.

Main statement: `run_of_rehearsal` (how often the model is asked, and which way the run ends). The
invariant behind it is `script_of_plays` (after some rounds, as many answers are gone), and
`length_le_opening` draws from it that only the opening is played in rounds with calls.
-/

namespace Dialogue

variable {α σ : Type}

/-! ## Worlds side by side -/

/-- A backend beside a part of the world that it does not reach. -/
def Backend.beside (σ : Type) (b : Backend α) : Backend (α × σ) where
  name := b.name
  complete r w := ((b.complete r w.1).1, (b.complete r w.1).2, w.2)
  health w := ((b.health w.1).1, (b.health w.1).2, w.2)

/-- A tool beside a part of the world that it does not reach. -/
def Tool.beside (α : Type) (t : Tool σ) : Tool (α × σ) where
  signature := t.signature
  run c w := ((t.run c w.2).1, w.1, (t.run c w.2).2)

namespace Toolbox

/-- A toolbox beside a part of the world that its tools do not reach. -/
def beside (α : Type) (b : Toolbox σ) : Toolbox (α × σ) :=
  ⟨b.tools.map (Tool.beside α)⟩

theorem get?_beside (b : Toolbox σ) (name : String) :
    (b.beside α).get? name = (b.get? name).map (Tool.beside α) :=
  List.find?_map ..

/-- A call does not reach the other part of the world. -/
theorem execute_beside (b : Toolbox σ) (c : Call) (w : α × σ) :
    (b.beside α).execute c w = ((b.execute c w.2).1, w.1, (b.execute c w.2).2) := by
  unfold execute
  rw [get?_beside]
  rcases b.get? c.name with _ | t
  · rfl
  · have hcheck : (t.beside α).check c = t.check c := rfl
    simp only [Option.map_some, hcheck]
    rcases t.check c with e | ⟨⟩ <;> rfl

/-- Calls one after another do not reach it either. -/
theorem fst_of_observes {b : Toolbox σ} {w w' : α × σ} {cs : List Call} {os : List Observation}
    (h : (b.beside α).Observes w cs os w') : w'.1 = w.1 := by
  induction h with
  | nil => rfl
  | cons hc _ ih =>
    rw [execute_beside] at hc
    obtain ⟨-, rfl⟩ := Prod.mk.inj hc
    exact ih

end Toolbox

/-! ## The opening of a script -/

/-- An answer in time that asks for calls. -/
def Answer.asks (patience : Option Time.Span) (x : Answer) : Bool :=
  (exceeded? patience x.delay).isNone &&
    match x.result with
    | .ok c => !c.calls.isEmpty
    | .error _ => false

theorem Answer.asks_iff {patience : Option Time.Span} {x : Answer} :
    x.asks patience = true ↔ ∃ c, x.Serves patience c ∧ c.calls ≠ [] := by
  unfold asks
  constructor
  · intro h
    obtain ⟨htime, hcalls⟩ := Bool.and_eq_true_iff.mp h
    rcases x.fails_or_serves patience with ⟨e, hfails⟩ | ⟨c, hserves⟩
    · cases hfails with
      | late hspan hlt =>
        rw [exceeded?_eq_some hspan hlt] at htime
        cases htime
      | failed _ he =>
        rw [he] at hcalls
        cases hcalls
    · refine ⟨c, hserves, ?_⟩
      simpa [hserves.2] using hcalls
  · rintro ⟨c, hserves, hcalls⟩
    rw [exceeded?_eq_none hserves.1, hserves.2]
    simpa using hcalls

namespace Script

/-- The number of answers at the front that come in time and ask for calls. -/
def opening (patience : Option Time.Span) (s : Script) : Nat :=
  s.findIdx fun x => !x.asks patience

/-- No answer follows the last one that asks. -/
theorem opening_le_length (patience : Option Time.Span) (s : Script) :
    s.opening patience ≤ s.length :=
  List.findIdx_le_length

/-- At the end of what was played of the opening, there is an answer that asks exactly if the
opening goes on. -/
theorem asks_iff_lt_opening {patience : Option Time.Span} {s : Script} {n : Nat}
    (h : n ≤ s.opening patience) :
    (∃ x, s[n]? = some x ∧ x.asks patience = true) ↔ n < s.opening patience := by
  constructor
  · rintro ⟨x, hx, hasks⟩
    refine Nat.lt_of_le_of_ne h fun heq => ?_
    -- The answer right after the opening does not ask.
    rw [heq, opening] at hx
    have hnot := List.findIdx_of_getElem?_eq_some hx
    rw [hasks] at hnot
    cases hnot
  · intro hlt
    have hlen : n < s.length := Nat.lt_of_lt_of_le hlt (opening_le_length patience s)
    refine ⟨s[n], List.getElem?_eq_getElem hlen, ?_⟩
    simpa using List.not_of_lt_findIdx hlt

end Script

namespace Agent

/-- An agent whose model plays back a script and whose tools have a world of their own. -/
def rehearsal (b : Toolbox σ) (instructions : String) (sampling : Sampling)
    (patience : Option Time.Span) (limit : Option Nat) : Agent (Script × σ) where
  backend := Script.backend.beside σ
  toolbox := b.beside Script
  instructions := instructions
  sampling := sampling
  patience := patience
  limit := limit

/-- The most often that the model is asked when it would be asked `n` times without a limit. -/
def cut (limit : Option Nat) (n : Nat) : Nat :=
  match limit with
  | none => n
  | some limit => min n (max 1 limit)

@[simp]
theorem cut_none (n : Nat) : cut none n = n :=
  rfl

@[simp]
theorem cut_some (limit n : Nat) : cut (some limit) n = min n (max 1 limit) :=
  rfl

section

variable {b : Toolbox σ} {instructions : String} {sampling : Sampling}
  {patience : Option Time.Span} {limit : Option Nat} {now : Time.Instant} {t t' : Transcript}
  {s : Script} {y : σ} {w w' : Script × σ} {rs : List Round}

/-- The model gives the first answer of the script. -/
theorem answerTo_rehearsal :
    (rehearsal b instructions sampling patience limit).answerTo now t w =
      w.1.head?.getD Script.exhausted := by
  obtain ⟨_ | ⟨x, rest⟩, y⟩ := w <;> rfl

/-- The answer that was given is gone. -/
theorem fst_world_rehearsal :
    ((rehearsal b instructions sampling patience limit).ask now t w).world.1 = w.1.tail := by
  rw [world_ask]
  obtain ⟨_ | ⟨x, rest⟩, y⟩ := w <;> rfl

/-- The end of a script asks for nothing. -/
theorem not_asks_exhausted (patience : Option Time.Span) :
    Script.exhausted.asks patience = false := by
  simp [Answer.asks, Script.exhausted, Completion.text]

/-- The model asks for calls if the script goes on with an answer that does. -/
theorem calls_rehearsal_iff :
    ((rehearsal b instructions sampling patience limit).replyTo now t w).calls ≠ [] ↔
      ∃ x, w.1.head? = some x ∧ x.asks patience = true := by
  rw [calls_replyTo_ne_nil_iff, answerTo_rehearsal, ← Answer.asks_iff]
  change (w.1.head?.getD Script.exhausted).asks patience = true ↔ _
  rcases w.1.head? with _ | x
  · simp [not_asks_exhausted]
  · simp

/-- **What is left of the script.** After rounds, as many answers are gone. -/
theorem script_of_plays
    (h : (rehearsal b instructions sampling patience limit).Plays now t (s, y) rs t' w') :
    w'.1 = s.drop rs.length := by
  induction h with
  | nil => rfl
  | @snoc rs r t₁ w₁ w₂ _ _ ho ih =>
    rw [Toolbox.fst_of_observes ho, fst_world_rehearsal, ih, List.tail_drop, List.length_append,
      List.length_singleton]

/-- The model asks for calls after rounds that are within the opening if they are not all of it. -/
theorem calls_iff_lt_opening
    (h : (rehearsal b instructions sampling patience limit).Plays now t (s, y) rs t' w')
    (hle : rs.length ≤ s.opening patience) :
    ((rehearsal b instructions sampling patience limit).replyTo now t' w').calls ≠ [] ↔
      rs.length < s.opening patience := by
  rw [calls_rehearsal_iff, script_of_plays h, List.head?_drop]
  exact Script.asks_iff_lt_opening hle

/-- Rounds with calls are within the opening. -/
theorem length_le_opening
    (h : (rehearsal b instructions sampling patience limit).Plays now t (s, y) rs t' w')
    (hcalls : ∀ r ∈ rs, r.reply.calls ≠ []) : rs.length ≤ s.opening patience := by
  induction h with
  | nil => exact Nat.zero_le _
  | @snoc rs r t₁ w₁ w₂ hplays hr _ ih =>
    have hle := ih fun x hx => hcalls x (List.mem_append_left _ hx)
    have hlast : r.reply.calls ≠ [] := hcalls r (by simp)
    rw [hr] at hlast
    rw [List.length_append, List.length_singleton]
    exact (calls_iff_lt_opening hplays hle).mp hlast

/-! ## How long a rehearsal is -/

/-- No more rounds than are allowed. -/
theorem Reaches.length_le {ω : Type} {a : Agent ω} {t t' : Transcript} {w w' : ω}
    {rs : List Round} {limit : Nat} (h : a.Reaches now t w rs t' w')
    (hlimit : a.limit = some limit) : rs.length ≤ max 1 limit := by
  by_contra hgt
  have hlast := h.allowed (max 1 limit) (by omega) limit hlimit
  omega

/-- Before the run stops, the model was asked no more often than it will be at the end. -/
theorem length_le_cut
    (h : (rehearsal b instructions sampling patience limit).Reaches now t (s, y) rs t' w') :
    rs.length ≤ cut limit (s.opening patience + 1) := by
  have hopening := length_le_opening h.plays h.calls
  rcases limit with _ | l
  · rw [cut_none]
    omega
  · have hlimit : rs.length ≤ max 1 l := h.length_le rfl
    rw [cut_some]
    omega

/-- At the limit, the opening goes on. -/
theorem cut_of_limitReached {l : Nat}
    (h : (rehearsal b instructions sampling patience (some l)).Reaches now t (s, y) rs t' w')
    (hk : max 1 l ≤ rs.length) :
    rs.length = cut (some l) (s.opening patience + 1) ∧ max 1 l < s.opening patience + 1 := by
  have hopening := length_le_opening h.plays h.calls
  have hlimit : rs.length ≤ max 1 l := h.length_le rfl
  rw [cut_some]
  omega

/-- At an answer without calls, the opening is over and the limit not passed. -/
theorem cut_of_answered
    (h : (rehearsal b instructions sampling patience limit).Reaches now t (s, y) rs t' w')
    (hk : (rehearsal b instructions sampling patience limit).Allows rs.length)
    (hcalls : ((rehearsal b instructions sampling patience limit).replyTo now t' w').calls = []) :
    rs.length + 1 = cut limit (s.opening patience + 1) ∧
      ∀ l, limit = some l → s.opening patience + 1 ≤ max 1 l := by
  have hopening := length_le_opening h.plays h.calls
  have hover : rs.length = s.opening patience := by
    refine Nat.le_antisymm hopening (Nat.not_lt.mp fun hlt => ?_)
    exact (calls_iff_lt_opening h.plays hopening).mpr hlt hcalls
  have hallowed : ∀ l, limit = some l → s.opening patience + 1 ≤ max 1 l := fun l hl => by
    have hlt := hk l hl
    omega
  refine ⟨?_, hallowed⟩
  rcases limit with _ | l
  · rw [cut_none, hover]
  · have hle := hallowed l rfl
    rw [cut_some]
    omega

end

/-- **How long a rehearsal is.** If no call fails, the model is asked once for each answer of the
opening and once more, or as often as the limit allows if that is less. The run ends with an answer
if the limit allows all of it, and else at the limit, with the answers to the last calls. A
rehearsal without a limit ends too, since the script does. -/
theorem run_of_rehearsal {σ : Type} (b : Toolbox σ) (instructions : String) (sampling : Sampling)
    (patience : Option Time.Span) (limit : Option Nat) (now : Time.Instant) (t : Transcript)
    (s : Script) (y : σ) {fuel : Nat} (hfuel : cut limit (s.opening patience + 1) < fuel)
    (hcalls : ∀ rs e, ¬ (rehearsal b instructions sampling patience limit).BreaksAfter now t
      (s, y) rs e) :
    ∃ r : Result,
      ((rehearsal b instructions sampling patience limit).run now fuel t (s, y)).outcome =
        .finished r ∧
      ((rehearsal b instructions sampling patience limit).run now fuel t (s, y)).requests.length =
        cut limit (s.opening patience + 1) ∧
      r.rounds = cut limit (s.opening patience + 1) ∧
      (r.ending = .answered ↔ ∀ l, limit = some l → s.opening patience + 1 ≤ max 1 l) ∧
      (∀ l, limit = some l → max 1 l < s.opening patience + 1 →
        r.ending = .limitReached l ∧
        ∃ pre last, r.transcript.messages = pre ++ Round.messages now last ∧
          last.reply.calls ≠ [] ∧ last.observations.length = last.reply.calls.length) ∧
      cut limit (s.opening patience + 1) ≤ s.length + 1 := by
  have hbound : cut limit (s.opening patience + 1) ≤ s.length + 1 := by
    have hopening := s.opening_le_length patience
    rcases limit with _ | l
    · rw [cut_none]
      omega
    · rw [cut_some]
      omega
  obtain ⟨rs, t', w', left, stop, hlen, hreach, hstop, hrun⟩ :=
    (rehearsal b instructions sampling patience limit).exists_reaches_stops now fuel t (s, y)
  have hcut := length_le_cut hreach
  rw [hrun, Run.outcome_afterAll, Run.requests_afterAll, List.length_append, length_requestsIn]
  cases hstop with
  | unfinished =>
    -- The fuel is not used up: there are fewer rounds than fuel.
    omega
  | limitReached hlimit hk =>
    next l =>
    obtain rfl : limit = some l := hlimit
    obtain ⟨hlength, hlt⟩ := cut_of_limitReached hreach hk
    refine ⟨_, rfl, hlength, hlength, by simp; omega, fun l' hl' _ => ?_, hbound⟩
    obtain rfl : l = l' := Option.some.inj hl'
    refine ⟨rfl, ?_⟩
    have hne : rs ≠ [] := List.ne_nil_of_length_pos (by omega)
    obtain ⟨pre, last, rfl, -, hlast, hall⟩ := hreach.exists_last hne
    refine ⟨t.messages ++ Round.allMessages now pre, last, ?_, hlast, hall⟩
    rw [hreach.plays.transcript_eq]
    simp
  | answered hk hnone =>
    obtain ⟨hlength, hallowed⟩ := cut_of_answered hreach hk hnone
    refine ⟨_, rfl, hlength, hlength, by simpa using hallowed, fun l hl hlt => ?_, hbound⟩
    have hle := hallowed l hl
    omega
  | failed hk hbreaks => exact absurd ⟨t', w', _, hreach, hk, hbreaks⟩ (hcalls rs _)

/-! ## A calculator -/

/-- Two and two are to be added. -/
def sumCall (id : String) : Call :=
  ⟨id, "add", .obj [("a", .ofInt 2), ("b", .ofInt 2)]⟩

/-- An answer that asks for sums, one for each id. -/
def sumAnswer (ids : List String) : Answer :=
  ⟨.ok (.withCalls "" (ids.map sumCall)), 0⟩

/-- An agent with the arithmetic tools that plays back a script. -/
def calculator (limit : Option Nat) : Agent Script where
  backend := Script.backend
  toolbox := Arithmetic.toolbox
  instructions := defaultInstructions
  sampling := .unset
  patience := none
  limit := limit

/-- Of three answers that ask for sums, a limit of two lets two be given. -/
theorem run_of_three_sums :
    cut (some 2) (Script.opening none [sumAnswer ["x"], sumAnswer ["y", "y"], sumAnswer ["z"]] + 1)
      < 3 ∧
    (∀ rs e, ¬ (rehearsal Arithmetic.toolbox defaultInstructions .unset none (some 2)).BreaksAfter
      .start (.ofHuman .start "2+2?")
      ([sumAnswer ["x"], sumAnswer ["y", "y"], sumAnswer ["z"]], ()) rs e) ∧
    ∃ r : Result,
      ((rehearsal Arithmetic.toolbox defaultInstructions .unset none (some 2)).run .start 3
        (.ofHuman .start "2+2?")
        ([sumAnswer ["x"], sumAnswer ["y", "y"], sumAnswer ["z"]], ())).outcome = .finished r ∧
      r.rounds = 2 ∧ r.ending = .limitReached 2 := by
  have hcut : cut (some 2)
      (Script.opening none [sumAnswer ["x"], sumAnswer ["y", "y"], sumAnswer ["z"]] + 1) < 3 := by
    decide
  have hcalls : ∀ rs e, ¬ (rehearsal Arithmetic.toolbox defaultInstructions .unset none
      (some 2)).BreaksAfter .start (.ofHuman .start "2+2?")
      ([sumAnswer ["x"], sumAnswer ["y", "y"], sumAnswer ["z"]], ()) rs e := by
    intro rs e hbreaks
    obtain ⟨-, -, -, -, hk, -⟩ := id hbreaks
    have hlt : rs.length < max 1 2 := hk 2 rfl
    obtain ⟨t', w'', hrun⟩ := hbreaks.run_eq (show rs.length < 3 by omega)
    cases congrArg Run.outcome hrun
  obtain ⟨r, hr, -, hrounds, -, hlimit, -⟩ := run_of_rehearsal Arithmetic.toolbox
    defaultInstructions .unset none (some 2) .start (.ofHuman .start "2+2?")
    [sumAnswer ["x"], sumAnswer ["y", "y"], sumAnswer ["z"]] () hcut hcalls
  exact ⟨hcut, hcalls, r, hr, hrounds, (hlimit 2 rfl (by decide)).1⟩

end Agent

end Dialogue
