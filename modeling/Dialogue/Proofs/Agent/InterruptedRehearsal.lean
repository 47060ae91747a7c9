import Dialogue.Proofs.Agent.Interrupted
import Dialogue.Proofs.Agent.Rehearsal
import Dialogue.Proofs.Tool.Failure

/-!
# Interrupted rehearsals

A rehearsal takes one answer of its script for each request, whether it is cut off or not, and the
script tells how long the answers take. So the script tells which request an interrupt falls into,
if it comes before the end of the run.

Main statements: `runUnder_rehearsal` (a rehearsal under an interrupt is the whole rehearsal if the
interrupt falls into none of its requests, and else it is cut off in that request) and
`script_of_runUnder` (what is left of the script).
-/

namespace Dialogue

/-! ## How long answers take -/

/-- The milliseconds that an agent waits for an answer. -/
def Answer.time (patience : Option Time.Span) (x : Answer) : Nat :=
  match patience with
  | none => x.delay
  | some span => min span.ticks x.delay

namespace Script

/-- The milliseconds that an agent waits for the first answers. -/
def time (patience : Option Time.Span) : Script → (answers : Nat) → Nat
  | _, 0 => 0
  | [], _ + 1 => 0
  | x :: s, n + 1 => x.time patience + time patience s n

theorem time_exhausted (patience : Option Time.Span) : exhausted.time patience = 0 := by
  cases patience with
  | none => rfl
  | some span => exact Nat.min_zero _

theorem time_zero (patience : Option Time.Span) (s : Script) : s.time patience 0 = 0 := by
  cases s <;> rfl

/-- An answer takes its own time after those before it. -/
theorem time_succ (patience : Option Time.Span) (s : Script) (n : Nat) :
    s.time patience (n + 1) =
      s.time patience n + ((s.drop n).head?.getD exhausted).time patience := by
  induction s generalizing n with
  | nil => cases n <;> simp [time, time_exhausted]
  | cons x s ih =>
    cases n with
    | zero => simp [time, time_zero]
    | succ n => rw [time, ih, time, List.drop_succ_cons, Nat.add_assoc]

end Script

/-- The interrupt comes when `n` requests have been made, where `time k` is how long the first `k`
answers take. One that is there at the start comes before the first request. -/
inductive Interrupt.Finds (i : Interrupt) (time : Nat → Nat) : Nat → Prop where
  | start : i.after = some 0 → Finds i time 0
  | waiting {n : Nat} : i.after ≠ some 0 → (∀ k < n, ¬ i.Beats k (time (k + 1))) →
      i.Beats n (time (n + 1)) → Finds i time (n + 1)

/-- An interrupt that does not come finds nothing. -/
theorem Interrupt.not_finds_of_none {i : Interrupt} (h : i.after = none) (time : Nat → Nat)
    (n : Nat) : ¬ i.Finds time n := by
  rintro (hstart | ⟨-, -, hbeats⟩)
  · cases h.symm.trans hstart
  · exact not_beats_of_none h hbeats

/-! ## Functions as tools -/

/-- A function beside a part of the world is a function. -/
theorem Tool.IsFunction.beside {σ : Type} {t : Tool σ} (h : t.IsFunction) (α : Type) :
    (t.beside α).IsFunction := by
  obtain ⟨s, f⟩ := h
  have heq : (Tool.ofFunction s f : Tool σ).beside α = Tool.ofFunction s f := by
    simp only [Tool.beside, Tool.ofFunction, Tool.mk.injEq, true_and]
    funext c w
    cases f (c.arguments.members?.getD []) <;> rfl
  rw [heq]
  exact .intro s f

namespace Toolbox

variable {ω : Type} {b : Toolbox ω} {w w' : ω} {cs : List Call} {os : List Observation}

/-- Functions leave the world as it is. -/
theorem world_of_functions (hb : ∀ t ∈ b.tools, t.IsFunction) (c : Call) (w : ω) :
    (b.execute c w).2 = w := by
  unfold execute
  split
  · rfl
  · next t ht =>
    split
    · rfl
    · obtain ⟨s, f⟩ := hb t (List.mem_of_find?_eq_some ht)
      simp only [Tool.ofFunction]
      split <;> rfl

theorem Observes.world_eq (hb : ∀ t ∈ b.tools, t.IsFunction) (h : b.Observes w cs os w') :
    w' = w := by
  induction h with
  | nil => rfl
  | @cons w w₁ w₂ c o cs os hc _ ih =>
    have hworld := world_of_functions hb c w
    rw [hc] at hworld
    exact ih.trans hworld

theorem Breaks.world_eq {e : Failure} (hb : ∀ t ∈ b.tools, t.IsFunction)
    (h : b.Breaks w cs e w') : w' = w := by
  obtain ⟨pre, c, post, os, w₁, -, hpre, hc⟩ := h
  have hworld := world_of_functions hb c w₁
  rw [hc] at hworld
  exact hworld.trans (hpre.world_eq hb)

/-- Calls of which one fails do not reach the other part of the world. -/
theorem fst_of_breaks {α σ : Type} {b : Toolbox σ} {w w' : α × σ} {cs : List Call} {e : Failure}
    (h : (b.beside α).Breaks w cs e w') : w'.1 = w.1 := by
  obtain ⟨pre, c, post, os, w₁, -, hpre, hc⟩ := h
  have hworld : w₁.1 = w.1 := fst_of_observes hpre
  rw [execute_beside] at hc
  obtain ⟨-, rfl⟩ := Prod.mk.inj hc
  exact hworld

end Toolbox

namespace Agent

/-- What asking takes is the time of the answer. -/
theorem elapsed_ask {ω : Type} (a : Agent ω) (now : Time.Instant) (t : Transcript) (w : ω) :
    (a.ask now t w).elapsed = (a.answerTo now t w).time a.patience := by
  unfold Answer.time
  by_cases h : (a.answerTo now t w).Late a.patience
  · obtain ⟨span, hspan, hlt⟩ := h
    rw [ask_of_late hspan hlt, hspan]
    exact (Nat.min_eq_left (Nat.le_of_lt hlt)).symm
  · rw [ask_of_not_late h]
    split
    · rfl
    · next span hspan =>
      exact (Nat.min_eq_right (Nat.le_of_not_lt fun hlt => h ⟨span, hspan, hlt⟩)).symm

variable {σ : Type} {b : Toolbox σ} {instructions : String} {sampling : Sampling}
  {patience : Option Time.Span} {limit : Option Nat} {now : Time.Instant} {t t' : Transcript}
  {s : Script} {y : σ} {w w' : Script × σ} {rs : List Round} {i : Interrupt} {ms fuel k : Nat}
  {stop : Run (Script × σ)}

/-! ## What is left of the script -/

/-- A stop takes one answer if it makes a request. -/
theorem script_of_stops
    (h : (rehearsal b instructions sampling patience limit).Stops now k t w fuel stop) :
    stop.world.1 = w.1.drop stop.requests.length := by
  cases h with
  | unfinished => rfl
  | limitReached _ _ => rfl
  | answered _ _ => exact fst_world_rehearsal.trans List.drop_one.symm
  | failed _ hbreaks =>
    exact (Toolbox.fst_of_breaks hbreaks).trans (fst_world_rehearsal.trans List.drop_one.symm)

/-- **What is left of the script.** As many answers are gone as requests were made, whatever the
interrupt does. -/
theorem script_of_runUnder (b : Toolbox σ) (instructions : String) (sampling : Sampling)
    (patience : Option Time.Span) (limit : Option Nat) (now : Time.Instant) (fuel : Nat)
    (i : Interrupt) (t : Transcript) (w : Script × σ) :
    ((rehearsal b instructions sampling patience limit).runUnder now fuel i t w).world.1 =
      w.1.drop ((rehearsal b instructions sampling patience limit).runUnder now fuel i t
        w).requests.length := by
  rcases (rehearsal b instructions sampling patience limit).runUnder_cases now fuel i t w with
    ⟨-, hrun⟩ | ⟨-, rs, ms, t', w', left, -, hreach, hgoes⟩
  · rw [hrun]
    rfl
  · have hscript : w'.1 = w.1.drop rs.length := script_of_plays hreach.reaches.plays
    rcases hgoes with ⟨stop, hstop, -, hrun, -⟩ | ⟨-, -, hrun, -⟩
    · rw [hrun, Run.world_afterAll, script_of_stops hstop, hscript, List.drop_drop,
        Run.requests_afterAll, List.length_append, length_requestsIn]
    · rw [hrun]
      change ((rehearsal b instructions sampling patience limit).ask now t' w').world.1 = _
      rw [fst_world_rehearsal, hscript, List.tail_drop, List.length_append, length_requestsIn,
        List.length_singleton]

theorem isFunction_beside (hb : ∀ x ∈ b.tools, x.IsFunction) :
    ∀ x ∈ (b.beside Script).tools, x.IsFunction := by
  intro x hx
  obtain ⟨x, hmem, rfl⟩ := List.mem_map.mp hx
  exact (hb x hmem).beside Script

theorem snd_world_rehearsal :
    ((rehearsal b instructions sampling patience limit).ask now t w).world.2 = w.2 := by
  rw [world_ask]
  rfl

/-- Rounds leave the world of functions as it is. -/
theorem snd_of_plays (hb : ∀ x ∈ b.tools, x.IsFunction)
    (h : (rehearsal b instructions sampling patience limit).Plays now t w rs t' w') :
    w'.2 = w.2 := by
  induction h with
  | nil => rfl
  | snoc _ _ ho ih =>
    have hround := congrArg Prod.snd (ho.world_eq (isFunction_beside hb))
    exact hround.trans (snd_world_rehearsal.trans ih)

/-- Where all tools are functions, their part of the world stays as it is. -/
theorem tools_of_runUnder (hb : ∀ x ∈ b.tools, x.IsFunction) (now : Time.Instant) (fuel : Nat)
    (i : Interrupt) (t : Transcript) (w : Script × σ) :
    ((rehearsal b instructions sampling patience limit).runUnder now fuel i t w).world.2 = w.2 := by
  rcases (rehearsal b instructions sampling patience limit).runUnder_cases now fuel i t w with
    ⟨-, hrun⟩ | ⟨-, rs, ms, t', w', left, -, hreach, hgoes⟩
  · rw [hrun]
  · have hworld : w'.2 = w.2 := snd_of_plays hb hreach.reaches.plays
    rcases hgoes with ⟨stop, hstop, -, hrun, -⟩ | ⟨-, -, hrun, -⟩
    · rw [hrun, Run.world_afterAll, ← hworld]
      cases hstop with
      | unfinished => rfl
      | limitReached _ _ => rfl
      | answered _ _ => exact snd_world_rehearsal
      | failed _ hbreaks =>
        have hcalls := congrArg Prod.snd (hbreaks.world_eq (isFunction_beside hb))
        exact hcalls.trans snd_world_rehearsal
    · rw [hrun]
      exact snd_world_rehearsal.trans hworld

/-! ## Which request an interrupt falls into -/

/-- Asking after rounds takes the time of the next answer. -/
theorem time_add_elapsed
    (h : (rehearsal b instructions sampling patience limit).Plays now t (s, y) rs t' w') :
    s.time patience rs.length +
        ((rehearsal b instructions sampling patience limit).ask now t' w').elapsed =
      s.time patience (rs.length + 1) := by
  rw [elapsed_ask, answerTo_rehearsal, script_of_plays h, Script.time_succ]
  rfl

/-- The time that rounds take is that of the answers in them. -/
theorem time_of_reachesUnder
    (h : (rehearsal b instructions sampling patience limit).ReachesUnder now i t (s, y) rs ms
      t' w') :
    ms = s.time patience rs.length ∧ ∀ k < rs.length, ¬ i.Beats k (s.time patience (k + 1)) := by
  induction h with
  | nil => exact ⟨(Script.time_zero patience s).symm, nofun⟩
  | @snoc rs r ms t₁ w₁ w₂ hreach _ hi _ _ _ ih =>
    obtain ⟨rfl, hbefore⟩ := ih
    rw [time_add_elapsed hreach.reaches.plays] at hi ⊢
    rw [List.length_append, List.length_singleton]
    refine ⟨rfl, fun k hk => ?_⟩
    rcases Nat.lt_succ_iff_lt_or_eq.mp hk with hlt | rfl
    · exact hbefore k hlt
    · exact hi

/-- A rehearsal with fuel for its script goes to its end. -/
theorem run_rehearsal_ne (hfuel : w.1.length < fuel) :
    ((rehearsal b instructions sampling patience limit).run now fuel t w).outcome ≠ .unfinished ∧
      ((rehearsal b instructions sampling patience limit).run now fuel t w).outcome ≠
        .cancelled := by
  obtain ⟨rs, t', w', left, stop, hlen, hreach, hstop, hrun⟩ :=
    (rehearsal b instructions sampling patience limit).exists_reaches_stops now fuel t w
  have hopening : rs.length ≤ w.1.opening patience := length_le_opening hreach.plays hreach.calls
  have hscript : w.1.opening patience ≤ w.1.length := w.1.opening_le_length patience
  rw [hrun, Run.outcome_afterAll]
  cases hstop with
  | unfinished => omega
  | limitReached _ _ => exact ⟨nofun, nofun⟩
  | answered _ _ => exact ⟨nofun, nofun⟩
  | failed _ _ => exact ⟨nofun, nofun⟩

/-- **A rehearsal under an interrupt.** If the interrupt comes when it would be in one of its
requests, it is cut off and has made the requests up to that one; else it is the whole rehearsal. -/
theorem runUnder_rehearsal (b : Toolbox σ) (instructions : String) (sampling : Sampling)
    (patience : Option Time.Span) (limit : Option Nat) (now : Time.Instant) (fuel : Nat)
    (i : Interrupt) (t : Transcript) (s : Script) (y : σ) :
    let a := rehearsal b instructions sampling patience limit
    (∃ n ≤ (a.run now fuel t (s, y)).requests.length, i.Finds (s.time patience) n ∧
      (a.runUnder now fuel i t (s, y)).outcome = .cancelled ∧
      (a.runUnder now fuel i t (s, y)).requests =
        (a.run now fuel t (s, y)).requests.take n) ∨
    (∀ n ≤ (a.run now fuel t (s, y)).requests.length, ¬ i.Finds (s.time patience) n) ∧
      a.runUnder now fuel i t (s, y) = a.run now fuel t (s, y) := by
  intro a
  rcases a.runUnder_cases now fuel i t (s, y) with
    ⟨hstart, hrun⟩ | ⟨hstart, rs, ms, t', w', left, -, hreach, hgoes⟩
  · rw [hrun]
    exact .inl ⟨0, Nat.zero_le _, .start hstart, rfl, rfl⟩
  · obtain ⟨rfl, hbefore⟩ := time_of_reachesUnder hreach
    rw [time_add_elapsed hreach.reaches.plays] at hgoes
    rcases hgoes with ⟨stop, hstop, hi, hrun, hwhole⟩ | ⟨-, hi, hrun, hprefix⟩
    · refine .inr ⟨?_, hrun.trans hwhole.symm⟩
      rw [hwhole, Run.requests_afterAll, List.length_append, length_requestsIn]
      rintro _ hn (hzero | @⟨n, -, -, hbeats⟩)
      · exact hstart hzero
      · rcases Nat.lt_or_ge n rs.length with hlt | hge
        · exact hbefore n hlt hbeats
        · -- The interrupt would fall into the request of the stop.
          rcases hstop.requests_eq with hnone | ⟨-, -, hone⟩
          · rw [hnone, List.length_nil] at hn
            omega
          · rw [hone, List.length_singleton] at hn
            obtain rfl : n = rs.length := by omega
            exact hi (hone ▸ List.cons_ne_nil _ _) hbeats
    · refine .inl ⟨rs.length + 1, ?_, .waiting hstart hbefore hi, by rw [hrun], ?_⟩
      · simpa using hprefix.length_le
      · rw [hrun, List.prefix_iff_eq_take.mp hprefix, List.length_append, length_requestsIn,
          List.length_singleton]

end Agent

end Dialogue
