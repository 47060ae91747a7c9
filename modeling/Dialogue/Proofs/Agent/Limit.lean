import Dialogue.Proofs.Agent.Rehearsal

/-!
# Looser limits

A limit cuts a run and changes nothing before the cut. Agents that differ in their limits ask and
answer alike, so a run goes through the same rounds under a looser limit; it stops in the same way
unless it was the limit that stopped it, and then it goes on from there.

Main statement: `run_of_within`. Its parts are `Stops.loosen` (a stop that is not by the limit
stays), `prefix_of_finished` (what a run goes on with comes after what it has come to) and
`run_zero_one` (a limit of none is a limit of one, since the model is always asked once).
-/

namespace Dialogue

/-- The transcript of a run that finished. -/
def Outcome.transcript? : Outcome → Option Transcript
  | .finished r => some r.transcript
  | _ => none

namespace Agent

variable {ω : Type} {a : Agent ω} {now : Time.Instant} {fuel fuel' k : Nat} {t t' : Transcript}
  {w w' : ω} {rs : List Round} {l l' : Option Nat} {stop : Run ω}

/-- The agent with another limit. -/
def withLimit (a : Agent ω) (limit : Option Nat) : Agent ω :=
  { a with limit }

/-- One limit is no looser than another. No limit at all is looser than every limit. -/
def Within (l l' : Option Nat) : Prop :=
  ∀ n', l' = some n' → ∃ n, l = some n ∧ n ≤ n'

/-- A request that a limit allows is allowed by every looser limit. -/
theorem Allows.loosen (h : (a.withLimit l).Allows k) (hl : Within l l') :
    (a.withLimit l').Allows k := by
  intro n' hn'
  obtain ⟨n, hn, hle⟩ := hl n' hn'
  have hk : k < max 1 n := h n hn
  omega

/-- The limit has no part in rounds. -/
theorem Plays.withLimit (h : (a.withLimit l).Plays now t w rs t' w') :
    (a.withLimit l').Plays now t w rs t' w' := by
  induction h with
  | nil => exact .nil
  | snoc _ hr ho ih => exact .snoc ih hr ho

/-- What a run reaches, it reaches under a looser limit. -/
theorem Reaches.loosen (h : (a.withLimit l).Reaches now t w rs t' w') (hl : Within l l') :
    (a.withLimit l').Reaches now t w rs t' w' where
  plays := h.plays.withLimit
  calls := h.calls
  allowed j hj := (h.allowed j hj).loosen hl

/-- A run that stops, and not by the limit, stops in the same way under a looser limit. More fuel
makes no difference if it has not run out. -/
theorem Stops.loosen (h : (a.withLimit l).Stops now k t w fuel stop) (hl : Within l l')
    (hfuel : fuel ≤ fuel') (hout : stop.outcome = .unfinished → fuel' = fuel)
    (hlimit : ∀ r n, stop.outcome = .finished r → r.ending ≠ .limitReached n) :
    (a.withLimit l').Stops now k t w fuel' stop := by
  cases h with
  | unfinished =>
    rw [hout rfl]
    exact .unfinished
  | limitReached _ _ => exact absurd rfl (hlimit _ _ rfl)
  | answered hk hcalls =>
    obtain ⟨left, rfl⟩ := Nat.exists_eq_add_of_lt hfuel
    exact .answered (hk.loosen hl) hcalls
  | failed hk hbreaks =>
    obtain ⟨left, rfl⟩ := Nat.exists_eq_add_of_lt hfuel
    exact .failed (hk.loosen hl) hbreaks

/-- Whatever a run still does, the transcript that it has come to stays in front. -/
theorem prefix_of_finished {r : Result}
    (h : (a.runFrom now fuel k .never t w).outcome = .finished r) :
    t.messages <+: r.transcript.messages := by
  induction fuel generalizing k t w with
  | zero => cases h
  | succ fuel ih =>
    rcases a.stops_or_round now k fuel t w with ⟨stop, hstop⟩ | ⟨x, w', hk, hx, hcalls, ho⟩
    · rw [hstop.runFrom_eq] at h
      cases hstop with
      | limitReached _ _ =>
        cases h
        exact List.prefix_rfl
      | answered _ _ =>
        cases h
        exact List.prefix_append _ _
      | failed _ _ => cases h
    · rw [runFrom_of_observes fuel hk (Interrupt.elapse_never _ _) hx hcalls ho] at h
      exact (List.prefix_append _ _).trans (ih h)

/-- A run that is not stopped by the limit is the same under a looser one. -/
theorem run_loosen (hl : Within l l') (hfuel : fuel ≤ fuel')
    (hout : ((a.withLimit l).run now fuel t w).outcome = .unfinished → fuel' = fuel)
    (hlimit : ∀ r n, ((a.withLimit l).run now fuel t w).outcome = .finished r →
      r.ending ≠ .limitReached n) :
    (a.withLimit l').run now fuel' t w = (a.withLimit l).run now fuel t w := by
  obtain ⟨rs, t', w', left, stop, rfl, hreach, hstop, hrun⟩ :=
    (a.withLimit l).exists_reaches_stops now fuel t w
  obtain ⟨more, rfl⟩ := Nat.exists_eq_add_of_le hfuel
  rw [hrun, Run.outcome_afterAll] at hout hlimit
  have hstop' : (a.withLimit l').Stops now rs.length t' w' (left + more) stop :=
    hstop.loosen hl (Nat.le_add_right _ _) (fun h => by have := hout h; omega) hlimit
  rw [hrun, Nat.add_assoc, (hreach.loosen hl).run_of_stops hstop']
  rfl

/-- A run that the limit stops goes on from there under a looser one. -/
theorem prefix_loosen (hl : Within l l') (hfuel : fuel ≤ fuel') {r : Result} {n : Nat}
    (hr : ((a.withLimit l).run now fuel t w).outcome = .finished r)
    (hlimit : r.ending = .limitReached n) :
    ((a.withLimit l).run now fuel t w).requests <+:
        ((a.withLimit l').run now fuel' t w).requests ∧
      ∀ r', ((a.withLimit l').run now fuel' t w).outcome = .finished r' →
        r.transcript.messages <+: r'.transcript.messages := by
  obtain ⟨rs, t', w', left, stop, rfl, hreach, hstop, hrun⟩ :=
    (a.withLimit l).exists_reaches_stops now fuel t w
  obtain ⟨more, rfl⟩ := Nat.exists_eq_add_of_le hfuel
  rw [hrun, Run.outcome_afterAll] at hr
  rw [hrun, Nat.add_assoc, (hreach.loosen hl).run_eq]
  cases hstop with
  | unfinished => cases hr
  | failed _ _ => cases hr
  | answered _ _ =>
    cases hr
    cases hlimit
  | limitReached _ _ =>
    cases hr
    refine ⟨?_, fun r' hr' => prefix_of_finished hr'⟩
    rw [Run.requests_afterAll, Run.requests_afterAll, List.append_nil]
    exact List.prefix_append _ _

/-- The limits of none and of one differ in nothing but the number that is reported: the model is
always asked once. -/
theorem run_zero_one (a : Agent ω) (now : Time.Instant) (fuel : Nat) (t : Transcript) (w : ω) :
    ((a.withLimit (some 0)).run now fuel t w).requests =
        ((a.withLimit (some 1)).run now fuel t w).requests ∧
      ((a.withLimit (some 0)).run now fuel t w).outcome.transcript? =
        ((a.withLimit (some 1)).run now fuel t w).outcome.transcript? ∧
      ∀ e, ((a.withLimit (some 0)).run now fuel t w).outcome = .failed e ↔
        ((a.withLimit (some 1)).run now fuel t w).outcome = .failed e := by
  have hl : Within (some 0) (some 1) := by
    rintro _ ⟨⟩
    exact ⟨0, rfl, Nat.zero_le 1⟩
  by_cases hlimit : ∀ r n, ((a.withLimit (some 0)).run now fuel t w).outcome = .finished r →
      r.ending ≠ .limitReached n
  · rw [run_loosen hl (Nat.le_refl fuel) (fun _ => rfl) hlimit]
    exact ⟨rfl, rfl, fun _ => Iff.rfl⟩
  · -- The limit of one stops the run after the same rounds.
    push Not at hlimit
    obtain ⟨r, n, hr, hending⟩ := hlimit
    obtain ⟨rs, t', w', left, stop, rfl, hreach, hstop, hrun⟩ :=
      (a.withLimit (some 0)).exists_reaches_stops now fuel t w
    rw [hrun, Run.outcome_afterAll] at hr
    cases hstop with
    | unfinished => cases hr
    | failed _ _ => cases hr
    | answered _ _ =>
      cases hr
      cases hending
    | @limitReached left limit hzero hk =>
      obtain rfl : 0 = limit := Option.some.inj hzero
      have hstop' : (a.withLimit (some 1)).Stops now rs.length t' w' (left + 1)
          ⟨.finished ⟨t', .limitReached 1, rs.length⟩, [], w'⟩ := .limitReached rfl hk
      rw [hrun, (hreach.loosen hl).run_of_stops hstop']
      exact ⟨rfl, rfl, fun _ => ⟨nofun, nofun⟩⟩

/-- **Looser limits.** Take two limits, the second of them the looser. A run that fails or is
answered under the first is the same run under the second. A run that the first limit stops makes
requests that are the first ones under the second, and if the run under the second finishes, it has
added to the transcript of the first. Limits of none and of one show the same requests and leave the
same transcript. -/
theorem run_of_within (a : Agent ω) {l l' : Option Nat} (hl : Within l l') (now : Time.Instant)
    {fuel fuel' : Nat} (hfuel : fuel ≤ fuel') (t : Transcript) (w : ω) :
    (∀ e, ((a.withLimit l).run now fuel t w).outcome = .failed e →
      (a.withLimit l').run now fuel' t w = (a.withLimit l).run now fuel t w) ∧
    (∀ r, ((a.withLimit l).run now fuel t w).outcome = .finished r → r.ending = .answered →
      (a.withLimit l').run now fuel' t w = (a.withLimit l).run now fuel t w) ∧
    (∀ r n, ((a.withLimit l).run now fuel t w).outcome = .finished r →
      r.ending = .limitReached n →
      ((a.withLimit l).run now fuel t w).requests <+:
          ((a.withLimit l').run now fuel' t w).requests ∧
        ∀ r', ((a.withLimit l').run now fuel' t w).outcome = .finished r' →
          r.transcript.messages <+: r'.transcript.messages) ∧
    ((a.withLimit (some 0)).run now fuel t w).requests =
        ((a.withLimit (some 1)).run now fuel t w).requests ∧
      ((a.withLimit (some 0)).run now fuel t w).outcome.transcript? =
        ((a.withLimit (some 1)).run now fuel t w).outcome.transcript? ∧
      ∀ e, ((a.withLimit (some 0)).run now fuel t w).outcome = .failed e ↔
        ((a.withLimit (some 1)).run now fuel t w).outcome = .failed e := by
  refine ⟨fun e he => ?_, fun r hr hanswered => ?_, fun r n hr hlimit => ?_,
    run_zero_one a now fuel t w⟩
  · refine run_loosen hl hfuel (fun h => ?_) fun r n hr => ?_
    · cases he.symm.trans h
    · cases he.symm.trans hr
  · refine run_loosen hl hfuel (fun h => ?_) fun r' n hr' => ?_
    · cases hr.symm.trans h
    · cases hr.symm.trans hr'
      rw [hanswered]
      exact nofun
  · exact prefix_loosen hl hfuel hr hlimit

/-- A calculator that may be asked twice starts like one that may be asked as often as it wants. -/
theorem run_of_within_sums :
    Within (some 2) none ∧ 3 ≤ 4 ∧
    ∃ r : Result,
      (((calculator none).withLimit (some 2)).run .start 3 (.ofHuman .start "2+2?")
        [sumAnswer ["x"], sumAnswer ["y", "y"], sumAnswer ["z"]]).outcome = .finished r ∧
      r.ending = .limitReached 2 ∧
      (((calculator none).withLimit (some 2)).run .start 3 (.ofHuman .start "2+2?")
          [sumAnswer ["x"], sumAnswer ["y", "y"], sumAnswer ["z"]]).requests <+:
        (((calculator none).withLimit none).run .start 4 (.ofHuman .start "2+2?")
          [sumAnswer ["x"], sumAnswer ["y", "y"], sumAnswer ["z"]]).requests := by
  have hl : Within (some 2) none := nofun
  obtain ⟨-, -, hlimit, -⟩ := run_of_within (calculator none) hl .start (show 3 ≤ 4 by decide)
    (.ofHuman .start "2+2?") [sumAnswer ["x"], sumAnswer ["y", "y"], sumAnswer ["z"]]
  exact ⟨hl, by decide, _, rfl, rfl, (hlimit _ 2 rfl rfl).1⟩

end Agent

end Dialogue
