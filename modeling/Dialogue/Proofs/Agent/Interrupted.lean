import Dialogue.Proofs.Agent.Rounds

/-!
# Interrupted runs

An interrupt changes nothing of a run, or cuts it off while the model is asked: the run has made the
requests that it would have made up to that one, and nothing that the model says to the last of them
counts. Which of the two it is depends on the time that the answers take: `ReachesUnder` counts the
milliseconds of the rounds that are over before the interrupt, and `Interrupt.Beats` says that the
interrupt comes before an answer. An interrupt that is there at the start comes before the first
request.

Main statements: `exists_reachesUnder_stopsUnder` (every run under an interrupt plays rounds before
the interrupt, and then it stops by itself or is cut off), `Reaches.requests_prefix` (the rounds
that were played and the request after them make the first requests of the run without an interrupt)
and `runUnder_cases` (the interrupt changes nothing, or the run is cut off).
-/

namespace Dialogue

/-! ## Interrupts and answers -/

namespace Interrupt

variable {i : Interrupt} {k ms n : Nat}

/-- The interrupt comes before the answer to the request of a number, if that answer is there after
a number of milliseconds. -/
def Beats (i : Interrupt) (k ms : Nat) : Prop :=
  ∃ left, i.after = some left ∧ (left < ms ∨ left = ms ∧ i.first k = true)

/-- The interrupt as it is some milliseconds later. -/
def later (i : Interrupt) (ms : Nat) : Interrupt :=
  { i with after := i.after.map (· - ms) }

@[simp]
theorem later_zero (i : Interrupt) : i.later 0 = i := by
  rcases i with ⟨_ | left, first⟩ <;> rfl

theorem later_later (i : Interrupt) (ms n : Nat) : (i.later ms).later n = i.later (ms + n) := by
  rcases i with ⟨_ | left, first⟩
  · rfl
  · simp [later, Nat.sub_sub]

theorem elapse_of_beats (h : i.Beats k ms) : i.elapse k ms = none := by
  obtain ⟨left, hleft, hcome⟩ := h
  simp only [elapse, hleft, if_pos hcome]

theorem elapse_of_not_beats (h : ¬ i.Beats k ms) : i.elapse k ms = some (i.later ms) := by
  rcases i with ⟨_ | left, first⟩
  · rfl
  · have hcome : ¬ (left < ms ∨ left = ms ∧ first k = true) := fun hcome => h ⟨left, rfl, hcome⟩
    simp only [elapse, if_neg hcome, later, Option.map_some]

/-- An interrupt that has not come in the first milliseconds beats an answer from then on if it
beats it from the start on. -/
theorem beats_later_iff (h : ∀ left, i.after = some left → ms ≤ left) :
    (i.later ms).Beats k n ↔ i.Beats k (ms + n) := by
  rcases i with ⟨_ | left, first⟩
  · constructor <;> rintro ⟨_, ⟨⟩, _⟩
  · have hms : ms ≤ left := h left rfl
    have hlt : left - ms < n ↔ left < ms + n := by omega
    have heq : left - ms = n ↔ left = ms + n := by omega
    simp only [Beats, later, Option.map_some, Option.some.injEq, exists_eq_left', hlt, heq]

theorem le_of_not_beats {left : Nat} (h : ¬ i.Beats k ms) (hleft : i.after = some left) :
    ms ≤ left :=
  Nat.le_of_not_lt fun hlt => h ⟨left, hleft, .inl hlt⟩

/-- An interrupt that does not come beats nothing. -/
theorem not_beats_of_none (h : i.after = none) : ¬ i.Beats k ms := by
  rintro ⟨left, hleft, -⟩
  cases h.symm.trans hleft

end Interrupt

namespace Agent

variable {ω : Type} {a : Agent ω} {now : Time.Instant} {fuel : Nat} {t t' : Transcript} {w w' : ω}
  {rs : List Round} {i : Interrupt} {ms : Nat} {stop : Run ω}

/-! ## Rounds before an interrupt -/

/-- A run goes on after these rounds, which are over before the interrupt, and the milliseconds that
they take. -/
inductive ReachesUnder (a : Agent ω) (now : Time.Instant) (i : Interrupt) (t : Transcript)
    (w : ω) : List Round → Nat → Transcript → ω → Prop where
  | nil : ReachesUnder a now i t w [] 0 t w
  | snoc {rs : List Round} {r : Round} {ms : Nat} {t₁ : Transcript} {w₁ w₂ : ω} :
      ReachesUnder a now i t w rs ms t₁ w₁ → a.Allows rs.length →
      ¬ i.Beats rs.length (ms + (a.ask now t₁ w₁).elapsed) →
      r.reply = a.replyTo now t₁ w₁ → r.reply.calls ≠ [] →
      a.toolbox.Observes (a.ask now t₁ w₁).world r.reply.calls r.observations w₂ →
      ReachesUnder a now i t w (rs ++ [r]) (ms + (a.ask now t₁ w₁).elapsed)
        (t₁.extend (r.messages now)) w₂

/-- How a run stops under an interrupt that has come to the model after `k` requests and `ms`
milliseconds: by itself, before the interrupt, or because the interrupt comes before the answer. -/
inductive StopsUnder (a : Agent ω) (now : Time.Instant) (i : Interrupt) (k ms : Nat)
    (t : Transcript) (w : ω) : (fuel : Nat) → Run ω → Prop where
  | stops {fuel : Nat} {stop : Run ω} : a.Stops now k t w fuel stop →
      (stop.requests ≠ [] → ¬ i.Beats k (ms + (a.ask now t w).elapsed)) →
      StopsUnder a now i k ms t w fuel stop
  | cutOff {fuel : Nat} : a.Allows k → i.Beats k (ms + (a.ask now t w).elapsed) →
      StopsUnder a now i k ms t w (fuel + 1)
        ⟨.cancelled, [a.request now t], (a.ask now t w).world⟩

/-- What is reached under an interrupt is reached without it. -/
theorem ReachesUnder.reaches (h : a.ReachesUnder now i t w rs ms t' w') :
    a.Reaches now t w rs t' w' := by
  induction h with
  | nil => exact .nil
  | snoc _ hk _ hr hcalls ho ih => exact ih.snoc hk hr hcalls ho

/-- The interrupt has not come before the end of the rounds. -/
theorem ReachesUnder.le_after (h : a.ReachesUnder now i t w rs ms t' w') :
    ∀ left, i.after = some left → ms ≤ left := by
  cases h with
  | nil => exact fun left _ => Nat.zero_le left
  | snoc _ _ hi _ _ _ => exact fun left hleft => Interrupt.le_of_not_beats hi hleft

/-- What is left of the interrupt when the model is asked after the rounds. -/
theorem ReachesUnder.elapse_eq (h : a.ReachesUnder now i t w rs ms t' w') {k n : Nat}
    (hi : ¬ i.Beats k (ms + n)) : (i.later ms).elapse k n = some (i.later (ms + n)) := by
  have hlater : ¬ (i.later ms).Beats k n := fun hbeats =>
    hi ((Interrupt.beats_later_iff h.le_after).mp hbeats)
  rw [Interrupt.elapse_of_not_beats hlater, Interrupt.later_later]

/-- **On the way.** A run that reaches a place before the interrupt is the run from that place on
under what is left of it, after the requests that were made on the way. -/
theorem ReachesUnder.runFrom_eq (h : a.ReachesUnder now i t w rs ms t' w') (fuel : Nat) :
    a.runFrom now (rs.length + fuel) 0 i t w =
      (a.runFrom now fuel rs.length (i.later ms) t' w').afterAll (a.requestsIn now t rs) := by
  -- The fuel is generalized: the rounds before the last one are followed by one round more.
  induction h generalizing fuel with
  | nil => simp [requestsIn]
  | @snoc rs r ms t₁ w₁ w₂ hreach hk hi hr hcalls ho ih =>
    have hbefore := ih (fuel + 1)
    rw [runFrom_of_observes fuel hk (hreach.elapse_eq hi) hr hcalls ho, Run.afterAll_after,
      hreach.reaches.plays.transcript_eq, ← requestsIn_snoc,
      ← hreach.reaches.plays.transcript_eq] at hbefore
    rw [List.length_append, List.length_singleton, Nat.add_assoc, Nat.add_comm 1 fuel, hbefore]

/-- The run that has come to the model under an interrupt stops in the way that is said. -/
theorem StopsUnder.runFrom_eq (hreach : a.ReachesUnder now i t w rs ms t' w')
    (h : a.StopsUnder now i rs.length ms t' w' fuel stop) :
    a.runFrom now fuel rs.length (i.later ms) t' w' = stop := by
  cases h with
  | stops hstop hi =>
    refine hstop.runFrom_under fun hne => ?_
    rw [hreach.elapse_eq (hi hne)]
    exact Option.some_ne_none _
  | cutOff hk hi =>
    exact runFrom_of_interrupt _ hk
      (Interrupt.elapse_of_beats ((Interrupt.beats_later_iff hreach.le_after).mpr hi))

/-- Where a run has come to under an interrupt, it stops, is cut off or plays a round more. -/
theorem stopsUnder_or_round (a : Agent ω) (now : Time.Instant) (i : Interrupt)
    (k ms fuel : Nat) (t : Transcript) (w : ω) :
    (∃ stop, a.StopsUnder now i k ms t w (fuel + 1) stop) ∨
      ∃ (r : Round) (w' : ω), a.Allows k ∧ ¬ i.Beats k (ms + (a.ask now t w).elapsed) ∧
        r.reply = a.replyTo now t w ∧ r.reply.calls ≠ [] ∧
        a.toolbox.Observes (a.ask now t w).world r.reply.calls r.observations w' := by
  by_cases hi : a.Allows k → ¬ i.Beats k (ms + (a.ask now t w).elapsed)
  · rcases a.stops_or_round now k fuel t w with ⟨stop, hstop⟩ | ⟨r, w', hk, hr, hcalls, ho⟩
    · refine .inl ⟨stop, .stops hstop fun hne => ?_⟩
      rcases hstop.requests_eq with hnone | ⟨-, hk, -⟩
      · exact absurd hnone hne
      · exact hi hk
    · exact .inr ⟨r, w', hk, hi hk, hr, hcalls, ho⟩
  · obtain ⟨hk, hbeats⟩ := Classical.not_imp.mp hi
    exact .inl ⟨_, .cutOff hk (Classical.not_not.mp hbeats)⟩

/-- **Every run under an interrupt** plays rounds before the interrupt, and then it stops by itself
or is cut off. -/
theorem exists_reachesUnder_stopsUnder (a : Agent ω) (now : Time.Instant) (fuel : Nat)
    (i : Interrupt) (t : Transcript) (w : ω) :
    ∃ rs ms t' w' left stop, rs.length + left = fuel ∧ a.ReachesUnder now i t w rs ms t' w' ∧
      a.StopsUnder now i rs.length ms t' w' left stop ∧
      a.runFrom now fuel 0 i t w = stop.afterAll (a.requestsIn now t rs) := by
  -- The induction is on the fuel that is left: with none, the run has stopped.
  suffices hgoing : ∀ left rs ms t' w', rs.length + left = fuel →
      a.ReachesUnder now i t w rs ms t' w' →
      ∃ rs ms t' w' left stop, rs.length + left = fuel ∧
        a.ReachesUnder now i t w rs ms t' w' ∧
        a.StopsUnder now i rs.length ms t' w' left stop by
    obtain ⟨rs, ms, t', w', left, stop, rfl, hreach, hstop⟩ :=
      hgoing fuel [] 0 t w (Nat.zero_add fuel) .nil
    refine ⟨rs, ms, t', w', left, stop, rfl, hreach, hstop, ?_⟩
    rw [hreach.runFrom_eq, hstop.runFrom_eq hreach]
  intro left
  induction left with
  | zero =>
    intro rs ms t' w' hlen hreach
    exact ⟨rs, ms, t', w', 0, _, hlen, hreach, .stops .unfinished fun hne => absurd rfl hne⟩
  | succ left ih =>
    intro rs ms t' w' hlen hreach
    rcases a.stopsUnder_or_round now i rs.length ms left t' w' with
      ⟨stop, hstop⟩ | ⟨r, w'', hk, hi, hr, hcalls, ho⟩
    · exact ⟨rs, ms, t', w', left + 1, stop, hlen, hreach, hstop⟩
    · refine ih _ _ _ _ ?_ (hreach.snoc hk hi hr hcalls ho)
      rw [List.length_append, List.length_singleton]
      omega

/-! ## What a run that is cut off has made -/

/-- A run that may ask the model once more does so first. -/
theorem exists_requests_eq_cons {k : Nat} (hk : a.Allows k) (fuel : Nat) (t : Transcript) (w : ω) :
    ∃ qs, (a.runFrom now (fuel + 1) k .never t w).requests = a.request now t :: qs := by
  rcases a.stops_or_round now k fuel t w with ⟨stop, hstop⟩ | ⟨r, w', -, hr, hcalls, ho⟩
  · rw [hstop.runFrom_eq]
    cases hstop with
    | limitReached hlimit hle => exact absurd (hk _ hlimit) (Nat.not_lt.mpr hle)
    | answered _ _ => exact ⟨[], rfl⟩
    | failed _ _ => exact ⟨[], rfl⟩
  · rw [runFrom_of_observes fuel hk (Interrupt.elapse_never _ _) hr hcalls ho]
    exact ⟨_, rfl⟩

/-- Whatever is reached, the requests up to there and the next one are the first ones of the run. -/
theorem Reaches.requests_prefix (h : a.Reaches now t w rs t' w') (hk : a.Allows rs.length)
    (left : Nat) :
    a.requestsIn now t rs ++ [a.request now t'] <+:
      (a.run now (rs.length + (left + 1)) t w).requests := by
  obtain ⟨qs, hqs⟩ : ∃ qs, (a.runFrom now (left + 1) rs.length .never t' w').requests =
      a.request now t' :: qs := exists_requests_eq_cons hk left t' w'
  refine ⟨qs, ?_⟩
  rw [h.run_eq, Run.requests_afterAll, hqs, List.append_assoc, List.singleton_append]

/-- **What an interrupt does.** It is there at the start and nothing happens; or the run stops
before it in the way that it would without it; or the run is cut off, and has made the first
requests of the run without the interrupt. -/
theorem runUnder_cases (a : Agent ω) (now : Time.Instant) (fuel : Nat) (i : Interrupt)
    (t : Transcript) (w : ω) :
    (i.after = some 0 ∧ a.runUnder now fuel i t w = ⟨.cancelled, [], w⟩) ∨
    i.after ≠ some 0 ∧ ∃ rs ms t' w' left, rs.length + left = fuel ∧
      a.ReachesUnder now i t w rs ms t' w' ∧
      ((∃ stop, a.Stops now rs.length t' w' left stop ∧
          (stop.requests ≠ [] → ¬ i.Beats rs.length (ms + (a.ask now t' w').elapsed)) ∧
          a.runUnder now fuel i t w = stop.afterAll (a.requestsIn now t rs) ∧
          a.run now fuel t w = stop.afterAll (a.requestsIn now t rs)) ∨
        a.Allows rs.length ∧ i.Beats rs.length (ms + (a.ask now t' w').elapsed) ∧
          a.runUnder now fuel i t w = ⟨.cancelled, a.requestsIn now t rs ++ [a.request now t'],
            (a.ask now t' w').world⟩ ∧
          a.requestsIn now t rs ++ [a.request now t'] <+: (a.run now fuel t w).requests) := by
  unfold runUnder
  split
  · next hstart => exact .inl ⟨hstart, rfl⟩
  · next hstart =>
    obtain ⟨rs, ms, t', w', left, stop, rfl, hreach, hstop, hrun⟩ :=
      a.exists_reachesUnder_stopsUnder now fuel i t w
    refine .inr ⟨hstart, rs, ms, t', w', left, rfl, hreach, ?_⟩
    cases hstop with
    | stops hstop hi => exact .inl ⟨stop, hstop, hi, hrun, hreach.reaches.run_of_stops hstop⟩
    | cutOff hk hi => exact .inr ⟨hk, hi, hrun, hreach.reaches.requests_prefix hk _⟩

end Agent

end Dialogue
