import Dialogue.Agent.Run
import Dialogue.Proofs.Agent.Reply
import Dialogue.Proofs.Tool.Calls

/-!
# Rounds

What a run without interrupts goes through, said without the fuel. A *round* is a reply of the model
together with the observations of its calls. `Plays` threads a transcript and a world through rounds
that follow one another; `Reaches` says of such rounds that a run goes on after each of them: every
reply asked for calls and no request was one too many. `Stops` lists the four ways in which a run
stops where it has come to.

Main statements: `Reaches.run_eq` (a run that reaches a place is the run from that place on, with
the requests made on the way before it) and `exists_reaches_stops` (every run reaches a place and
stops there). All that is said about runs elsewhere comes from these two.
-/

namespace Dialogue

/-! ## What happens in a round -/

/-- A reply of the model, and what its calls gave. -/
structure Round where
  reply : Message
  observations : List Observation

namespace Round

/-- The messages that a round adds: the reply, and an answer to each of its calls in order. -/
def messages (now : Time.Instant) (r : Round) : List Message :=
  r.reply :: List.zipWith (Call.answer now) r.reply.calls r.observations

/-- The messages that rounds add. -/
def allMessages (now : Time.Instant) (rs : List Round) : List Message :=
  rs.flatMap (·.messages now)

@[simp]
theorem allMessages_nil (now : Time.Instant) : allMessages now [] = [] :=
  rfl

@[simp]
theorem allMessages_append (now : Time.Instant) (rs ss : List Round) :
    allMessages now (rs ++ ss) = allMessages now rs ++ allMessages now ss :=
  List.flatMap_append

@[simp]
theorem allMessages_singleton (now : Time.Instant) (r : Round) :
    allMessages now [r] = r.messages now := by
  simp [allMessages]

end Round

namespace Run

variable {ω : Type}

/-- The run with requests before it. -/
def afterAll (requests : List Request) (r : Run ω) : Run ω :=
  { r with requests := requests ++ r.requests }

@[simp]
theorem outcome_afterAll (requests : List Request) (r : Run ω) :
    (r.afterAll requests).outcome = r.outcome :=
  rfl

@[simp]
theorem requests_afterAll (requests : List Request) (r : Run ω) :
    (r.afterAll requests).requests = requests ++ r.requests :=
  rfl

@[simp]
theorem world_afterAll (requests : List Request) (r : Run ω) :
    (r.afterAll requests).world = r.world :=
  rfl

@[simp]
theorem afterAll_nil (r : Run ω) : r.afterAll [] = r :=
  rfl

theorem afterAll_after (requests : List Request) (q : Request) (r : Run ω) :
    (r.after q).afterAll requests = r.afterAll (requests ++ [q]) := by
  simp [afterAll, after]

end Run

namespace Agent

variable {ω : Type} {a : Agent ω} {now : Time.Instant}

/-- The model may be asked once more after `k` requests. The first request is always allowed. -/
def Allows (a : Agent ω) (k : Nat) : Prop :=
  ∀ limit, a.limit = some limit → k < max 1 limit

theorem limitReached?_eq_none {k : Nat} (h : a.Allows k) : a.limitReached? k = none := by
  rw [limitReached?, Option.filter_eq_none_iff]
  intro limit hlimit
  have hk : k < max 1 limit := h limit hlimit
  simp only [Bool.and_eq_true, decide_eq_true_eq, not_and]
  omega

theorem exists_limitReached? {k : Nat} (h : ¬ a.Allows k) :
    ∃ limit, a.limit = some limit ∧ max 1 limit ≤ k ∧ a.limitReached? k = some limit := by
  obtain ⟨limit, hlimit, hk⟩ : ∃ limit, a.limit = some limit ∧ max 1 limit ≤ k := by
    refine Classical.byContradiction fun hnone => h ?_
    intro limit hlimit
    exact Nat.lt_of_not_le fun hle => hnone ⟨limit, hlimit, hle⟩
  refine ⟨limit, hlimit, hk, ?_⟩
  rw [limitReached?, hlimit, Option.filter_some, if_pos]
  simp only [Bool.and_eq_true, decide_eq_true_eq]
  omega

/-- What is allowed late is allowed early. -/
theorem Allows.mono {j k : Nat} (h : a.Allows k) (hjk : j ≤ k) : a.Allows j :=
  fun limit hlimit => Nat.lt_of_le_of_lt hjk (h limit hlimit)

/-! ## One round of a run

One equation for each way the run can go when it comes to the model. An interrupt has no part in
them as long as it does not come before the answer. -/

@[simp]
theorem runFrom_zero (k : Nat) (i : Interrupt) (t : Transcript) (w : ω) :
    a.runFrom now 0 k i t w = ⟨.unfinished, [], w⟩ :=
  rfl

/-- The limit is reached. -/
theorem runFrom_of_limit {k limit : Nat} (fuel : Nat) (i : Interrupt) (t : Transcript) (w : ω)
    (h : a.limitReached? k = some limit) :
    a.runFrom now (fuel + 1) k i t w = ⟨.finished ⟨t, .limitReached limit, k⟩, [], w⟩ := by
  simp only [runFrom, h]

section

variable {k : Nat} {i i' : Interrupt} {t : Transcript} {w w' : ω}

/-- The interrupt comes before the answer. -/
theorem runFrom_of_interrupt (fuel : Nat) (hk : a.Allows k)
    (hi : i.elapse k (a.ask now t w).elapsed = none) :
    a.runFrom now (fuel + 1) k i t w = ⟨.cancelled, [a.request now t], (a.ask now t w).world⟩ := by
  simp only [runFrom, limitReached?_eq_none hk, hi, request_ask]

/-- The model answers without calls. -/
theorem runFrom_of_answer (fuel : Nat) (hk : a.Allows k)
    (hi : i.elapse k (a.ask now t w).elapsed = some i') (h : (a.replyTo now t w).calls = []) :
    a.runFrom now (fuel + 1) k i t w =
      ⟨.finished ⟨t.push (a.replyTo now t w), .answered, k + 1⟩, [a.request now t],
        (a.ask now t w).world⟩ := by
  have hpending : (t.push (a.replyTo now t w)).pendingCalls = [] := by
    rw [Transcript.pendingCalls_push t (role_replyTo a now t w), h]
  have hstep : Step.afterModel (t.push ((a.ask now t w).reply.message now)) = .finish := by
    rw [Step.afterModel, ← replyTo, hpending]
    rfl
  simp only [runFrom, limitReached?_eq_none hk, hi, hstep, request_ask]
  rfl

/-- The model asks for calls: they are run before anything else happens. -/
theorem runFrom_of_calls (fuel : Nat) (hk : a.Allows k)
    (hi : i.elapse k (a.ask now t w).elapsed = some i') (h : (a.replyTo now t w).calls ≠ []) :
    a.runFrom now (fuel + 1) k i t w =
      match a.toolbox.runCalls now (a.replyTo now t w).calls (a.ask now t w).world with
      | (.error e, w') => ⟨.failed e, [a.request now t], w'⟩
      | (.ok ms, w') =>
        (a.runFrom now fuel (k + 1) i' ((t.push (a.replyTo now t w)).extend ms) w').after
          (a.request now t) := by
  have hreply : (a.ask now t w).reply.message now = a.replyTo now t w := rfl
  have hpending := Transcript.pendingCalls_push t (role_replyTo a now t w)
  have hstep : Step.afterModel (t.push (a.replyTo now t w)) = .runTools := by
    rw [Step.afterModel, hpending, if_neg]
    simpa using h
  have hrun : a.toolbox.runPending now (t.push (a.replyTo now t w)) (a.ask now t w).world =
      a.toolbox.runCalls now (a.replyTo now t w).calls (a.ask now t w).world := by
    rw [Toolbox.runPending_of_ne_nil _ (hpending.symm ▸ h), hpending]
  rcases hcalls : a.toolbox.runCalls now (a.replyTo now t w).calls (a.ask now t w).world with
    ⟨e | ms, w'⟩
  all_goals
    rw [hcalls] at hrun
    simp only [runFrom, limitReached?_eq_none hk, hi, hreply, hstep, request_ask, hrun]

/-- A call fails. -/
theorem runFrom_of_breaks {e : Failure} (fuel : Nat) (hk : a.Allows k)
    (hi : i.elapse k (a.ask now t w).elapsed = some i')
    (h : a.toolbox.Breaks (a.ask now t w).world (a.replyTo now t w).calls e w') :
    a.runFrom now (fuel + 1) k i t w = ⟨.failed e, [a.request now t], w'⟩ := by
  rw [runFrom_of_calls fuel hk hi h.ne_nil, h.runCalls]

/-- All calls succeed, and the run goes on after the round. -/
theorem runFrom_of_observes {r : Round} (fuel : Nat) (hk : a.Allows k)
    (hi : i.elapse k (a.ask now t w).elapsed = some i') (hr : r.reply = a.replyTo now t w)
    (hcalls : r.reply.calls ≠ [])
    (h : a.toolbox.Observes (a.ask now t w).world r.reply.calls r.observations w') :
    a.runFrom now (fuel + 1) k i t w =
      (a.runFrom now fuel (k + 1) i' (t.extend (r.messages now)) w').after (a.request now t) := by
  rw [runFrom_of_calls fuel hk hi (hr ▸ hcalls), ← hr, h.runCalls]
  change ((a.runFrom now fuel (k + 1) i' ((t.push r.reply).extend _) w').after _) = _
  rw [Transcript.extend_push, Round.messages]

end

/-! ## Rounds one after another -/

/-- Rounds follow one another from a transcript and a world: each reply is what comes of asking the
model there, and its calls give the observations of the round. -/
inductive Plays (a : Agent ω) (now : Time.Instant) (t : Transcript) (w : ω) :
    List Round → Transcript → ω → Prop where
  | nil : Plays a now t w [] t w
  | snoc {rs : List Round} {r : Round} {t₁ : Transcript} {w₁ w₂ : ω} :
      Plays a now t w rs t₁ w₁ → r.reply = a.replyTo now t₁ w₁ →
      a.toolbox.Observes (a.ask now t₁ w₁).world r.reply.calls r.observations w₂ →
      Plays a now t w (rs ++ [r]) (t₁.extend (r.messages now)) w₂

/-- A run goes on after these rounds: every reply asked for calls, and every request was allowed. -/
structure Reaches (a : Agent ω) (now : Time.Instant) (t : Transcript) (w : ω) (rs : List Round)
    (t' : Transcript) (w' : ω) : Prop where
  plays : a.Plays now t w rs t' w'
  calls : ∀ r ∈ rs, r.reply.calls ≠ []
  allowed : ∀ k < rs.length, a.Allows k

/-- The requests that are made in rounds: each shows the transcript with the rounds before it. -/
def requestsIn (a : Agent ω) (now : Time.Instant) (t : Transcript) (rs : List Round) :
    List Request :=
  (List.range rs.length).map fun k =>
    a.request now (t.extend (Round.allMessages now (rs.take k)))

/-- How a run stops that has come to the model after `k` requests. -/
inductive Stops (a : Agent ω) (now : Time.Instant) (k : Nat) (t : Transcript) (w : ω) :
    (fuel : Nat) → Run ω → Prop where
  | unfinished : Stops a now k t w 0 ⟨.unfinished, [], w⟩
  | limitReached {fuel limit : Nat} : a.limit = some limit → max 1 limit ≤ k →
      Stops a now k t w (fuel + 1) ⟨.finished ⟨t, .limitReached limit, k⟩, [], w⟩
  | answered {fuel : Nat} : a.Allows k → (a.replyTo now t w).calls = [] →
      Stops a now k t w (fuel + 1)
        ⟨.finished ⟨t.push (a.replyTo now t w), .answered, k + 1⟩, [a.request now t],
          (a.ask now t w).world⟩
  | failed {fuel : Nat} {e : Failure} {w' : ω} : a.Allows k →
      a.toolbox.Breaks (a.ask now t w).world (a.replyTo now t w).calls e w' →
      Stops a now k t w (fuel + 1) ⟨.failed e, [a.request now t], w'⟩

/-- After these rounds the model asks for calls, and one of them fails with `e`. -/
def BreaksAfter (a : Agent ω) (now : Time.Instant) (t : Transcript) (w : ω) (rs : List Round)
    (e : Failure) : Prop :=
  ∃ t' w' w'', a.Reaches now t w rs t' w' ∧ a.Allows rs.length ∧
    a.toolbox.Breaks (a.ask now t' w').world (a.replyTo now t' w').calls e w''

section

variable {t t' : Transcript} {w w' : ω} {rs : List Round} {fuel : Nat}

/-- The transcript after rounds is the one before them with their messages. -/
theorem Plays.transcript_eq (h : a.Plays now t w rs t' w') :
    t' = t.extend (Round.allMessages now rs) := by
  induction h with
  | nil => simp
  | snoc _ _ _ ih => simp [ih]

/-- Without rounds nothing has happened. -/
theorem Plays.of_nil (h : a.Plays now t w [] t' w') : t' = t ∧ w' = w := by
  generalize hrs : ([] : List Round) = rs at h
  cases h with
  | nil => exact ⟨rfl, rfl⟩
  | snoc => simp at hrs

/-- Every reply is a message of the model. -/
theorem Plays.role_reply (h : a.Plays now t w rs t' w') : ∀ r ∈ rs, r.reply.role = .model := by
  induction h with
  | nil => simp
  | snoc _ hr _ ih =>
    intro x hx
    rcases List.mem_append.mp hx with hx | hx
    · exact ih x hx
    · rw [List.mem_singleton.mp hx, hr, role_replyTo]

/-- Every call has an observation. -/
theorem Plays.length_observations (h : a.Plays now t w rs t' w') :
    ∀ r ∈ rs, r.observations.length = r.reply.calls.length := by
  induction h with
  | nil => simp
  | snoc _ _ ho ih =>
    intro x hx
    rcases List.mem_append.mp hx with hx | hx
    · exact ih x hx
    · rw [List.mem_singleton.mp hx, ho.length_eq]

/-- The first of some rounds are rounds. -/
theorem Plays.take (h : a.Plays now t w rs t' w') (k : Nat) :
    ∃ t₁ w₁, a.Plays now t w (rs.take k) t₁ w₁ := by
  induction h with
  | nil => exact ⟨t, w, by simpa using Plays.nil⟩
  | @snoc rs r t₁ w₁ w₂ hplays hr ho ih =>
    by_cases hk : k ≤ rs.length
    · rw [List.take_append_of_le_length hk]
      exact ih
    · rw [List.take_of_length_le (by simp; omega)]
      exact ⟨_, w₂, .snoc hplays hr ho⟩

theorem Reaches.nil : a.Reaches now t w [] t w :=
  ⟨.nil, by simp, by simp⟩

/-- A round more. -/
theorem Reaches.snoc {t₁ : Transcript} {w₁ : ω} {r : Round} (h : a.Reaches now t w rs t₁ w₁)
    (hk : a.Allows rs.length) (hr : r.reply = a.replyTo now t₁ w₁) (hcalls : r.reply.calls ≠ [])
    (ho : a.toolbox.Observes (a.ask now t₁ w₁).world r.reply.calls r.observations w') :
    a.Reaches now t w (rs ++ [r]) (t₁.extend (r.messages now)) w' := by
  refine ⟨.snoc h.plays hr ho, fun x hx => ?_, fun k hlt => ?_⟩
  · rcases List.mem_append.mp hx with hx | hx
    · exact h.calls x hx
    · rw [List.mem_singleton.mp hx]
      exact hcalls
  · refine hk.mono ?_
    simp at hlt
    omega

/-- A run that is answered has played rounds with calls and one without. -/
theorem answered_blocks (h : a.Reaches now t w rs t' w')
    (hcalls : (a.replyTo now t' w').calls = []) :
    a.Plays now t w (rs ++ [⟨a.replyTo now t' w', []⟩]) (t'.push (a.replyTo now t' w'))
      (a.ask now t' w').world := by
  have hnone : a.toolbox.Observes (a.ask now t' w').world (a.replyTo now t' w').calls []
      (a.ask now t' w').world := by
    rw [hcalls]
    exact .nil
  have hround : a.Plays now t w (rs ++ [⟨a.replyTo now t' w', []⟩]) _ _ :=
    h.plays.snoc rfl hnone
  rw [Round.messages, List.zipWith_nil_right] at hround
  exact hround

/-- What is reached on the way. -/
theorem Reaches.take (h : a.Reaches now t w rs t' w') (k : Nat) :
    ∃ t₁ w₁, a.Reaches now t w (rs.take k) t₁ w₁ := by
  obtain ⟨t₁, w₁, hplays⟩ := h.plays.take k
  refine ⟨t₁, w₁, hplays, fun r hr => h.calls r (List.mem_of_mem_take hr), fun j hj => ?_⟩
  exact h.allowed j (Nat.lt_of_lt_of_le hj (List.length_take_le' k rs))

/-- The last round that was reached has calls and an observation for each of them. -/
theorem Reaches.exists_last (h : a.Reaches now t w rs t' w') (hne : rs ≠ []) :
    ∃ pre last, rs = pre ++ [last] ∧ (∀ r ∈ pre, r.reply.calls ≠ []) ∧
      last.reply.calls ≠ [] ∧ last.observations.length = last.reply.calls.length := by
  have hmem : rs.getLast hne ∈ rs := List.getLast_mem hne
  refine ⟨rs.dropLast, rs.getLast hne, (List.dropLast_concat_getLast hne).symm, ?_,
    h.calls _ hmem, h.plays.length_observations _ hmem⟩
  intro r hr
  exact h.calls r (List.dropLast_subset rs hr)

@[simp]
theorem length_requestsIn (a : Agent ω) (now : Time.Instant) (t : Transcript) (rs : List Round) :
    (a.requestsIn now t rs).length = rs.length := by
  simp [requestsIn]

theorem requestsIn_snoc (a : Agent ω) (now : Time.Instant) (t : Transcript) (rs : List Round)
    (r : Round) :
    a.requestsIn now t (rs ++ [r]) =
      a.requestsIn now t rs ++ [a.request now (t.extend (Round.allMessages now rs))] := by
  have hpre : ∀ k ∈ List.range rs.length, (rs ++ [r]).take k = rs.take k := fun k hk =>
    List.take_append_of_le_length (Nat.le_of_lt (List.mem_range.mp hk))
  rw [requestsIn, List.length_append, List.length_singleton, List.range_succ, List.map_append,
    List.map_singleton, List.take_left, requestsIn]
  congr 1
  exact List.map_congr_left fun k hk => by rw [hpre k hk]

/-! ## Runs and rounds -/

/-- **On the way.** A run that reaches a place is the run from that place on, after the requests
that were made on the way. -/
theorem Reaches.run_eq (h : a.Reaches now t w rs t' w') (fuel : Nat) :
    a.run now (rs.length + fuel) t w =
      (a.runFrom now fuel rs.length .never t' w').afterAll (a.requestsIn now t rs) := by
  obtain ⟨hplays, hcalls, hallowed⟩ := h
  -- The fuel is generalized: the rounds before the last one are followed by one round more.
  induction hplays generalizing fuel with
  | nil => simp [run, requestsIn]
  | @snoc rs r t₁ w₁ w₂ hplays hr ho ih =>
    have hbefore := ih (fuel + 1) (fun x hx => hcalls x (List.mem_append_left _ hx))
      (fun k hk => hallowed k (by simp; omega))
    have hround : a.Allows rs.length := hallowed rs.length (by simp)
    have hne : r.reply.calls ≠ [] := hcalls r (by simp)
    rw [runFrom_of_observes fuel hround (Interrupt.elapse_never _ _) hr hne ho,
      Run.afterAll_after, hplays.transcript_eq, ← requestsIn_snoc,
      ← hplays.transcript_eq] at hbefore
    rw [List.length_append, List.length_singleton, Nat.add_assoc, Nat.add_comm 1 fuel, hbefore]

/-- The run that has come to the model stops in the way that is said, unless it makes a request and
an interrupt comes before the answer. -/
theorem Stops.runFrom_under {k fuel : Nat} {i : Interrupt} {stop : Run ω}
    (h : a.Stops now k t w fuel stop)
    (hi : stop.requests ≠ [] → i.elapse k (a.ask now t w).elapsed ≠ none) :
    a.runFrom now fuel k i t w = stop := by
  cases h with
  | unfinished => exact runFrom_zero k i t w
  | limitReached hlimit hk =>
    have hnot : ¬ a.Allows k := fun hallows => Nat.not_lt.mpr hk (hallows _ hlimit)
    obtain ⟨limit', hlimit', -, hreached⟩ := exists_limitReached? hnot
    obtain rfl : _ = limit' := Option.some.inj (hlimit.symm.trans hlimit')
    exact runFrom_of_limit _ i t w hreached
  | answered hk hcalls =>
    obtain ⟨i', hi'⟩ := Option.ne_none_iff_exists'.mp (hi (List.cons_ne_nil _ _))
    exact runFrom_of_answer _ hk hi' hcalls
  | failed hk hbreaks =>
    obtain ⟨i', hi'⟩ := Option.ne_none_iff_exists'.mp (hi (List.cons_ne_nil _ _))
    exact runFrom_of_breaks _ hk hi' hbreaks

theorem Stops.runFrom_eq {k fuel : Nat} {stop : Run ω} (h : a.Stops now k t w fuel stop) :
    a.runFrom now fuel k .never t w = stop :=
  h.runFrom_under fun _ => by simp

/-- **What a run is.** A run that reaches a place and stops there makes the requests on the way and
those of the stop. -/
theorem Reaches.run_of_stops {fuel : Nat} {stop : Run ω} (h : a.Reaches now t w rs t' w')
    (hstop : a.Stops now rs.length t' w' fuel stop) :
    a.run now (rs.length + fuel) t w = stop.afterAll (a.requestsIn now t rs) := by
  rw [h.run_eq, hstop.runFrom_eq]

/-- A run with fuel for one more round breaks where a call fails. -/
theorem BreaksAfter.run_eq {e : Failure} (h : a.BreaksAfter now t w rs e)
    (hfuel : rs.length < fuel) :
    ∃ t' w'', a.run now fuel t w =
      ⟨.failed e, a.requestsIn now t rs ++ [a.request now t'], w''⟩ := by
  obtain ⟨t', w', w'', hreach, hk, hbreaks⟩ := h
  obtain ⟨left, rfl⟩ := Nat.exists_eq_add_of_lt hfuel
  have hstop : a.Stops now rs.length t' w' (left + 1) ⟨.failed e, [a.request now t'], w''⟩ :=
    .failed hk hbreaks
  exact ⟨t', w'', hreach.run_of_stops hstop⟩

/-- Where a run has come to, it stops or plays a round more. -/
theorem stops_or_round (a : Agent ω) (now : Time.Instant) (k fuel : Nat) (t : Transcript) (w : ω) :
    (∃ stop, a.Stops now k t w (fuel + 1) stop) ∨
      ∃ (r : Round) (w' : ω), a.Allows k ∧ r.reply = a.replyTo now t w ∧ r.reply.calls ≠ [] ∧
        a.toolbox.Observes (a.ask now t w).world r.reply.calls r.observations w' := by
  by_cases hk : a.Allows k
  · by_cases hcalls : (a.replyTo now t w).calls = []
    · exact .inl ⟨_, .answered hk hcalls⟩
    · rcases a.toolbox.observes_or_breaks (a.ask now t w).world (a.replyTo now t w).calls with
        ⟨os, w', ho⟩ | ⟨e, w', hb⟩
      · exact .inr ⟨⟨a.replyTo now t w, os⟩, w', hk, rfl, hcalls, ho⟩
      · exact .inl ⟨_, .failed hk hb⟩
  · obtain ⟨limit, hlimit, hle, -⟩ := exists_limitReached? hk
    exact .inl ⟨_, .limitReached hlimit hle⟩

/-- **Every run** reaches a place within its fuel and stops there. -/
theorem exists_reaches_stops (a : Agent ω) (now : Time.Instant) (fuel : Nat) (t : Transcript)
    (w : ω) :
    ∃ rs t' w' left stop, rs.length + left = fuel ∧ a.Reaches now t w rs t' w' ∧
      a.Stops now rs.length t' w' left stop ∧
      a.run now fuel t w = stop.afterAll (a.requestsIn now t rs) := by
  -- The induction is on the fuel that is used up: so far the run has stopped, or played as many
  -- rounds.
  have hgoing : ∀ used ≤ fuel, (∃ rs t' w' left stop, rs.length + left = fuel ∧
      a.Reaches now t w rs t' w' ∧ a.Stops now rs.length t' w' left stop) ∨
      ∃ rs t' w', rs.length = used ∧ a.Reaches now t w rs t' w' := by
    intro used
    induction used with
    | zero => exact fun _ => .inr ⟨[], t, w, rfl, .nil⟩
    | succ n ih =>
      intro hn
      rcases ih (by omega) with hstopped | ⟨rs, t', w', hlen, hreach⟩
      · exact .inl hstopped
      · rcases a.stops_or_round now rs.length (fuel - (n + 1)) t' w' with
          ⟨stop, hstop⟩ | ⟨r, w'', hk, hr, hcalls, ho⟩
        · exact .inl ⟨rs, t', w', _, stop, by omega, hreach, hstop⟩
        · exact .inr ⟨rs ++ [r], _, w'', by simp [hlen], hreach.snoc hk hr hcalls ho⟩
  rcases hgoing fuel (Nat.le_refl fuel) with
    ⟨rs, t', w', left, stop, hlen, hreach, hstop⟩ | ⟨rs, t', w', hlen, hreach⟩
  · exact ⟨rs, t', w', left, stop, hlen, hreach, hstop, hlen ▸ hreach.run_of_stops hstop⟩
  · have hstop : a.Stops now rs.length t' w' 0 ⟨.unfinished, [], w'⟩ := .unfinished
    exact ⟨rs, t', w', 0, _, hlen, hreach, hstop, hlen ▸ hreach.run_of_stops hstop⟩

/-! ## Requests -/

/-- A stop makes at most the request that was due. -/
theorem Stops.requests_eq {k : Nat} {stop : Run ω} (h : a.Stops now k t w fuel stop) :
    stop.requests = [] ∨ 0 < fuel ∧ a.Allows k ∧ stop.requests = [a.request now t] := by
  cases h with
  | unfinished => exact .inl rfl
  | limitReached _ _ => exact .inl rfl
  | answered hk _ => exact .inr ⟨Nat.succ_pos _, hk, rfl⟩
  | failed hk _ => exact .inr ⟨Nat.succ_pos _, hk, rfl⟩

theorem getElem?_requestsIn {k : Nat} (hk : k < rs.length) :
    (a.requestsIn now t rs)[k]? =
      some (a.request now (t.extend (Round.allMessages now (rs.take k)))) := by
  rw [requestsIn, List.getElem?_map, List.getElem?_range hk, Option.map_some]

/-- The request with `k` before it is made where the run has come to after `k` rounds with calls. -/
theorem exists_reaches_of_getElem? {k : Nat} {q : Request}
    (hq : (a.run now fuel t w).requests[k]? = some q) :
    k < fuel ∧ ∃ rs t' w', rs.length = k ∧ a.Reaches now t w rs t' w' ∧ a.Allows k ∧
      q = a.request now t' := by
  obtain ⟨rs, t', w', left, stop, hlen, hreach, hstop, hrun⟩ := a.exists_reaches_stops now fuel t w
  rw [hrun, Run.requests_afterAll] at hq
  rcases Nat.lt_or_ge k rs.length with hlt | hge
  · -- The request was made on the way.
    rw [List.getElem?_append_left (by simpa using hlt), getElem?_requestsIn hlt] at hq
    obtain ⟨t₁, w₁, hearly⟩ := hreach.take k
    refine ⟨by omega, rs.take k, t₁, w₁, ?_, hearly, hreach.allowed k hlt, ?_⟩
    · exact List.length_take_of_le (Nat.le_of_lt hlt)
    · rw [hearly.plays.transcript_eq]
      exact (Option.some.inj hq).symm
  · -- The request is the one of the stop.
    rw [List.getElem?_append_right (by simpa using hge), length_requestsIn] at hq
    rcases hstop.requests_eq with hnone | ⟨hleft, hallows, hone⟩
    · simp [hnone] at hq
    · rw [hone, List.getElem?_singleton] at hq
      split at hq
      · obtain rfl : k = rs.length := by omega
        exact ⟨by omega, rs, t', w', rfl, hreach, hallows, (Option.some.inj hq).symm⟩
      · cases hq

/-- Every request of a run is made where the run has come to, after rounds with calls. -/
theorem exists_reaches_of_mem_requests {q : Request} (hq : q ∈ (a.run now fuel t w).requests) :
    ∃ rs t' w', a.Reaches now t w rs t' w' ∧ a.Allows rs.length ∧ q = a.request now t' := by
  obtain ⟨k, hk⟩ := List.getElem?_of_mem hq
  obtain ⟨-, rs, t', w', rfl, hreach, hallows, hrequest⟩ := exists_reaches_of_getElem? hk
  exact ⟨rs, t', w', hreach, hallows, hrequest⟩

end

end Agent

end Dialogue
