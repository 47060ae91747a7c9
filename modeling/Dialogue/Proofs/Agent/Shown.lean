import Dialogue.Proofs.Agent.Rehearsal
import Dialogue.Proofs.Tool.Order

/-!
# What the model is shown

The requests of a run, one after another. Each shows the message of the system, the transcript that
the run began with and the messages of the rounds before it; so it shows what the request before it
does, and then the reply to that request and the answers to the calls of the reply. This holds of
runs that fail as well: there the last request comes after all rounds.

Main statement: `requests_shown`. It comes from `exists_plays_requests`, which reads the requests of
a run off the rounds that it plays, and `Plays.exists_of_getElem?`, which says where a round comes
from.
-/

namespace Dialogue

/-- The answers to calls are messages of tools. -/
theorem Call.role_of_mem_answers {now : Time.Instant} {cs : List Call} {os : List Observation}
    {m : Message} (h : m ∈ List.zipWith (Call.answer now) cs os) : m.role = .tool := by
  obtain ⟨i, hi, rfl⟩ := List.mem_iff_getElem.mp h
  rw [List.getElem_zipWith]
  rfl

/-- The messages of a round are the reply and messages of tools. -/
theorem Round.eq_reply_or_role {now : Time.Instant} {r : Round} {m : Message}
    (h : m ∈ r.messages now) : m = r.reply ∨ m.role = .tool :=
  (List.mem_cons.mp h).imp_right Call.role_of_mem_answers

namespace Agent

variable {ω : Type} {a : Agent ω} {now : Time.Instant} {t t' : Transcript} {w w' : ω}
  {rs : List Round}

/-- The system says nothing in rounds. -/
theorem Plays.role_ne_system (h : a.Plays now t w rs t' w') :
    ∀ m ∈ Round.allMessages now rs, m.role ≠ .system := by
  intro m hm
  obtain ⟨r, hr, hmessage⟩ := List.mem_flatMap.mp hm
  rcases Round.eq_reply_or_role hmessage with rfl | htool
  · rw [h.role_reply r hr]
    decide
  · rw [htool]
    decide

/-- The round in a place comes of asking the model after the rounds before it. -/
theorem Plays.exists_of_getElem? {k : Nat} {r : Round} (h : a.Plays now t w rs t' w')
    (hr : rs[k]? = some r) :
    ∃ w₁ w₂, r.reply = a.replyTo now (t.extend (Round.allMessages now (rs.take k))) w₁ ∧
      a.toolbox.Observes (a.ask now (t.extend (Round.allMessages now (rs.take k))) w₁).world
        r.reply.calls r.observations w₂ := by
  induction h with
  | nil => cases hr
  | @snoc rs last t₁ w₁ w₂ hplays hreply ho ih =>
    rcases Nat.lt_or_ge k rs.length with hlt | hge
    · rw [List.getElem?_append_left hlt] at hr
      rw [List.take_append_of_le_length (Nat.le_of_lt hlt)]
      exact ih hr
    · -- The round is the last one.
      rw [List.getElem?_append_right hge, List.getElem?_singleton] at hr
      split at hr
      · cases hr
        obtain rfl : k = rs.length := by omega
        rw [List.take_left, ← hplays.transcript_eq]
        exact ⟨w₁, w₂, hreply, ho⟩
      · cases hr

/-- The first `n` requests of rounds, each of which shows one round more. -/
def requestsShowing (a : Agent ω) (now : Time.Instant) (t : Transcript) (rs : List Round)
    (n : Nat) : List Request :=
  (List.range n).map fun k => a.request now (t.extend (Round.allMessages now (rs.take k)))

theorem requestsShowing_length (a : Agent ω) (now : Time.Instant) (t : Transcript)
    (rs : List Round) : a.requestsShowing now t rs rs.length = a.requestsIn now t rs :=
  rfl

/-- After all rounds a request shows all of them. -/
theorem Plays.requestsShowing_succ (h : a.Plays now t w rs t' w') :
    a.requestsShowing now t rs (rs.length + 1) = a.requestsIn now t rs ++ [a.request now t'] := by
  rw [requestsShowing, List.range_succ, List.map_append, List.map_singleton, List.take_length,
    ← h.transcript_eq]
  rfl

theorem getElem?_requestsShowing {n k : Nat} {q : Request}
    (h : (a.requestsShowing now t rs n)[k]? = some q) :
    k < n ∧ q = a.request now (t.extend (Round.allMessages now (rs.take k))) := by
  rw [requestsShowing, List.getElem?_map] at h
  obtain ⟨j, hj, rfl⟩ := Option.map_eq_some_iff.mp h
  obtain ⟨hlt, rfl⟩ := List.getElem?_eq_some_iff.mp hj
  rw [List.getElem_range]
  exact ⟨by simpa using hlt, rfl⟩

/-- **Requests and rounds.** A run plays rounds and makes a request in each of them; if it fails, it
has made one more after them. If it finishes, they have left its transcript. -/
theorem exists_plays_requests (a : Agent ω) (now : Time.Instant) (fuel : Nat) (t : Transcript)
    (w : ω) :
    ∃ rs t' w' n, a.Plays now t w rs t' w' ∧
      (a.run now fuel t w).requests = a.requestsShowing now t rs n ∧ n ≤ rs.length + 1 ∧
      (∀ r, (a.run now fuel t w).outcome = .finished r →
        r.transcript = t' ∧ r.rounds = rs.length ∧ n = rs.length) ∧
      ∀ e, (a.run now fuel t w).outcome = .failed e → n = rs.length + 1 := by
  obtain ⟨rs, t', w', left, stop, -, hreach, hstop, hrun⟩ := a.exists_reaches_stops now fuel t w
  rw [hrun, Run.outcome_afterAll, Run.requests_afterAll]
  cases hstop with
  | unfinished =>
    exact ⟨rs, t', w', rs.length, hreach.plays, List.append_nil _, Nat.le_succ _, nofun, nofun⟩
  | limitReached _ _ =>
    refine ⟨rs, t', w', rs.length, hreach.plays, List.append_nil _, Nat.le_succ _, ?_, nofun⟩
    rintro _ ⟨⟩
    exact ⟨rfl, rfl, rfl⟩
  | answered _ hcalls =>
    -- The reply without calls is a round too, and the last request is the one made in it.
    refine ⟨_, _, _, _, answered_blocks hreach hcalls, ?_, Nat.le_succ _, ?_, nofun⟩
    · rw [requestsShowing_length, requestsIn_snoc, ← hreach.plays.transcript_eq]
    · rintro _ ⟨⟩
      exact ⟨rfl, by simp, rfl⟩
  | failed _ _ =>
    exact ⟨rs, t', w', rs.length + 1, hreach.plays, hreach.plays.requestsShowing_succ.symm,
      Nat.le_refl _, nofun, fun _ _ => rfl⟩

/-- A run shows the model the rounds that it plays. -/
structure Shows (a : Agent ω) (now : Time.Instant) (t : Transcript) (rs : List Round)
    (run : Run ω) : Prop where
  /-- The request with `k` before it shows the message of the system, the transcript at the start,
  and the messages of the first `k` rounds. -/
  messages : ∀ (k : Nat) q, run.requests[k]? = some q → k ≤ rs.length ∧
    q.messages = .plain now .system a.instructions ::
      (t.messages ++ Round.allMessages now (rs.take k))
  /-- A request shows what the one before it does, then the reply to that one, and then the answers
  to all calls of the reply. -/
  next : ∀ (k : Nat) q q', run.requests[k]? = some q → run.requests[k + 1]? = some q' →
    ∃ r t₁ w₁ w₂, rs[k]? = some r ∧ q = (a.ask now t₁ w₁).request ∧
      r.reply = (a.ask now t₁ w₁).reply.message now ∧
      a.toolbox.Observes (a.ask now t₁ w₁).world r.reply.calls r.observations w₂ ∧
      q'.messages = q.messages ++ r.messages now
  /-- The message of the system is never one of a round. -/
  system : ∀ m ∈ Round.allMessages now rs, m.role ≠ .system
  /-- The tools that are offered. -/
  tools : ∀ q ∈ run.requests, q.tools.map (·.name) = a.toolbox.names
  /-- A run that finishes has made a request in each round, and adds the rounds to the transcript
  and nothing else. -/
  finished : ∀ r, run.outcome = .finished r →
    r.transcript.messages = t.messages ++ Round.allMessages now rs ∧
      run.requests.length = r.rounds
  /-- A run that fails has made one request more. -/
  failed : ∀ e, run.outcome = .failed e → run.requests.length = rs.length + 1

/-- **What the model is shown.** Every run plays rounds and shows them to the model, and every
request offers the tools in the order of their names. -/
theorem requests_shown (hbuilt : a.toolbox.Built) (now : Time.Instant) (fuel : Nat)
    (t : Transcript) (w : ω) :
    (∃ rs t' w', a.Plays now t w rs t' w' ∧ a.Shows now t rs (a.run now fuel t w)) ∧
      a.toolbox.names.Pairwise (· < ·) := by
  obtain ⟨rs, t', w', n, hplays, hrequests, hn, hfinished, hfailed⟩ :=
    a.exists_plays_requests now fuel t w
  have hlength : (a.run now fuel t w).requests.length = n := by
    simp [hrequests, requestsShowing]
  refine ⟨⟨rs, t', w', hplays, ?_⟩, hbuilt.ascending⟩
  constructor
  case messages =>
    intro k q hq
    rw [hrequests] at hq
    obtain ⟨hk, rfl⟩ := getElem?_requestsShowing hq
    exact ⟨by omega, rfl⟩
  case next =>
    intro k q q' hq hq'
    rw [hrequests] at hq hq'
    obtain ⟨-, rfl⟩ := getElem?_requestsShowing hq
    obtain ⟨hk, rfl⟩ := getElem?_requestsShowing hq'
    have hlt : k < rs.length := by omega
    have hr : rs[k]? = some rs[k] := List.getElem?_eq_getElem hlt
    obtain ⟨w₁, w₂, hreply, ho⟩ := hplays.exists_of_getElem? hr
    refine ⟨_, _, w₁, w₂, hr, (request_ask a now _ w₁).symm, hreply, ho, ?_⟩
    rw [List.take_succ_eq_append_getElem hlt, Round.allMessages_append,
      Round.allMessages_singleton]
    simp [request]
  case system => exact hplays.role_ne_system
  case tools =>
    intro q hq
    rw [hrequests] at hq
    obtain ⟨k, -, rfl⟩ := List.mem_map.mp hq
    rw [request, Toolbox.signatures, List.map_map]
    rfl
  case finished =>
    intro r hr
    obtain ⟨rfl, hrounds, hlast⟩ := hfinished r hr
    refine ⟨?_, hlength.trans (hlast.trans hrounds.symm)⟩
    rw [hplays.transcript_eq, Transcript.messages_extend]
  case failed => exact fun e he => hlength.trans (hfailed e he)

/-- What a calculator shows the model when it is asked for one sum and then for two. -/
theorem requests_shown_sums :
    (calculator (some 2)).toolbox.Built ∧
    ∃ rs t' w', (calculator (some 2)).Plays .start (.ofHuman .start "2+2?")
        [sumAnswer ["x"], sumAnswer ["y", "y"]] rs t' w' ∧
      (calculator (some 2)).Shows .start (.ofHuman .start "2+2?") rs
        ((calculator (some 2)).run .start 3 (.ofHuman .start "2+2?")
          [sumAnswer ["x"], sumAnswer ["y", "y"]]) :=
  ⟨Toolbox.built_arithmetic,
    (requests_shown (a := calculator (some 2)) Toolbox.built_arithmetic .start 3 _ _).1⟩

end Agent

end Dialogue
