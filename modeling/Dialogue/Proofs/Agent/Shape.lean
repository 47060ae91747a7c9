import Dialogue.Proofs.Agent.Rehearsal

/-!
# The shape of a finished transcript

A run that comes to its end leaves the transcript it began with, followed by one block for each time
the model was asked. A block is a reply of the model and the answers to its calls, in their order.
Only the last block can be without calls: it is if the model has answered, and it is not if the
limit was reached.

Main statement: `blocks_of_finished`. The last block is a round that was reached
(`Reaches.exists_last`) or, if the model has answered, the reply after all of them
(`answered_blocks`).
-/

namespace Dialogue.Agent

variable {ω : Type} {a : Agent ω} {now : Time.Instant} {fuel : Nat} {t : Transcript} {w : ω}

/-- **The shape of a finished transcript.** The run has played rounds, as many as requests were
made, and left their messages after those it began with. Each round is a message of the model and an
answer to each of its calls. All rounds but the last have calls; the last has none exactly when the
model has answered, and has calls, all of them answered, exactly when the limit was reached. -/
theorem blocks_of_finished {r : Result} (h : (a.run now fuel t w).outcome = .finished r) :
    ∃ (rs : List Round) (last : Round),
      a.Plays now t w (rs ++ [last]) r.transcript (a.run now fuel t w).world ∧
      r.transcript.messages = t.messages ++ Round.allMessages now (rs ++ [last]) ∧
      r.rounds = rs.length + 1 ∧
      (∀ x ∈ rs ++ [last],
        x.reply.role = .model ∧ x.observations.length = x.reply.calls.length) ∧
      (∀ x ∈ rs, x.reply.calls ≠ []) ∧
      (r.ending = .answered ↔ last.reply.calls = []) ∧
      (r.ending = .answered → r.transcript.last? = some last.reply) ∧
      ((∃ limit, r.ending = .limitReached limit) ↔
        last.reply.calls ≠ [] ∧ last.observations.length = last.reply.calls.length) := by
  obtain ⟨rs, t', w', left, stop, -, hreach, hstop, hrun⟩ := a.exists_reaches_stops now fuel t w
  rw [hrun, Run.outcome_afterAll] at h
  rw [hrun, Run.world_afterAll]
  cases hstop with
  | unfinished => cases h
  | failed _ _ => cases h
  | limitReached hlimit hk =>
    -- The last round is one of those that were played.
    cases h
    have hne : rs ≠ [] := List.ne_nil_of_length_pos (by omega)
    obtain ⟨pre, last, rfl, hpre, hlast, hall⟩ := hreach.exists_last hne
    have hplays := hreach.plays
    refine ⟨pre, last, hplays, by rw [hplays.transcript_eq, Transcript.messages_extend], by simp,
      fun x hx => ⟨hplays.role_reply x hx, hplays.length_observations x hx⟩, hpre,
      by simp [hlast], by simp, ?_⟩
    exact ⟨fun _ => ⟨hlast, hall⟩, fun _ => ⟨_, rfl⟩⟩
  | answered hk hcalls =>
    -- The last round is the reply without calls.
    cases h
    have hplays := answered_blocks hreach hcalls
    have hmessages := congrArg Transcript.messages hplays.transcript_eq
    refine ⟨rs, ⟨a.replyTo now t' w', []⟩, hplays, hmessages, rfl,
      fun x hx => ⟨hplays.role_reply x hx, hplays.length_observations x hx⟩, hreach.calls,
      by simp [hcalls], fun _ => Transcript.last?_push _ _, ?_⟩
    simp [hcalls]

/-- What is left of a run that may ask twice, of a model that asks for one sum and then for two. -/
def sumResult : Result where
  transcript := ⟨[.plain .start .human "2+2?",
    (Completion.withCalls "" [sumCall "x"]).toMessage .start,
    (sumCall "x").answer .start ⟨"add", "4", some (.ofInt 4)⟩,
    (Completion.withCalls "" [sumCall "y", sumCall "y"]).toMessage .start,
    (sumCall "y").answer .start ⟨"add", "4", some (.ofInt 4)⟩,
    (sumCall "y").answer .start ⟨"add", "4", some (.ofInt 4)⟩]⟩
  ending := .limitReached 2
  rounds := 2

/-- Two calls of one id make a block with two answers. -/
theorem blocks_of_sums :
    ((calculator (some 2)).run .start 3 (.ofHuman .start "2+2?")
        [sumAnswer ["x"], sumAnswer ["y", "y"]]).outcome = .finished sumResult ∧
      ∃ (rs : List Round) (last : Round),
        sumResult.transcript.messages =
          (Transcript.ofHuman .start "2+2?").messages ++
            Round.allMessages .start (rs ++ [last]) ∧
        sumResult.rounds = rs.length + 1 ∧ (∀ x ∈ rs, x.reply.calls ≠ []) ∧
        last.reply.calls ≠ [] ∧ last.observations.length = last.reply.calls.length := by
  have hrun : ((calculator (some 2)).run .start 3 (.ofHuman .start "2+2?")
      [sumAnswer ["x"], sumAnswer ["y", "y"]]).outcome = .finished sumResult := rfl
  obtain ⟨rs, last, -, hmessages, hrounds, -, hcalls, -, -, hlimit⟩ := blocks_of_finished hrun
  exact ⟨hrun, rs, last, hmessages, hrounds, hcalls, hlimit.mp ⟨2, rfl⟩⟩

end Dialogue.Agent
