import Dialogue.Proofs.Agent.Rehearsal
import Dialogue.Proofs.Tool.Failure

/-!
# How runs fail

A run fails by its tools and by nothing else. A failing call ends the run with the failure of that
call; a failing backend ends it with a message of the model that tells of the failure.

Main statement: `failed_or_degraded`. Its parts are `failed_iff` (a run fails exactly where a call
does), `failure_ofCall` (so the failure is one of a call) and `run_of_fails` (a backend that fails
is answered for, and is not asked again).
-/

namespace Dialogue.Agent

variable {ω : Type} {a : Agent ω} {now : Time.Instant} {fuel : Nat} {t t' : Transcript} {w w' : ω}
  {rs : List Round} {e : Failure}

/-! ## Tools -/

/-- A run fails exactly if a call fails in a round that it comes to. -/
theorem failed_iff :
    (a.run now fuel t w).outcome = .failed e ↔
      ∃ rs, rs.length < fuel ∧ a.BreaksAfter now t w rs e := by
  constructor
  · intro h
    obtain ⟨rs, t', w', left, stop, hlen, hreach, hstop, hrun⟩ :=
      a.exists_reaches_stops now fuel t w
    rw [hrun, Run.outcome_afterAll] at h
    cases hstop with
    | unfinished => cases h
    | limitReached _ _ => cases h
    | answered _ _ => cases h
    | failed hk hbreaks =>
      cases h
      exact ⟨rs, by omega, t', w', _, hreach, hk, hbreaks⟩
  · rintro ⟨rs, hfuel, h⟩
    obtain ⟨t', w'', hrun⟩ := h.run_eq hfuel
    rw [hrun]

/-- What a run fails with comes of a call. -/
theorem failure_ofCall (htools : ∀ x ∈ a.toolbox.tools, x.IsFunction ∨ x.IsRemote)
    (h : (a.run now fuel t w).outcome = .failed e) :
    e.OfCall ∧ ∀ detail, e = .toolServer detail → ∃ x ∈ a.toolbox.tools, x.IsRemote := by
  obtain ⟨rs, -, t', w', w'', -, -, pre, c, post, os, w₁, -, -, hc⟩ := failed_iff.mp h
  exact Toolbox.execute_failure htools hc

/-! ## The backend -/

/-- A run in which the backend fails ends with a message that shows the start of the failure. -/
theorem run_of_fails (h : a.Reaches now t w rs t' w') (hk : a.Allows rs.length)
    (hfails : (a.answerTo now t' w').Fails a.patience e) (hfuel : rs.length < fuel) :
    a.run now fuel t w =
      ⟨.finished ⟨t'.push (degradedMessage now e.message), .answered, rs.length + 1⟩,
        a.requestsIn now t rs ++ [a.request now t'], (a.ask now t' w').world⟩ := by
  obtain ⟨left, rfl⟩ := Nat.exists_eq_add_of_lt hfuel
  have hreply := replyTo_of_fails hfails
  have hstop : a.Stops now rs.length t' w' (left + 1) _ :=
    .answered hk (by rw [hreply, calls_degradedMessage])
  have hrun := h.run_of_stops hstop
  rw [hreply] at hrun
  exact hrun

/-- **How runs fail.** A run fails exactly if a call fails in a round that it comes to, with the
failure of the first call that does, and the model is not asked afterwards. If the tools are
functions and tools of servers, the failure is one of a call. Every request is made where the run
has come to; if the backend fails there or is late, the run ends well with a message of the model
that shows the first 50 characters of the failure, and the model is not asked afterwards either. -/
theorem failed_or_degraded (a : Agent ω) (now : Time.Instant) (fuel : Nat) (t : Transcript)
    (w : ω) :
    (∀ e, (a.run now fuel t w).outcome = .failed e ↔
      ∃ rs, rs.length < fuel ∧ a.BreaksAfter now t w rs e) ∧
    (∀ rs e, rs.length < fuel → a.BreaksAfter now t w rs e →
      (a.run now fuel t w).requests.length = rs.length + 1) ∧
    ((∀ x ∈ a.toolbox.tools, x.IsFunction ∨ x.IsRemote) →
      ∀ e, (a.run now fuel t w).outcome = .failed e →
        e.OfCall ∧ ∀ detail, e = .toolServer detail → ∃ x ∈ a.toolbox.tools, x.IsRemote) ∧
    ∀ k q, (a.run now fuel t w).requests[k]? = some q →
      ∃ rs t' w', rs.length = k ∧ a.Reaches now t w rs t' w' ∧ q = a.request now t' ∧
        ∀ e, (a.answerTo now t' w').Fails a.patience e →
          ∃ m : Message,
            (a.run now fuel t w).outcome = .finished ⟨t'.push m, .answered, k + 1⟩ ∧
            (a.run now fuel t w).requests.length = k + 1 ∧
            m.role = .model ∧ m.calls = [] ∧ m.metadata = none ∧
            m.content = "I received your message but had trouble processing it. Error: " ++
              String.ofList (e.message.toList.take 50) ++ "..." := by
  refine ⟨fun e => failed_iff, fun rs e hfuel h => ?_, fun htools e h => failure_ofCall htools h,
    fun k q hq => ?_⟩
  · obtain ⟨t', w'', hrun⟩ := h.run_eq hfuel
    rw [hrun, List.length_append, length_requestsIn, List.length_singleton]
  · obtain ⟨hfuel, rs, t', w', rfl, hreach, hk, rfl⟩ := exists_reaches_of_getElem? hq
    refine ⟨rs, t', w', rfl, hreach, rfl, ?_⟩
    intro e hfails
    rw [run_of_fails hreach hk hfails hfuel]
    exact ⟨degradedMessage now e.message, rfl, by simp, rfl, rfl, rfl, rfl⟩

/-- A sum, and a division by zero. -/
def zeroAnswer : Answer :=
  ⟨.ok (.withCalls ""
    [sumCall "x", ⟨"z", "divide", .obj [("a", .ofInt 1), ("b", .ofInt 0)]⟩]), 0⟩

/-- A backend that is away. -/
def awayAnswer : Answer :=
  ⟨.error (.backendUnavailable "away"), 0⟩

/-- A division by zero after a sum fails, and so does the run; a backend that is away does not. -/
theorem failed_or_degraded_division :
    (∀ x ∈ (calculator none).toolbox.tools, x.IsFunction ∨ x.IsRemote) ∧
    (calculator none).BreaksAfter .start (.ofHuman .start "1/0?") [zeroAnswer] []
      (.toolFailed "divide: division by zero") ∧
    ((calculator none).run .start 1 (.ofHuman .start "1/0?") [zeroAnswer]).outcome =
      .failed (.toolFailed "divide: division by zero") ∧
    (Failure.toolFailed "divide: division by zero").OfCall ∧
    ((calculator none).answerTo .start (.ofHuman .start "1/0?") [awayAnswer]).Fails none
      (.backendUnavailable "away") ∧
    ∃ m : Message,
      ((calculator none).run .start 1 (.ofHuman .start "1/0?") [awayAnswer]).outcome =
        .finished ⟨(Transcript.ofHuman .start "1/0?").push m, .answered, 1⟩ := by
  have htools : ∀ x ∈ (calculator none).toolbox.tools, x.IsFunction ∨ x.IsRemote :=
    fun x hx => .inl (Arithmetic.isFunction hx)
  have hallows : (calculator none).Allows 0 := nofun
  have hsum : (calculator none).toolbox.execute (sumCall "x") [] =
      (.ok ⟨"add", "4", some (.ofInt 4)⟩, []) := rfl
  have hbreaks : (calculator none).BreaksAfter .start (.ofHuman .start "1/0?") [zeroAnswer] []
      (.toolFailed "divide: division by zero") :=
    ⟨_, _, [], .nil, hallows, [sumCall "x"], _, [], _, [], rfl, .cons hsum .nil, rfl⟩
  have hfails : ((calculator none).answerTo .start (.ofHuman .start "1/0?") [awayAnswer]).Fails
      none (.backendUnavailable "away") := by
    refine .failed ?_ rfl
    rintro ⟨span, hspan, -⟩
    cases hspan
  obtain ⟨hfailed, -, hcall, -⟩ :=
    failed_or_degraded (calculator none) .start 1 (.ofHuman .start "1/0?") [zeroAnswer]
  have hrun := (hfailed _).mpr ⟨[], Nat.zero_lt_one, hbreaks⟩
  obtain ⟨-, -, -, hrequests⟩ :=
    failed_or_degraded (calculator none) .start 1 (.ofHuman .start "1/0?") [awayAnswer]
  obtain ⟨rs, t', w', hlen, hreach, -, hdegraded⟩ := hrequests 0 _ rfl
  obtain rfl : rs = [] := List.length_eq_zero_iff.mp hlen
  obtain ⟨rfl, rfl⟩ := hreach.plays.of_nil
  obtain ⟨m, hm, -⟩ := hdegraded _ hfails
  exact ⟨htools, hbreaks, hrun, (hcall htools _ hrun).1, hfails, m, hm⟩

end Dialogue.Agent
