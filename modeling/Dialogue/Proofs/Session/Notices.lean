import Dialogue.Proofs.Agent.Assembly
import Dialogue.Proofs.Agent.Interrupted
import Dialogue.Proofs.Agent.Shown
import Dialogue.Proofs.Session.Turns
import Std.Data.String.ToNat

/-!
# Notices

A turn that the limit has stopped writes a notice below its messages. The notice tells how often the
model was asked, and a run reports its limit there; the two agree because no agent has a limit of
zero, under which the model would still be asked once. `Exhausts` says what the notice says, in
terms of the rounds of the run.

Main statement: `notices_of_assemble`. Its parts are `finished_limitReached_iff` (the limit stops
exactly the runs that have asked the model as often as it says and got calls every time) and
`output_run` (a session writes what its turns write, and nothing of it twice).
-/

namespace Dialogue

/-! ## Runs that the limit stops -/

namespace Agent

variable {ω : Type} {a : Agent ω} {now : Time.Instant} {fuel n : Nat} {t t' : Transcript} {w w' : ω}
  {rs : List Round} {i : Interrupt}

/-- A run succeeds with so many requests, and the reply to every one of them asks for calls. -/
def Exhausts (a : Agent ω) (now : Time.Instant) (t : Transcript) (w : ω) (n : Nat) (run : Run ω) :
    Prop :=
  run.requests.length = n ∧
    ∃ r rs, run.outcome = .finished r ∧ a.Plays now t w rs r.transcript run.world ∧
      run.requests = a.requestsIn now t rs ∧ ∀ x ∈ rs, x.reply.calls ≠ []

/-- After a round with calls, the last message is one of a tool. -/
theorem Plays.role_last (h : a.Plays now t w rs t' w') (hne : rs ≠ [])
    (hcalls : ∀ x ∈ rs, x.reply.calls ≠ []) : ∃ m, t'.last? = some m ∧ m.role = .tool := by
  cases h with
  | nil => exact absurd rfl hne
  | @snoc rs r t₁ w₁ w₂ hplays hr ho =>
    have hlength : r.observations.length = r.reply.calls.length :=
      (hplays.snoc hr ho).length_observations r (by simp)
    have hanswers : List.zipWith (Call.answer now) r.reply.calls r.observations ≠ [] := by
      rw [Ne, List.zipWith_eq_nil_iff, not_or]
      refine ⟨hcalls r (by simp), fun hnone => hcalls r (by simp) ?_⟩
      rw [← List.length_eq_zero_iff, ← hlength, hnone, List.length_nil]
    refine ⟨List.getLast _ hanswers, ?_, Call.role_of_mem_answers (List.getLast_mem hanswers)⟩
    rw [Transcript.last?, Transcript.messages_extend, Round.messages,
      List.getLast?_append_of_ne_nil _ (List.cons_ne_nil _ _),
      List.getLast?_cons_of_ne_nil hanswers, List.getLast?_eq_some_getLast hanswers]

/-- A run with a limit above zero is stopped by it exactly if it has asked the model as often as the
limit says and would still go on. -/
theorem finished_limitReached_iff (hlimit : a.limit ≠ some 0) :
    (∃ r, (a.run now fuel t w).outcome = .finished r ∧ r.ending = .limitReached n) ↔
      a.limit = some n ∧ a.Exhausts now t w n (a.run now fuel t w) := by
  obtain ⟨rs, t', w', left, stop, rfl, hreach, hstop, hrun⟩ := a.exists_reaches_stops now fuel t w
  rw [hrun]
  constructor
  · rintro ⟨r, hr, hending⟩
    cases hstop with
    | unfinished => cases hr
    | failed _ _ => cases hr
    | answered _ _ =>
      cases hr
      cases hending
    | @limitReached left limit hsome hle =>
      obtain rfl := Outcome.finished.inj hr
      obtain rfl : limit = n := Ending.limitReached.inj hending
      have hpos : limit ≠ 0 := fun hzero => hlimit (hzero ▸ hsome)
      have hlt : rs.length - 1 < max 1 limit :=
        hreach.allowed (rs.length - 1) (by omega) limit hsome
      have hlength : rs.length = limit := by omega
      refine ⟨hsome, ?_, _, rs, rfl, hreach.plays, List.append_nil _, hreach.calls⟩
      rw [Run.requests_afterAll, List.append_nil, length_requestsIn, hlength]
  · rintro ⟨hsome, hlength, r, rs', hr, hplays, hrequests, hcalls⟩
    cases hstop with
    | unfinished => cases hr
    | failed _ _ => cases hr
    | limitReached hsome' _ =>
      obtain rfl := Option.some.inj (hsome.symm.trans hsome')
      exact ⟨_, rfl, rfl⟩
    | answered _ hanswer =>
      -- The last message is an answer of the model, so the last of the rounds is without calls.
      obtain rfl := Outcome.finished.inj hr
      have hne : rs' ≠ [] := by
        rintro rfl
        rw [hrequests, length_requestsIn, List.length_nil] at hlength
        exact hlimit (hlength ▸ hsome)
      obtain ⟨m, hlast, hrole⟩ := hplays.role_last hne hcalls
      rw [Transcript.last?_push, Option.some.injEq] at hlast
      rw [← hlast, role_replyTo] at hrole
      cases hrole

/-- Without a limit, no run is stopped by one. -/
theorem not_limitReached_of_none (hlimit : a.limit = none) {r : Result}
    (hr : (a.run now fuel t w).outcome = .finished r) : r.ending ≠ .limitReached n := by
  intro hending
  have hne : a.limit ≠ some 0 := hlimit ▸ nofun
  obtain ⟨hsome, -⟩ := (finished_limitReached_iff hne).mp ⟨r, hr, hending⟩
  cases hlimit.symm.trans hsome

/-- A run that is not cancelled is the run without an interrupt. -/
theorem runUnder_eq_run (h : (a.runUnder now fuel i t w).outcome ≠ .cancelled) :
    a.runUnder now fuel i t w = a.run now fuel t w := by
  rcases a.runUnder_cases now fuel i t w with
    ⟨-, hrun⟩ | ⟨-, rs, ms, t', w', left, -, -, ⟨stop, -, -, hunder, hrun⟩ | ⟨-, -, hrun, -⟩⟩
  · rw [hrun] at h
    exact absurd rfl h
  · rw [hunder, hrun]
  · rw [hrun] at h
    exact absurd rfl h

end Agent

/-! ## What turns write -/

/-- The notice of a limit tells which one. -/
theorem limitNotice_inj {m n : Nat} : limitNotice m = limitNotice n ↔ m = n := by
  calc limitNotice m = limitNotice n ↔ "[stopped after " ++ toString m =
        "[stopped after " ++ toString n := String.append_left_inj _
    _ ↔ toString m = toString n := String.append_right_inj _
    _ ↔ m = n := Nat.repr_inj

theorem limitNotice_ne_empty (n : Nat) : limitNotice n ≠ "" := by
  intro h
  obtain ⟨-, hend⟩ := String.append_eq_empty_iff.mp h
  exact absurd hend (by decide)

namespace Outcome

/-- What is written of an outcome before the notice of its ending. -/
def body (format : Format) : Outcome → String
  | .finished r => String.join (r.transcript.messages.map format.write)
  | .failed e => "Error: " ++ e.notice ++ "\n"
  | .cancelled => "\n[cancelled]\n"
  | .unfinished => ""

/-- The notice of the ending of an outcome. -/
def notice : Outcome → String
  | .finished r => r.ending.notice
  | _ => ""

theorem write_eq (format : Format) (outcome : Outcome) :
    outcome.write format = outcome.body format ++ outcome.notice := by
  cases outcome <;> simp [write, body, notice]

theorem notice_eq_limitNotice_iff {outcome : Outcome} {n : Nat} :
    outcome.notice = limitNotice n ↔
      ∃ r, outcome = .finished r ∧ r.ending = .limitReached n := by
  have hempty : "" ≠ limitNotice n := fun h => limitNotice_ne_empty n h.symm
  cases outcome with
  | finished r =>
    simp only [notice, finished.injEq, exists_eq_left']
    rcases r.ending with _ | m
    · simp [Ending.notice, hempty]
    · simp [Ending.notice, limitNotice_inj]
  | _ => simp [notice, hempty]

end Outcome

namespace Session

variable {ω : Type} {a : Agent ω} {format : Format} {now : Time.Instant} {fuel : Nat}
  {schedule : Schedule} {isOpen : Bool} {wait : Nat} {w : ω} {lines : List Line} {s : Session ω}

/-- What a session writes, from the runs of its turns: each of them below a prompt, and a prompt for
the line that does not make a turn. -/
def written (format : Format) (status : Status) (runs : List (Run ω)) : String :=
  String.join (runs.map fun run => prompt ++ run.outcome.write format) ++
    if status = .unfinished then "" else prompt

theorem Stops.output_eq (format : Format) (h : Stops a now fuel schedule isOpen wait w lines s) :
    s.output = written format s.status s.turns := by
  cases h with
  | unfinished _ _ _ _ hout => simp [written, hout, Outcome.write]
  | _ => simp [written, stop]

theorem Stops.exists_turn (h : Stops a now fuel schedule isOpen wait w lines s) {run : Run ω}
    (hrun : run ∈ s.turns) : ∃ turn : Turn ω, run = turn.run a now fuel := by
  cases h with
  | @unfinished turn => exact ⟨turn, List.mem_singleton.mp hrun⟩
  | _ => cases hrun

/-- A session writes what its turns write, each below a prompt. -/
theorem output_run (a : Agent ω) (format : Format) (now : Time.Instant) (fuel : Nat)
    (schedule : Schedule) (input : Input) (w : ω) :
    let session := run a format now fuel schedule input w
    session.output = written format session.status session.turns ∧
      ∀ run ∈ session.turns, ∃ turn : Turn ω, run = turn.run a now fuel := by
  intro session
  obtain ⟨turns, rest, w', s, -, -, hstop, hrun⟩ :=
    exists_follow_stops a format now fuel schedule input.isOpen 0 input.lines w
  have hsession : session = s.afterAll format (turns.map (·.run a now fuel)) := hrun
  rw [hsession]
  constructor
  · simp [afterAll, hstop.output_eq format, written, String.join_append, String.append_assoc]
  · intro run hmem
    rcases List.mem_append.mp hmem with hturn | hlast
    · obtain ⟨turn, -, heq⟩ := List.mem_map.mp hturn
      exact ⟨turn, heq.symm⟩
    · exact hstop.exists_turn hlast

end Session

/-- The notice of a turn that is not cancelled, under a limit that is not zero. -/
theorem Turn.notice_eq_limitNotice_iff {ω : Type} {a : Agent ω} (hlimit : a.limit ≠ some 0)
    {now : Time.Instant} {fuel n : Nat} {turn : Turn ω}
    (h : (turn.run a now fuel).outcome ≠ .cancelled) :
    (turn.run a now fuel).outcome.notice = limitNotice n ↔
      a.limit = some n ∧
        a.Exhausts now (.ofHuman now turn.line) turn.world n (turn.run a now fuel) := by
  have hrun : turn.run a now fuel = a.run now fuel (.ofHuman now turn.line) turn.world :=
    Agent.runUnder_eq_run h
  rw [hrun, Outcome.notice_eq_limitNotice_iff, Agent.finished_limitReached_iff hlimit]

/-- Without a limit there is no notice. -/
theorem Turn.notice_of_none {ω : Type} {a : Agent ω} (hlimit : a.limit = none)
    (now : Time.Instant) (fuel : Nat) (turn : Turn ω) :
    (turn.run a now fuel).outcome.notice = "" := by
  by_cases hcancelled : (turn.run a now fuel).outcome = .cancelled
  · rw [hcancelled]
    rfl
  · have hrun : turn.run a now fuel = a.run now fuel (.ofHuman now turn.line) turn.world :=
      Agent.runUnder_eq_run hcancelled
    rw [hrun]
    rcases hout : (a.run now fuel (.ofHuman now turn.line) turn.world).outcome with r | e | _ | _
    · rcases hending : r.ending with _ | n
      · simp only [Outcome.notice, hending, Ending.notice]
      · exact absurd hending (Agent.not_limitReached_of_none hlimit hout)
    all_goals rfl

namespace Session

variable {ω : Type}

/-- **The notice tells the truth.** Whatever the variables and the options say, the agent has no
limit or one above zero: zero in either place is no limit, the option comes before the variable, and
without both the limit is the default one. In every session of that agent, a turn that is not
cancelled ends with the notice of a limit exactly if that is the limit of the agent and the turn
succeeded with as many requests, to each of which the model replied with calls. -/
theorem notices_of_assemble {entries : List (String × String)} {settings : Settings}
    (hsettings : Settings.ofVariables entries = .ok settings) {options : Program.Options}
    {backend : Backend ω} {remote : List (Tool ω)} {a : Agent ω}
    (hagent : Agent.assemble settings backend remote options.overrides = .ok a) :
    (a.limit ≠ some 0 ∧
      (∀ n, options.limit = some n → a.limit = if n = 0 then none else some n) ∧
      (options.limit = none →
        (∀ v, (Variables.ofList entries).value? "AGENT_MAX_ITERATIONS" = some v →
          ∃ n, readCount v.toList = some n ∧ a.limit = if n = 0 then none else some n) ∧
        ((Variables.ofList entries).value? "AGENT_MAX_ITERATIONS" = none →
          a.limit = some defaultLimit))) ∧
    ∀ (format : Format) (now : Time.Instant) (fuel : Nat) (schedule : Schedule) (input : Input)
      (w : ω),
      let session := run a format now fuel schedule input w
      session.output = written format session.status session.turns ∧
      ∀ run ∈ session.turns, ∃ turn : Turn ω, run = turn.run a now fuel ∧
        run.outcome.write format = run.outcome.body format ++ run.outcome.notice ∧
        (run.outcome ≠ .cancelled → ∀ n,
          run.outcome.notice =
              "[stopped after " ++ toString n ++ " model calls without a final answer]\n" ↔
            a.limit = some n ∧
              a.Exhausts now (.ofHuman now turn.line) turn.world n run) ∧
        (a.limit = none → run.outcome.notice = "") := by
  have hne : a.limit ≠ some 0 := Agent.limit_ne_zero_of_assemble hsettings hagent
  have hlimit := Agent.limit_of_assemble hagent
  obtain ⟨hset, hunset⟩ := Settings.limit_of_read hsettings
  refine ⟨⟨hne, fun n hn => ?_, fun hnone => ⟨fun v hv => ?_, fun hv => ?_⟩⟩, ?_⟩
  · rw [hlimit, Program.Options.overrides, hn]
    rfl
  · obtain ⟨n, hread, hn⟩ := hset v hv
    refine ⟨n, hread, ?_⟩
    rw [hlimit, Program.Options.overrides, hnone]
    exact hn
  · rw [hlimit, Program.Options.overrides, hnone]
    exact hunset hv
  · intro format now fuel schedule input w session
    obtain ⟨houtput, hturns⟩ := output_run a format now fuel schedule input w
    refine ⟨houtput, fun run hrun => ?_⟩
    obtain ⟨turn, rfl⟩ := hturns run hrun
    exact ⟨turn, rfl, Outcome.write_eq format _, fun h n => turn.notice_eq_limitNotice_iff hne h,
      fun hnone => turn.notice_of_none hnone now fuel⟩

/-- A calculator is set to seven requests and started with two: it stops after two sums, and says
so.
-/
theorem notices_of_assemble_sums :
    let entries := [("ENVIRONMENT", "test"), ("AZURE_OPENAI_ENDPOINT", "https://host"),
      ("AZURE_OPENAI_DEPLOYMENT", "gpt"), ("AZURE_OPENAI_API_VERSION", "v1"),
      ("agent_max_iterations", " 7 ")]
    let settings : Settings :=
      ⟨"test", false, ⟨"https://host", "gpt", "v1", none, none⟩, [], some 7, none, none⟩
    let options : Program.Options := ⟨false, some 2, false⟩
    let a := Agent.calculator (some 2)
    let session := run a .text .start 3 .never ⟨[.text "2+2?"], false⟩
      [Agent.sumAnswer ["x"], Agent.sumAnswer ["y"], Agent.sumAnswer ["z"]]
    Settings.ofVariables entries = .ok settings ∧
      Agent.assemble settings Script.backend [] options.overrides = .ok a ∧
      ∃ (run : Run Script) (turn : Turn Script), session.turns = [run] ∧
        run.outcome.notice = limitNotice 2 ∧
        a.Exhausts .start (.ofHuman .start turn.line) turn.world 2 run := by
  intro entries settings options a session
  have hentries : Variables.ofList entries = [("agent_max_iterations", " 7 "),
      ("azure_openai_api_version", "v1"), ("azure_openai_deployment", "gpt"),
      ("azure_openai_endpoint", "https://host"), ("environment", "test")] := by
    decide +kernel
  have hsettings : Settings.ofVariables entries = .ok settings := by
    calc Settings.ofVariables entries = Settings.read _ := congrArg Settings.read hentries
      _ = .ok settings := by decide +kernel
  have hagent : Agent.assemble settings Script.backend [] options.overrides = .ok a := rfl
  obtain ⟨run, hrun⟩ : ∃ run, session.turns = [run] := ⟨_, rfl⟩
  obtain ⟨-, hturns⟩ := (notices_of_assemble hsettings hagent).2 .text .start 3 .never
    ⟨[.text "2+2?"], false⟩ [Agent.sumAnswer ["x"], Agent.sumAnswer ["y"], Agent.sumAnswer ["z"]]
  obtain ⟨turn, -, -, hiff, -⟩ := hturns run (hrun ▸ List.mem_singleton_self run)
  have hnotice : run.outcome.notice = limitNotice 2 := by
    obtain rfl := List.singleton_inj.mp hrun
    rfl
  have hcancelled : run.outcome ≠ .cancelled := fun h =>
    limitNotice_ne_empty 2 (hnotice.symm.trans (congrArg Outcome.notice h))
  exact ⟨hsettings, hagent, run, turn, hrun, hnotice,
    ((hiff hcancelled 2).mp hnotice).2⟩

end Session

end Dialogue
