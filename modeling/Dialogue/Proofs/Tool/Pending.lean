import Dialogue.Proofs.Tool.Calls
import Dialogue.Proofs.Tool.Refusal

/-!
# Pending calls

What becomes of the calls that the last message of a transcript asks for. To see which of them a
tool is run for, a toolbox can be `watched`: its tools do what they always do, and write down each
call that they are run for.

Main statement: `runPending_watched`. It rests on `Observes.watched` and `BreaksAt.watched`, which
say of calls one after another which of them are written down.
-/

namespace Dialogue

variable {ω : Type}

/-! ## What waits -/

theorem Message.pendingCalls_eq_nil_iff {m : Message} :
    m.pendingCalls = [] ↔ m.role ≠ .model ∨ m.calls = [] := by
  unfold pendingCalls
  split
  · next hrole => simp [hrole]
  · next hrole => simp [hrole]

theorem Transcript.pendingCalls_of_last? {t : Transcript} {m : Message} (h : t.last? = some m)
    (hrole : m.role = .model) : t.pendingCalls = m.calls := by
  rw [pendingCalls, h]
  exact if_pos hrole

/-- A run is over where no calls wait. -/
theorem Step.afterModel_eq_finish_iff {t : Transcript} :
    Step.afterModel t = .finish ↔ t.pendingCalls = [] := by
  rw [afterModel, ← List.isEmpty_iff]
  split <;> simp [*]

/-- No calls wait unless the last message is one of the model and has calls. -/
theorem Transcript.pendingCalls_eq_nil_iff {t : Transcript} :
    t.pendingCalls = [] ↔
      t.last? = none ∨ ∃ m, t.last? = some m ∧ (m.role ≠ .model ∨ m.calls = []) := by
  rw [pendingCalls]
  cases t.last? with
  | none => simp
  | some m => simpa using Message.pendingCalls_eq_nil_iff

/-! ## Which calls reach a tool -/

/-- A tool that writes down the calls that it is run for. -/
def Tool.watched (t : Tool ω) : Tool (ω × List Call) where
  signature := t.signature
  run c w := ((t.run c w.1).1, (t.run c w.1).2, w.2 ++ [c])

namespace Toolbox

variable {b : Toolbox ω} {now : Time.Instant} {w w' : ω} {c : Call} {cs : List Call}
  {os : List Observation} {e : Failure}

/-- A toolbox whose tools write down the calls that they are run for. -/
def watched (b : Toolbox ω) : Toolbox (ω × List Call) :=
  ⟨b.tools.map Tool.watched⟩

theorem signatures_watched (b : Toolbox ω) : b.watched.signatures = b.signatures :=
  List.map_map

/-- A call that is refused is not written down. -/
theorem Refuses.execute_watched (h : b.Refuses c e) (w : ω) (reached : List Call) :
    b.watched.execute c (w, reached) = (.error e, w, reached) :=
  (h.of_signatures b.signatures_watched).execute (w, reached)

/-- A call that is not refused is written down, and gives what it always gives. -/
theorem execute_watched (h : ∀ e, ¬ b.Refuses c e) (w : ω) (reached : List Call) :
    b.watched.execute c (w, reached) =
      ((b.execute c w).1, (b.execute c w).2, reached ++ [c]) := by
  obtain ⟨t, hget, hcheck, hrun⟩ := (b.refuses_or_runs c).resolve_left fun ⟨e, he⟩ => h e he
  have hwatched : b.watched.get? c.name = some t.watched := by
    rw [get?, watched, List.find?_map]
    exact congrArg (Option.map Tool.watched) hget
  have hcheck' : t.watched.check c = .ok () := (Tool.check_of_signature rfl c).trans hcheck
  simp only [execute, hwatched, hcheck', hget, hcheck]
  rfl

/-- A call that succeeds is not refused. -/
theorem not_refuses_of_ok {o : Observation} (h : b.execute c w = (.ok o, w')) (e : Failure) :
    ¬ b.Refuses c e := by
  intro hrefuses
  rw [hrefuses.execute w] at h
  cases h

/-- Calls that all succeed are all written down, in order. -/
theorem Observes.watched (h : b.Observes w cs os w') (reached : List Call) :
    b.watched.Observes (w, reached) cs os (w', reached ++ cs) := by
  induction h generalizing reached with
  | nil =>
    rw [List.append_nil]
    exact .nil
  | @cons w w₁ w₂ c o cs os hc _ ih =>
    have hexecute := execute_watched (not_refuses_of_ok hc) w reached
    rw [hc] at hexecute
    rw [List.append_cons]
    exact .cons hexecute (ih _)

/-- One of the calls fails with `e`, and these calls are run up to it: those before it, and the
failing one itself unless it is refused. -/
def BreaksAt (b : Toolbox ω) (w : ω) (cs : List Call) (e : Failure) (w' : ω)
    (reached : List Call) : Prop :=
  ∃ pre c post os w₁, cs = pre ++ c :: post ∧ b.Observes w pre os w₁ ∧
    b.execute c w₁ = (.error e, w') ∧
    (b.Refuses c e ∧ reached = pre ∨ (∀ e, ¬ b.Refuses c e) ∧ reached = pre ++ [c])

theorem Breaks.exists_breaksAt (h : b.Breaks w cs e w') :
    ∃ reached, b.BreaksAt w cs e w' reached := by
  obtain ⟨pre, c, post, os, w₁, hcs, hpre, hc⟩ := h
  by_cases hrefused : ∃ e', b.Refuses c e'
  · obtain ⟨e', hrefuses⟩ := hrefused
    obtain rfl : e' = e := by
      rw [hrefuses.execute w₁] at hc
      exact Except.error.inj (Prod.mk.inj hc).1
    exact ⟨pre, pre, c, post, os, w₁, hcs, hpre, hc, .inl ⟨hrefuses, rfl⟩⟩
  · exact ⟨pre ++ [c], pre, c, post, os, w₁, hcs, hpre, hc,
      .inr ⟨not_exists.mp hrefused, rfl⟩⟩

/-- No call after the first that fails is written down. -/
theorem BreaksAt.watched {reached : List Call} (h : b.BreaksAt w cs e w' reached)
    (before : List Call) :
    b.watched.Breaks (w, before) cs e (w', before ++ reached) := by
  obtain ⟨pre, c, post, os, w₁, hcs, hpre, hc, hreached⟩ := h
  refine ⟨pre, c, post, os, _, hcs, hpre.watched before, ?_⟩
  rcases hreached with ⟨hrefuses, rfl⟩ | ⟨hruns, rfl⟩
  · rw [hrefuses.execute w₁] at hc
    obtain ⟨-, rfl⟩ := Prod.mk.inj hc
    exact hrefuses.execute_watched w₁ _
  · rw [execute_watched hruns, hc, List.append_assoc]

/-! ## Running them -/

theorem runCalls_watched_eq_ok_iff {ms : List Message} {reached : List Call} :
    b.watched.runCalls now cs (w, []) = (.ok ms, w', reached) ↔
      ∃ os, b.Observes w cs os w' ∧ ms = List.zipWith (Call.answer now) cs os ∧ reached = cs := by
  constructor
  · intro h
    rcases b.observes_or_breaks w cs with ⟨os, w₁, hobserves⟩ | ⟨e, w₁, hbreaks⟩
    · rw [(hobserves.watched []).runCalls] at h
      cases h
      exact ⟨os, hobserves, rfl, rfl⟩
    · obtain ⟨reached', hat⟩ := hbreaks.exists_breaksAt
      rw [(hat.watched []).runCalls] at h
      cases h
  · rintro ⟨os, hobserves, rfl, rfl⟩
    exact (hobserves.watched []).runCalls

theorem runCalls_watched_eq_error_iff {reached : List Call} :
    b.watched.runCalls now cs (w, []) = (.error e, w', reached) ↔
      b.BreaksAt w cs e w' reached := by
  constructor
  · intro h
    rcases b.observes_or_breaks w cs with ⟨os, w₁, hobserves⟩ | ⟨e', w₁, hbreaks⟩
    · rw [(hobserves.watched []).runCalls] at h
      cases h
    · obtain ⟨reached', hat⟩ := hbreaks.exists_breaksAt
      rw [(hat.watched []).runCalls] at h
      cases h
      exact hat
  · exact fun h => (h.watched []).runCalls

/-- Watching the tools changes nothing in what comes of calls. -/
theorem runCalls_watched (b : Toolbox ω) (now : Time.Instant) (cs : List Call) (w : ω) :
    b.runCalls now cs w = ((b.watched.runCalls now cs (w, [])).1,
      (b.watched.runCalls now cs (w, [])).2.1) := by
  rcases b.observes_or_breaks w cs with ⟨os, w', hobserves⟩ | ⟨e, w', hbreaks⟩
  · rw [hobserves.runCalls, (hobserves.watched []).runCalls]
  · obtain ⟨reached, hat⟩ := hbreaks.exists_breaksAt
    rw [hbreaks.runCalls, (hat.watched []).runCalls]

/-- Functions and tools of servers do not fail for want of calls. -/
theorem ne_noPendingCalls (htools : ∀ t ∈ b.tools, t.IsFunction ∨ t.IsRemote)
    (h : b.Breaks w cs e w') : e ≠ .noPendingCalls := by
  obtain ⟨-, c, -, -, w₁, -, -, hc⟩ := h
  rintro rfl
  cases (execute_failure htools hc).1

/-- **Pending calls.** Without calls that wait, which is where a run is over, the tools are not run
and the step fails for want of calls; with functions and tools of servers it fails so in no other
case. Otherwise the calls are run from left to right. If all succeed there is one message for each
of them, in order, with its id and its observation. If one fails, the first that does ends the step
with its failure, no message is given, and no call after it reaches a tool; nor does the failing
call itself if it is refused. -/
theorem runPending_watched (b : Toolbox ω) (now : Time.Instant) (t : Transcript) (w : ω) :
    let step := b.watched.runPending now t (w, [])
    b.runPending now t w = (step.1, step.2.1) ∧
    (Step.afterModel t = .finish ↔
      t.last? = none ∨ ∃ m, t.last? = some m ∧ (m.role ≠ .model ∨ m.calls = [])) ∧
    (Step.afterModel t = .finish → step = (.error .noPendingCalls, w, [])) ∧
    ((∀ x ∈ b.tools, x.IsFunction ∨ x.IsRemote) →
      (step.1 = .error .noPendingCalls ↔ Step.afterModel t = .finish)) ∧
    ∀ m, t.last? = some m → m.role = .model → m.calls ≠ [] →
      (∀ ms w' reached, step = (.ok ms, w', reached) ↔
        ∃ os, b.Observes w m.calls os w' ∧ ms = List.zipWith (Call.answer now) m.calls os ∧
          ms.length = m.calls.length ∧ reached = m.calls) ∧
      ∀ e w' reached, step = (.error e, w', reached) ↔
        ∃ pre c post os w₁, m.calls = pre ++ c :: post ∧ b.Observes w pre os w₁ ∧
          b.execute c w₁ = (.error e, w') ∧
          (b.Refuses c e ∧ reached = pre ∨ (∀ e, ¬ b.Refuses c e) ∧ reached = pre ++ [c]) := by
  intro step
  have hnone (hnil : t.pendingCalls = []) : step = (.error .noPendingCalls, w, []) :=
    if_pos (List.isEmpty_iff.mpr hnil)
  have hsome (hne : t.pendingCalls ≠ []) :
      step = b.watched.runCalls now t.pendingCalls (w, []) :=
    runPending_of_ne_nil (w, []) hne
  refine ⟨?_, Step.afterModel_eq_finish_iff.trans Transcript.pendingCalls_eq_nil_iff,
    fun hfinish => hnone (Step.afterModel_eq_finish_iff.mp hfinish), fun htools => ?_,
    fun m hlast hrole hcalls => ?_⟩
  · by_cases hnil : t.pendingCalls = []
    · rw [hnone hnil]
      exact if_pos (List.isEmpty_iff.mpr hnil)
    · rw [hsome hnil, runPending_of_ne_nil w hnil, runCalls_watched]
  · rw [Step.afterModel_eq_finish_iff]
    refine ⟨fun herror => ?_, fun hnil => by rw [hnone hnil]⟩
    refine Classical.byContradiction fun hne => ?_
    rw [hsome hne] at herror
    obtain ⟨pre, c, post, os, w₁, hcs, hpre, hc, -⟩ :=
      runCalls_watched_eq_error_iff.mp (Prod.ext herror rfl)
    exact ne_noPendingCalls htools ⟨pre, c, post, os, w₁, hcs, hpre, hc⟩ rfl
  · have hpending := Transcript.pendingCalls_of_last? hlast hrole
    rw [hsome (hpending ▸ hcalls), hpending]
    refine ⟨fun ms w' reached => runCalls_watched_eq_ok_iff.trans ?_,
      fun e w' reached => runCalls_watched_eq_error_iff⟩
    refine exists_congr fun os => and_congr_right fun hobserves => and_congr_right fun hms => ?_
    have hlength : ms.length = m.calls.length := by
      rw [hms, List.length_zipWith, hobserves.length_eq, Nat.min_self]
    exact ⟨fun h => ⟨hlength, h⟩, And.right⟩

/-- Of three calls the second one divides by zero: it is run, and the third is not. -/
theorem runPending_watched_division :
    let b : Toolbox Unit := Arithmetic.toolbox
    let sum : Call := ⟨"x", "add", .obj [("a", .ofInt 1), ("b", .ofInt 2)]⟩
    let division : Call := ⟨"x", "divide", .obj [("a", .ofInt 1), ("b", .ofInt 0)]⟩
    let m : Message := { Message.plain .start .model "" with calls := [sum, division, sum] }
    let t := (Transcript.ofHuman .start "1/0?").push m
    (∀ x ∈ b.tools, x.IsFunction ∨ x.IsRemote) ∧
    t.last? = some m ∧ m.role = .model ∧ m.calls ≠ [] ∧
    Step.afterModel t ≠ .finish ∧
    b.watched.runPending .start t ((), []) =
      (.error (.toolFailed "divide: division by zero"), (), [sum, division]) := by
  intro b sum division m t
  have htools : ∀ x ∈ b.tools, x.IsFunction ∨ x.IsRemote :=
    fun x hx => .inl (Arithmetic.isFunction hx)
  have hlast : t.last? = some m := Transcript.last?_push _ m
  have hcalls : m.calls ≠ [] := List.cons_ne_nil _ _
  have hsum : b.execute sum () = (.ok ⟨"add", "3", some (.ofInt 3)⟩, ()) := rfl
  have hdivision : b.execute division () =
      (.error (.toolFailed "divide: division by zero"), ()) := rfl
  have hruns (e : Failure) : ¬ b.Refuses division e := by
    intro hrefuses
    have hexecute := hrefuses.execute ()
    rw [hdivision] at hexecute
    cases hexecute
    cases hrefuses with
    | unfit _ hcheck => cases (Tool.check_failure hcheck).choose_spec
  obtain ⟨-, -, -, hfinish, hstep⟩ := runPending_watched b .start t ()
  obtain ⟨-, hbreaks⟩ := hstep m hlast rfl hcalls
  have herror := (hbreaks _ () [sum, division]).mpr
    ⟨[sum], division, [sum], _, (), rfl, .cons hsum .nil, hdivision, .inr ⟨hruns, rfl⟩⟩
  refine ⟨htools, hlast, rfl, hcalls, fun hover => ?_, herror⟩
  rw [← hfinish htools, herror] at hover
  cases hover

end Toolbox

end Dialogue
