import Dialogue.Agent.Basic

/-!
# Calls one after another

What it is for the calls of a message to run from left to right, said without the function that
runs them. `Observes` threads the world through calls that all succeed; `Breaks` says that one of
the calls fails after those before it have succeeded, and that the calls after it are not run.

Main statements: `runCalls_eq_ok_iff` and `runCalls_eq_error_iff` (running calls gives messages
exactly when all of them succeed, and a failure exactly when that is the failure of the first call
that fails), and `observes_or_breaks` (there is no third way).
-/

namespace Dialogue

/-- The message that answers a call. -/
def Call.answer (now : Time.Instant) (c : Call) (o : Observation) : Message where
  role := .tool
  content := o.output
  calls := []
  callId := some c.id
  data := o.data
  timestamp := now
  metadata := none

namespace Toolbox

variable {ω : Type} {b : Toolbox ω} {now : Time.Instant}

/-- Calls run one after another from a world to a world, and each gives an observation. -/
inductive Observes (b : Toolbox ω) : ω → List Call → List Observation → ω → Prop where
  | nil {w : ω} : Observes b w [] [] w
  | cons {w w₁ w₂ : ω} {c : Call} {o : Observation} {cs : List Call} {os : List Observation} :
      b.execute c w = (.ok o, w₁) → Observes b w₁ cs os w₂ →
      Observes b w (c :: cs) (o :: os) w₂

/-- One of the calls fails with `e`; those before it have run and those after it do not. -/
def Breaks (b : Toolbox ω) (w : ω) (cs : List Call) (e : Failure) (w' : ω) : Prop :=
  ∃ pre c post os w₁, cs = pre ++ c :: post ∧ b.Observes w pre os w₁ ∧
    b.execute c w₁ = (.error e, w')

/-- There is one observation for each call. -/
theorem Observes.length_eq {w w' : ω} {cs : List Call} {os : List Observation}
    (h : b.Observes w cs os w') : os.length = cs.length := by
  induction h with
  | nil => rfl
  | cons _ _ ih => rw [List.length_cons, List.length_cons, ih]

/-- A failing call in front breaks the calls. -/
theorem Breaks.head {w w' : ω} {c : Call} {cs : List Call} {e : Failure}
    (h : b.execute c w = (.error e, w')) : b.Breaks w (c :: cs) e w' :=
  ⟨[], c, cs, [], w, rfl, .nil, h⟩

/-- A failure among calls stays one when a call that succeeds comes before them. -/
theorem Breaks.cons {w w₁ w' : ω} {c : Call} {o : Observation} {cs : List Call} {e : Failure}
    (hc : b.execute c w = (.ok o, w₁)) (h : b.Breaks w₁ cs e w') :
    b.Breaks w (c :: cs) e w' := by
  obtain ⟨pre, d, post, os, w₂, rfl, hpre, hd⟩ := h
  exact ⟨c :: pre, d, post, o :: os, w₂, rfl, .cons hc hpre, hd⟩

/-- Calls of which one fails are not none. -/
theorem Breaks.ne_nil {w w' : ω} {cs : List Call} {e : Failure} (h : b.Breaks w cs e w') :
    cs ≠ [] := by
  obtain ⟨pre, c, post, -, -, rfl, -, -⟩ := h
  simp

/-! ## Running them -/

@[simp]
theorem runCalls_nil (w : ω) : b.runCalls now [] w = (.ok [], w) :=
  rfl

theorem runCalls_cons_ok {w w₁ : ω} {c : Call} {o : Observation} (cs : List Call)
    (h : b.execute c w = (.ok o, w₁)) :
    b.runCalls now (c :: cs) w =
      ((b.runCalls now cs w₁).1.map (c.answer now o :: ·), (b.runCalls now cs w₁).2) := by
  simp only [runCalls, h]
  rcases b.runCalls now cs w₁ with ⟨e | ms, w₂⟩ <;> rfl

theorem runCalls_cons_error {w w₁ : ω} {c : Call} {e : Failure} (cs : List Call)
    (h : b.execute c w = (.error e, w₁)) : b.runCalls now (c :: cs) w = (.error e, w₁) := by
  rw [runCalls, h]

/-- Calls that all succeed give the messages that answer them. -/
theorem Observes.runCalls {w w' : ω} {cs : List Call} {os : List Observation}
    (h : b.Observes w cs os w') :
    b.runCalls now cs w = (.ok (List.zipWith (Call.answer now) cs os), w') := by
  induction h with
  | nil => exact runCalls_nil _
  | cons hc _ ih =>
    rw [runCalls_cons_ok _ hc, ih]
    rfl

/-- Calls of which one fails give its failure, in the world that it leaves. -/
theorem Breaks.runCalls {w w' : ω} {cs : List Call} {e : Failure} (h : b.Breaks w cs e w') :
    b.runCalls now cs w = (.error e, w') := by
  obtain ⟨pre, c, post, os, w₁, rfl, hpre, hc⟩ := h
  -- The induction is on the calls that succeed before the one that fails.
  induction hpre with
  | nil => exact runCalls_cons_error post hc
  | cons hd _ ih =>
    rw [List.cons_append, runCalls_cons_ok _ hd, ih hc]
    rfl

/-- Either all calls succeed or one of them is the first to fail. -/
theorem observes_or_breaks (b : Toolbox ω) (w : ω) (cs : List Call) :
    (∃ os w', b.Observes w cs os w') ∨ ∃ e w', b.Breaks w cs e w' := by
  induction cs generalizing w with
  | nil => exact .inl ⟨[], w, .nil⟩
  | cons c cs ih =>
    rcases hc : b.execute c w with ⟨e | o, w₁⟩
    · exact .inr ⟨e, w₁, .head hc⟩
    · rcases ih w₁ with ⟨os, w', h⟩ | ⟨e, w', h⟩
      · exact .inl ⟨o :: os, w', .cons hc h⟩
      · exact .inr ⟨e, w', .cons hc h⟩

/-- **Success.** Running calls gives messages exactly when all calls succeed; they answer the calls
in order. -/
theorem runCalls_eq_ok_iff {w w' : ω} {cs : List Call} {ms : List Message} :
    b.runCalls now cs w = (.ok ms, w') ↔
      ∃ os, b.Observes w cs os w' ∧ ms = List.zipWith (Call.answer now) cs os := by
  constructor
  · intro h
    rcases b.observes_or_breaks w cs with ⟨os, w₁, ho⟩ | ⟨e, w₁, hb⟩
    · rw [ho.runCalls] at h
      obtain ⟨rfl, rfl⟩ : List.zipWith (Call.answer now) cs os = ms ∧ w₁ = w' := by simpa using h
      exact ⟨os, ho, rfl⟩
    · rw [hb.runCalls] at h
      simp at h
  · rintro ⟨os, ho, rfl⟩
    exact ho.runCalls

/-- **Failure.** Running calls fails exactly when a call fails, with the failure of the first call
that does. -/
theorem runCalls_eq_error_iff {w w' : ω} {cs : List Call} {e : Failure} :
    b.runCalls now cs w = (.error e, w') ↔ b.Breaks w cs e w' := by
  constructor
  · intro h
    rcases b.observes_or_breaks w cs with ⟨os, w₁, ho⟩ | ⟨e', w₁, hb⟩
    · rw [ho.runCalls] at h
      simp at h
    · rw [hb.runCalls] at h
      obtain ⟨rfl, rfl⟩ : e' = e ∧ w₁ = w' := by simpa using h
      exact hb
  · exact fun h => h.runCalls

/-- Pending calls are run like any others. -/
theorem runPending_of_ne_nil {t : Transcript} (w : ω) (h : t.pendingCalls ≠ []) :
    b.runPending now t w = b.runCalls now t.pendingCalls w := by
  rw [runPending, if_neg]
  simpa using h

end Toolbox

end Dialogue
