import Dialogue.Agent.Basic

/-!
# Asking the model

An answer of a backend either fails an agent or serves it. `Answer.Fails` names the failure: the one
that the backend gives, or the one that stands for an answer that came too late; `Answer.Serves`
names the completion of an answer in time.

Main statements: `replyTo_of_fails` and `replyTo_of_serves` (the message that the agent makes of
either), and `role_replyTo` (it is a message of the model).
-/

namespace Dialogue

namespace Answer

/-- An answer comes later than the agent waits. -/
def Late (x : Answer) (patience : Option Time.Span) : Prop :=
  ∃ span, patience = some span ∧ span.ticks < x.delay

/-- The backend fails with `e`, or `e` says that it does not answer in time. -/
inductive Fails (x : Answer) (patience : Option Time.Span) : Failure → Prop where
  | late {span : Time.Span} : patience = some span → span.ticks < x.delay →
      Fails x patience (.backendUnavailable ("no response within " ++ span.render))
  | failed {e : Failure} : ¬ x.Late patience → x.result = .error e → Fails x patience e

/-- The backend answers with `c`, and in time. -/
def Serves (x : Answer) (patience : Option Time.Span) (c : Completion) : Prop :=
  ¬ x.Late patience ∧ x.result = .ok c

theorem fails_or_serves (x : Answer) (patience : Option Time.Span) :
    (∃ e, x.Fails patience e) ∨ ∃ c, x.Serves patience c := by
  by_cases hlate : x.Late patience
  · obtain ⟨span, hspan, hlt⟩ := hlate
    exact .inl ⟨_, .late hspan hlt⟩
  · rcases hx : x.result with e | c
    · exact .inl ⟨e, .failed hlate hx⟩
    · exact .inr ⟨c, hlate, hx⟩

theorem exceeded?_eq_none {x : Answer} {patience : Option Time.Span} (h : ¬ x.Late patience) :
    exceeded? patience x.delay = none := by
  rw [exceeded?, Option.filter_eq_none_iff]
  intro span hspan hlt
  exact h ⟨span, hspan, of_decide_eq_true hlt⟩

theorem exceeded?_eq_some {x : Answer} {patience : Option Time.Span} {span : Time.Span}
    (hspan : patience = some span) (hlt : span.ticks < x.delay) :
    exceeded? patience x.delay = some span := by
  rw [exceeded?, hspan, Option.filter_some, if_pos (decide_eq_true hlt)]

end Answer

namespace Agent

variable {ω : Type} {a : Agent ω} {now : Time.Instant} {t : Transcript} {w : ω}

/-- What the backend answers when the model is asked. -/
def answerTo (a : Agent ω) (now : Time.Instant) (t : Transcript) (w : ω) : Answer :=
  (a.backend.complete (a.request now t) w).1

/-- The message that comes of asking the model. -/
def replyTo (a : Agent ω) (now : Time.Instant) (t : Transcript) (w : ω) : Message :=
  (a.ask now t w).reply.message now

theorem ask_of_late {span : Time.Span} (hspan : a.patience = some span)
    (hlt : span.ticks < (a.answerTo now t w).delay) :
    a.ask now t w =
      ⟨a.request now t,
        .degraded (Failure.backendUnavailable ("no response within " ++ span.render)).message,
        span.ticks, (a.backend.complete (a.request now t) w).2⟩ := by
  have hexceeded := Answer.exceeded?_eq_some hspan hlt
  rw [answerTo] at hexceeded
  simp only [ask, hexceeded]

theorem ask_of_not_late (h : ¬ (a.answerTo now t w).Late a.patience) :
    a.ask now t w =
      ⟨a.request now t, .ofResult now (a.answerTo now t w).result, (a.answerTo now t w).delay,
        (a.backend.complete (a.request now t) w).2⟩ := by
  have hexceeded := Answer.exceeded?_eq_none h
  rw [answerTo] at hexceeded
  simp only [ask, hexceeded, answerTo]

/-- Asking sends one request, whatever comes of it. -/
@[simp]
theorem request_ask (a : Agent ω) (now : Time.Instant) (t : Transcript) (w : ω) :
    (a.ask now t w).request = a.request now t := by
  by_cases h : (a.answerTo now t w).Late a.patience
  · obtain ⟨span, hspan, hlt⟩ := h
    rw [ask_of_late hspan hlt]
  · rw [ask_of_not_late h]

/-- The world changes as the backend changes it. -/
theorem world_ask (a : Agent ω) (now : Time.Instant) (t : Transcript) (w : ω) :
    (a.ask now t w).world = (a.backend.complete (a.request now t) w).2 := by
  by_cases h : (a.answerTo now t w).Late a.patience
  · obtain ⟨span, hspan, hlt⟩ := h
    rw [ask_of_late hspan hlt]
  · rw [ask_of_not_late h]

/-- A backend that fails is answered for by the degraded message. -/
theorem replyTo_of_fails {e : Failure} (h : (a.answerTo now t w).Fails a.patience e) :
    a.replyTo now t w = degradedMessage now e.message := by
  cases h with
  | late hspan hlt =>
    rw [replyTo, ask_of_late hspan hlt]
    rfl
  | failed hintime he =>
    rw [replyTo, ask_of_not_late hintime, he]
    rfl

/-- A completion in time becomes the message. -/
theorem replyTo_of_serves {c : Completion} (h : (a.answerTo now t w).Serves a.patience c) :
    a.replyTo now t w = c.toMessage now := by
  rw [replyTo, ask_of_not_late h.1, h.2]
  rfl

/-- Whatever comes of asking the model, it is a message of the model. -/
@[simp]
theorem role_replyTo (a : Agent ω) (now : Time.Instant) (t : Transcript) (w : ω) :
    (a.replyTo now t w).role = .model := by
  rcases (a.answerTo now t w).fails_or_serves a.patience with ⟨e, h⟩ | ⟨c, h⟩
  · rw [replyTo_of_fails h, role_degradedMessage]
  · rw [replyTo_of_serves h, Completion.role_toMessage]

/-- The model asks for calls exactly when the backend answers in time with a completion that does.
-/
theorem calls_replyTo_ne_nil_iff :
    (a.replyTo now t w).calls ≠ [] ↔
      ∃ c, (a.answerTo now t w).Serves a.patience c ∧ c.calls ≠ [] := by
  constructor
  · intro hcalls
    rcases (a.answerTo now t w).fails_or_serves a.patience with ⟨e, h⟩ | ⟨c, h⟩
    · rw [replyTo_of_fails h] at hcalls
      exact absurd rfl hcalls
    · rw [replyTo_of_serves h] at hcalls
      exact ⟨c, h, hcalls⟩
  · rintro ⟨c, h, hcalls⟩
    rw [replyTo_of_serves h]
    exact hcalls

end Agent

end Dialogue
