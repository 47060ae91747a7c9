import Dialogue.Http.Exchange

/-!
# What exchanges send

An exchange is judged by what it sends and what is answered. `Passes` says that requests and
answers, one after another, lead an exchange to a value; the answers may be any, so what holds of
everything that passes holds against every network. `sent` is what an exchange sends against one
network.

Main statements: `passes_bind_iff` (what passes in one exchange after another), `passes_run` (what
is sent against a network passes, and leads to the value of the run) and `run_recorded` (a network
that keeps what is sent answers as it would otherwise).
-/

namespace Dialogue.Http

/-- A request that was sent, and what came of it. -/
structure Sent where
  request : Request
  answer : Except Trouble Response

/-- What it takes for a request to be made. -/
theorem makeRequest_eq_ok_iff {method : Method} {address : String} {headers : List Header}
    {body : Option Json} {r : Request} :
    makeRequest method address headers body = .ok r ↔
      ∃ url, Url.read? address = some url ∧ url.hasHost = true ∧
        (∀ h ∈ headers, h.isValid = true) ∧ url.withoutUser.isSendable = true ∧
        r = ⟨method, url.withoutUser, headers, body⟩ := by
  unfold makeRequest
  constructor
  · intro h
    split at h
    · cases h
    · next url hurl =>
      split at h
      · cases h
      · next hhost =>
        split at h
        · cases h
        · next hheaders =>
          split at h
          · cases h
          · next hsend =>
            cases h
            exact ⟨url, hurl, by simpa using hhost, by simpa using hheaders, by simpa using hsend,
              rfl⟩
  · rintro ⟨url, hurl, hhost, hheaders, hsend, rfl⟩
    have hvalid : headers.any (!·.isValid) = false := by simpa using hheaders
    simp only [hurl, hhost, hvalid, hsend, Bool.not_true, Bool.false_eq_true, if_false]

/-- The network that keeps a record of what is sent, in the order in which it is sent. -/
def Network.recorded {ω : Type} (net : Network ω) : Network (ω × List Sent) :=
  fun r w => ((net r w.1).1, (net r w.1).2, w.2 ++ [⟨r, (net r w.1).1⟩])

namespace Exchange

variable {α β ω : Type} {log : List Sent} {a : α} {b : β} {e : Exchange α}

/-- What an exchange sends against a network, and what is answered. -/
def sent (net : Network ω) : Exchange α → ω → List Sent
  | .done _, _ => []
  | .send r resume, w => ⟨r, (net r w).1⟩ :: (resume (net r w).1).sent net (net r w).2

/-- With these requests and answers, one after another, an exchange ends with a value. -/
inductive Passes : Exchange α → List Sent → α → Prop where
  | done (a : α) : Passes (.done a) [] a
  | send {r : Request} {resume : Except Trouble Response → Exchange α}
      {answer : Except Trouble Response} {log : List Sent} {a : α} :
      Passes (resume answer) log a → Passes (.send r resume) (⟨r, answer⟩ :: log) a

/-- Against every network, what is sent passes. -/
theorem passes_run (net : Network ω) (e : Exchange α) (w : ω) :
    e.Passes (e.sent net w) (e.run net w).1 := by
  induction e generalizing w with
  | done a => exact .done a
  | send r resume ih => exact .send (ih _ _)

/-- What is answered to a request is what the network answers to it. -/
theorem answer_of_mem_sent {net : Network ω} {w : ω} {s : Sent} (h : s ∈ e.sent net w) :
    ∃ w', s.answer = (net s.request w').1 := by
  induction e generalizing w with
  | done a => cases h
  | send r resume ih =>
    rcases List.mem_cons.mp h with rfl | h
    · exact ⟨w, rfl⟩
    · exact ih _ h

theorem run_of_sent_nil {net : Network ω} {w : ω} (h : e.sent net w = []) :
    (e.run net w).2 = w := by
  cases e with
  | done a => rfl
  | send r resume => cases h

/-- An exchange that sends one request leaves the world that the request leaves. -/
theorem run_of_sent_singleton {net : Network ω} {w : ω} {s : Sent} (h : e.sent net w = [s]) :
    (e.run net w).2 = (net s.request w).2 := by
  cases e with
  | done a => cases h
  | send r resume =>
    obtain ⟨rfl, hrest⟩ := List.cons.inj h
    exact run_of_sent_nil hrest

/-- The record of a run is what it sends, and nothing else comes of keeping it. -/
theorem run_recorded (net : Network ω) (e : Exchange α) (w : ω) (log : List Sent) :
    e.run net.recorded (w, log) =
      ((e.run net w).1, (e.run net w).2, log ++ e.sent net w) := by
  induction e generalizing w log with
  | done a => rw [run, run, sent, List.append_nil]
  | send r resume ih =>
    rw [run, sent, ← List.singleton_append, ← List.append_assoc]
    exact ih _ _ _

theorem passes_done_iff {a' : α} : (done a).Passes log a' ↔ log = [] ∧ a' = a := by
  constructor
  · rintro ⟨⟩
    exact ⟨rfl, rfl⟩
  · rintro ⟨rfl, rfl⟩
    exact .done _

theorem passes_done_pair_iff {a' : α} {b' : β} :
    (done (a, b)).Passes log (a', b') ↔ log = [] ∧ a' = a ∧ b' = b := by
  rw [passes_done_iff, Prod.mk.injEq]

/-- One exchange after another: what the first sends comes first. -/
theorem passes_bind_iff {f : α → Exchange β} :
    (e.bind f).Passes log b ↔
      ∃ l₁ l₂ a, log = l₁ ++ l₂ ∧ e.Passes l₁ a ∧ (f a).Passes l₂ b := by
  constructor
  · intro h
    induction e generalizing log with
    | done a => exact ⟨[], log, a, rfl, .done a, h⟩
    | send r resume ih =>
      obtain _ | h := h
      next answer log =>
      obtain ⟨l₁, l₂, a, rfl, h₁, h₂⟩ := ih answer h
      exact ⟨⟨r, answer⟩ :: l₁, l₂, a, rfl, .send h₁, h₂⟩
  · rintro ⟨l₁, l₂, a, rfl, h₁, h₂⟩
    induction h₁ with
    | done a => exact h₂
    | send _ ih => exact .send (ih h₂)

/-- A request that cannot be made is not sent; one that can is sent once. -/
theorem passes_ask_iff {method : Method} {address : String} {headers : List Header}
    {body : Option Json} {x : Except Fault Response} :
    (ask method address headers body).Passes log x ↔
      (∃ fault, makeRequest method address headers body = .error fault ∧ log = [] ∧
        x = .error fault) ∨
      ∃ r answer, makeRequest method address headers body = .ok r ∧ log = [⟨r, answer⟩] ∧
        x = answer.mapError (.trouble · r.url) := by
  unfold ask
  rcases makeRequest method address headers body with fault | r
  · refine passes_done_iff.trans ⟨fun h => .inl ⟨fault, rfl, h⟩, ?_⟩
    rintro (⟨_, ⟨⟩, h⟩ | ⟨_, _, ⟨⟩, -⟩)
    exact h
  · constructor
    · rintro (_ | h)
      next answer log =>
      obtain ⟨rfl, rfl⟩ := passes_done_iff.mp h
      exact .inr ⟨r, answer, rfl, rfl, rfl⟩
    · rintro (⟨fault, hfault, -⟩ | ⟨_, answer, ⟨⟩, rfl, rfl⟩)
      · cases hfault
      · exact .send (.done _)

end Exchange

end Dialogue.Http
