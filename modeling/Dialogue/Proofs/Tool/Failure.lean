import Dialogue.Tool.Arithmetic
import Dialogue.ToolServer.RemoteTool

/-!
# What tools fail with

There are two kinds of tools: functions of the argument object, and tools of servers. A call of
either fails in one of four ways: its name is unknown, its arguments do not fit, the tool fails, or
the server of the tool does not do its part. The last is left to tools of servers.

Main statement: `execute_failure`. What a server can make of a call is settled by `Always`, which
says of an exchange that its value has a property whatever the network answers.
-/

namespace Dialogue

namespace Http.Exchange

variable {α β ω : Type}

/-- Whatever is answered, the value at the end has a property. -/
inductive Always (p : α → Prop) : Exchange α → Prop where
  | done {a : α} : p a → Always p (.done a)
  | send {r : Request} {resume : Except Trouble Response → Exchange α} :
      (∀ answer, Always p (resume answer)) → Always p (.send r resume)

theorem Always.bind {p : α → Prop} {q : β → Prop} {e : Exchange α} {f : α → Exchange β}
    (h : e.Always p) (hf : ∀ a, p a → (f a).Always q) : (e.bind f).Always q := by
  induction h with
  | done ha => exact hf _ ha
  | send _ ih => exact .send ih

theorem Always.run {p : α → Prop} {e : Exchange α} (h : e.Always p) (net : Network ω) (w : ω) :
    p (e.run net w).1 := by
  induction h generalizing w with
  | done ha => exact ha
  | send _ ih => exact ih _ _

theorem always_true (e : Exchange α) : e.Always fun _ => True := by
  induction e with
  | done a => exact .done trivial
  | send r resume ih => exact .send ih

end Http.Exchange

/-! ## Servers -/

namespace ToolServer.Client

open Http (Exchange)

/-- What came of an exchange with a server is a value, or a failure of the server. -/
def BlamesServer {α : Type} (x : Except Failure α × Client) : Prop :=
  ∀ e, x.1 = .error e → ∃ detail, e = .toolServer detail

theorem blamesServer_failure {α : Type} (c c' : Client) (detail : String) :
    BlamesServer ((.error (c.failure detail), c') : Except Failure α × Client) := by
  intro e he
  cases he
  exact ⟨_, rfl⟩

/-- A value that is read further, where what cannot be read is a failure of the server. -/
theorem BlamesServer.bind {α β : Type} {x : Except Failure α × Client} {f : α → Except Failure β}
    (h : BlamesServer x) (hf : ∀ v e, f v = .error e → ∃ detail, e = .toolServer detail)
    (c : Client) : BlamesServer (x.1.bind f, c) := by
  intro e he
  rcases hx : x.1 with e' | v
  · rw [hx] at he
    cases he
    exact h e hx
  · rw [hx] at he
    exact hf v e he

theorem always_send (c : Client) (method : String) (message : Json) :
    (c.send method message).Always BlamesServer := by
  refine Exchange.Always.bind (Exchange.always_true _) ?_
  -- Nothing need be known of the network: no answer, a status that is not a success, or a body that
  -- cannot be read is a failure of the server, and every other answer is a value.
  rintro (fault | r) -
  · exact .done (blamesServer_failure c c _)
  · change Exchange.Always BlamesServer (if r.isSuccess then _ else _)
    split
    · split
      · exact .done fun e he => by cases he
      · exact .done (blamesServer_failure c (c.heed r) _)
    · exact .done (blamesServer_failure c c _)

theorem resultOf_failure {c : Client} {method : String} {id : Nat} {r : Http.Response}
    {e : Failure} (h : c.resultOf method id r = .error e) : ∃ detail, e = .toolServer detail := by
  unfold resultOf at h
  split at h
  · cases h
    exact ⟨_, rfl⟩
  · split at h
    · cases h
      exact ⟨_, rfl⟩
    · cases h

theorem always_request (c : Client) (method : String) (params : Json) :
    (c.request method params).Always BlamesServer := by
  unfold request
  refine Exchange.Always.bind (always_send _ _ _) ?_
  intro x hx
  exact .done (hx.bind (fun _ _ h => resultOf_failure h) x.2)

/-- What is not a result of a call is blamed on the server. -/
theorem decode_failure {c : Client} {v : Json} {e : Failure}
    (h : (CallResult.decode v).mapError
      (fun fault => c.failure ("invalid tools/call result: " ++ fault.message)) = .error e) :
    ∃ detail, e = .toolServer detail := by
  rcases hv : CallResult.decode v with fault | r
  · rw [hv] at h
    cases h
    exact ⟨_, rfl⟩
  · rw [hv] at h
    cases h

/-- A server that does not do its part in a call is blamed for it. -/
theorem always_call (c : Client) (tool : String) (arguments : Json) :
    (c.call tool arguments).Always BlamesServer := by
  unfold call
  refine Exchange.Always.bind (always_request _ _ _) ?_
  intro x hx
  exact .done (hx.bind (fun _ _ h => decode_failure h) x.2)

/-- Whatever the network answers to the client of a server, it is the server that is blamed. -/
theorem blamesServer_useClient {α ω : Type} (net : Http.Network ω) (server : String) (w : World ω)
    {f : Client → Exchange (Except Failure α × Client)} (hf : ∀ c, (f c).Always BlamesServer) :
    ∀ e, (w.useClient net server f).1 = .error e → ∃ detail, e = .toolServer detail :=
  (hf (w.clients server)).run net w.outside

end ToolServer.Client

/-! ## Tools -/

/-- The failures that come of a call. -/
inductive Failure.OfCall : Failure → Prop where
  | notFound (name : String) : OfCall (.toolNotFound name)
  | badArguments (detail : String) : OfCall (.badArguments detail)
  | failed (detail : String) : OfCall (.toolFailed detail)
  | server (detail : String) : OfCall (.toolServer detail)

namespace Tool

/-- A tool that is a function of the argument object. -/
inductive IsFunction {ω : Type} : Tool ω → Prop where
  | intro (s : Signature) (f : Members → Except String Json) : IsFunction (.ofFunction s f)

/-- A tool that a server defined. -/
inductive IsRemote : {ω : Type} → Tool ω → Prop where
  | intro {ω : Type} (net : Http.Network ω) (server : String) (d : ToolServer.Definition) :
      IsRemote (ToolServer.remoteTool net server d)

variable {ω : Type} {t : Tool ω} {c : Call} {w w' : ω} {e : Failure}

theorem IsFunction.run_failure (ht : t.IsFunction) (h : t.run c w = (.error e, w')) :
    ∃ detail, e = .toolFailed detail := by
  obtain ⟨s, f⟩ := ht
  simp only [ofFunction] at h
  split at h
  · cases h
  · cases h
    exact ⟨_, rfl⟩

theorem observe_failure {r : ToolServer.CallResult} {tool : String}
    (h : r.observe tool = .error e) : ∃ detail, e = .toolFailed detail := by
  unfold ToolServer.CallResult.observe at h
  split at h
  · cases h
    exact ⟨_, rfl⟩
  · cases h

theorem IsRemote.run_failure (ht : t.IsRemote) (h : t.run c w = (.error e, w')) :
    (∃ detail, e = .toolFailed detail) ∨ ∃ detail, e = .toolServer detail := by
  obtain ⟨net, server, d⟩ := ht
  have hblames := ToolServer.Client.blamesServer_useClient net server w fun client =>
    ToolServer.Client.always_call client c.name c.arguments
  simp only [ToolServer.remoteTool] at h
  rcases hcall : w.useClient net server fun client => client.call c.name c.arguments with
    ⟨e' | r, w''⟩
  · rw [hcall] at h hblames
    cases h
    exact .inr (hblames e rfl)
  · rw [hcall] at h
    exact .inl (observe_failure (congrArg Prod.fst h))

theorem check_failure (h : t.check c = .error e) : ∃ detail, e = .badArguments detail := by
  unfold check at h
  split at h
  · cases h
    exact ⟨_, rfl⟩
  · split at h
    · cases h
      exact ⟨_, rfl⟩
    · cases h

end Tool

/-- The arithmetic tools are functions. -/
theorem Arithmetic.isFunction {t : Tool ω} (h : t ∈ Arithmetic.toolbox.tools) : t.IsFunction := by
  simp only [Arithmetic.toolbox, List.mem_cons, List.not_mem_nil, or_false] at h
  rcases h with rfl | rfl | rfl
  · exact .intro _ Arithmetic.sum
  · exact .intro _ Arithmetic.quotient
  · exact .intro _ Arithmetic.product

/-- **What a call fails with.** The tool is not there, the arguments do not fit, the tool fails, or,
for a tool of a server, the server does not do its part. -/
theorem Toolbox.execute_failure {ω : Type} {b : Toolbox ω} {c : Call} {w w' : ω} {e : Failure}
    (htools : ∀ t ∈ b.tools, t.IsFunction ∨ t.IsRemote) (h : b.execute c w = (.error e, w')) :
    e.OfCall ∧ ∀ detail, e = .toolServer detail → ∃ t ∈ b.tools, t.IsRemote := by
  unfold execute at h
  split at h
  · cases h
    exact ⟨.notFound _, by simp⟩
  · next t ht =>
    have hmem : t ∈ b.tools := List.mem_of_find?_eq_some ht
    split at h
    · next hcheck =>
      cases h
      obtain ⟨detail, rfl⟩ := Tool.check_failure hcheck
      exact ⟨.badArguments _, by simp⟩
    · rcases htools t hmem with hfunction | hremote
      · obtain ⟨detail, rfl⟩ := hfunction.run_failure h
        exact ⟨.failed _, by simp⟩
      · refine ⟨?_, fun _ _ => ⟨t, hmem, hremote⟩⟩
        rcases hremote.run_failure h with ⟨detail, rfl⟩ | ⟨detail, rfl⟩
        · exact .failed _
        · exact .server _

end Dialogue
