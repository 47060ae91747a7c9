import Dialogue.Proofs.Http.Exchange

/-!
# Networks of hosts

A network in which every address is a host of its own: it answers by its own state, and keeps the
requests that it has received. An exchange that sends to one address depends on the host there and
on no other, and changes no other.

Main statements: `run_congr` (what such an exchange depends on) and `received_run` (what the host
has received afterwards). With them, `Remains` says that what is left of an exchange comes to what
the exchange comes to when no other is under way; `Remains.own` and `Remains.other` keep it, whoever
sends next.
-/

namespace Dialogue.Http

/-- A server as a network has it. -/
structure Host (σ : Type) where
  state : σ
  /-- The requests that it has received. -/
  received : List Request

/-- The network of hosts that answer in this way. -/
def Network.ofHosts {σ : Type} (answer : Url → Request → σ → Except Trouble Response × σ) :
    Network (Url → Host σ) :=
  fun r hosts =>
    let (x, state) := answer r.url r (hosts r.url).state
    (x, fun url => if url = r.url then ⟨state, (hosts url).received ++ [r]⟩ else hosts url)

namespace Exchange

variable {α σ : Type} {p : Request → Prop} {n : Nat} {r : Request}
  {resume : Except Trouble Response → Exchange α} {e : Exchange α}

/-- Every request that an exchange sends has a property, whatever is answered. -/
def Sends (p : Request → Prop) (e : Exchange α) : Prop :=
  ∀ log a, e.Passes log a → ∀ s ∈ log, p s.request

/-- An exchange sends no more requests than a number, whatever is answered. -/
def AtMost (n : Nat) (e : Exchange α) : Prop :=
  ∀ log a, e.Passes log a → log.length ≤ n

theorem exists_passes (e : Exchange α) : ∃ log a, e.Passes log a :=
  ⟨_, _, passes_run Network.offline e ()⟩

theorem Sends.head (h : (send r resume).Sends p) : p r := by
  obtain ⟨log, a, hpasses⟩ := (resume (.error .unreachable)).exists_passes
  exact h _ a (.send hpasses) ⟨r, _⟩ (List.mem_cons_self ..)

theorem Sends.tail (h : (send r resume).Sends p) (answer : Except Trouble Response) :
    (resume answer).Sends p :=
  fun _ a hpasses s hs => h _ a (.send hpasses) s (List.mem_cons_of_mem _ hs)

theorem AtMost.tail (h : (send r resume).AtMost (n + 1)) (answer : Except Trouble Response) :
    (resume answer).AtMost n :=
  fun _ a hpasses => Nat.le_of_succ_le_succ (h _ a (.send hpasses))

theorem atMost_done (a : α) (n : Nat) : (done a).AtMost n := by
  intro log b h
  obtain ⟨rfl, -⟩ := passes_done_iff.mp h
  exact Nat.zero_le n

/-- An exchange that sends nothing has come to its end. -/
theorem AtMost.exists_eq_done (h : e.AtMost 0) : ∃ a, e = .done a := by
  cases e with
  | done a => exact ⟨a, rfl⟩
  | send r resume =>
    obtain ⟨log, a, hpasses⟩ := (resume (.error .unreachable)).exists_passes
    exact absurd (h _ a (.send hpasses)) (Nat.not_succ_le_zero _)

section

variable (answer : Url → Request → σ → Except Trouble Response × σ) {hosts hosts' : Url → Host σ}
  {url : Url}

/-- A request reaches no other host. -/
theorem ofHosts_of_ne (h : url ≠ r.url) : (Network.ofHosts answer r hosts).2 url = hosts url :=
  if_neg h

/-- The answer to a request depends on the host that is asked, and so does what becomes of it. -/
theorem ofHosts_congr (h : hosts r.url = hosts' r.url) :
    (Network.ofHosts answer r hosts).1 = (Network.ofHosts answer r hosts').1 ∧
      (Network.ofHosts answer r hosts).2 r.url = (Network.ofHosts answer r hosts').2 r.url := by
  simp only [Network.ofHosts, h, if_true, and_self]

/-- **One host.** What an exchange with one host comes to depends on nothing else. -/
theorem run_congr (he : e.Sends (·.url = url)) (h : hosts url = hosts' url) :
    (e.run (Network.ofHosts answer) hosts).1 = (e.run (Network.ofHosts answer) hosts').1 ∧
      (e.run (Network.ofHosts answer) hosts).2 url =
        (e.run (Network.ofHosts answer) hosts').2 url := by
  induction e generalizing hosts hosts' with
  | done a => exact ⟨rfl, h⟩
  | send r resume ih =>
    obtain rfl : r.url = url := he.head
    obtain ⟨hanswer, hhost⟩ := ofHosts_congr answer h
    rw [run, run, hanswer]
    exact ih _ (he.tail _) hhost

/-- What a host has received after an exchange with it. -/
theorem received_run (he : e.Sends (·.url = url)) :
    ((e.run (Network.ofHosts answer) hosts).2 url).received =
      (hosts url).received ++ (e.sent (Network.ofHosts answer) hosts).map (·.request) := by
  induction e generalizing hosts with
  | done a => exact (List.append_nil _).symm
  | send r resume ih =>
    obtain rfl : r.url = url := he.head
    have hreceived : ((Network.ofHosts answer r hosts).2 r.url).received =
        (hosts r.url).received ++ [r] := by
      simp only [Network.ofHosts, if_true]
    rw [run, ih _ (he.tail _), hreceived, sent, List.map_cons, List.append_assoc]
    rfl

end

/-! ## Among other exchanges -/

/-- What is left of an exchange with a host, when other hosts may have been sent to: it comes to
what the exchange comes to alone, and leaves the host so. Without an address, nothing is sent. -/
structure Remains (answer : Url → Request → σ → Except Trouble Response × σ) (start : Url → Host σ)
    (address : Option Url) (whole rest : Exchange α) (hosts : Url → Host σ) : Prop where
  sends : rest.Sends fun r => address = some r.url
  value : (rest.run (.ofHosts answer) hosts).1 = (whole.run (.ofHosts answer) start).1
  host : ∀ url, address = some url →
    (rest.run (.ofHosts answer) hosts).2 url = (whole.run (.ofHosts answer) start).2 url

section

variable {answer : Url → Request → σ → Except Trouble Response × σ}
  {start hosts hosts' : Url → Host σ}
  {address : Option Url} {whole rest : Exchange α} {url : Url}

/-- At the start, all of the exchange is left. -/
theorem remains_self (h : whole.Sends fun r => address = some r.url) :
    Remains answer start address whole whole start :=
  ⟨h, rfl, fun _ _ => rfl⟩

/-- The host answers. -/
theorem Remains.own (h : Remains answer start address whole (send r resume) hosts) :
    Remains answer start address whole (resume (Network.ofHosts answer r hosts).1)
      (Network.ofHosts answer r hosts).2 :=
  ⟨h.sends.tail _, h.value, h.host⟩

/-- What is left sends to the host and nowhere else. -/
theorem Remains.sends_url (h : Remains answer start address whole rest hosts)
    (hurl : address = some url) : rest.Sends (·.url = url) :=
  fun log a hpasses q hq => (Option.some.inj (hurl.symm.trans (h.sends log a hpasses q hq))).symm

/-- Other hosts change; this makes no difference. -/
theorem Remains.other (h : Remains answer start address whole rest hosts)
    (hhosts : ∀ url, address = some url → hosts url = hosts' url) :
    Remains answer start address whole rest hosts' := by
  rcases haddress : address with _ | url
  · -- There is nowhere to send to, so what is left has ended.
    cases rest with
    | done a => exact ⟨haddress ▸ h.sends, h.value, nofun⟩
    | send r resume => cases haddress.symm.trans h.sends.head
  · obtain ⟨hvalue, hhost⟩ := run_congr answer (h.sends_url haddress) (hhosts url haddress)
    refine ⟨haddress ▸ h.sends, hvalue.symm.trans h.value, ?_⟩
    rintro _ ⟨⟩
    exact hhost.symm.trans (h.host url haddress)

/-- The host has received no more than it receives alone. -/
theorem Remains.received_prefix (h : Remains answer start address whole rest hosts)
    (hurl : address = some url) :
    (hosts url).received <+: ((whole.run (.ofHosts answer) start).2 url).received := by
  rw [← h.host url hurl, received_run answer (h.sends_url hurl)]
  exact List.prefix_append _ _

/-- An exchange that has ended has come to what it comes to alone. -/
theorem Remains.of_done {a : α} (h : Remains answer start address whole (.done a) hosts) :
    (whole.run (.ofHosts answer) start).1 = a ∧
      ∀ url, address = some url → hosts url = (whole.run (.ofHosts answer) start).2 url :=
  ⟨h.value.symm, h.host⟩

end

end Exchange

end Dialogue.Http
