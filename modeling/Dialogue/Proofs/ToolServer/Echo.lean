import Dialogue.Proofs.ToolServer.Sessions

/-!
# The name of a session

A server may name a session in a header of a response, at any time and again and again. What a
client sends carries the name that was given last, to the letter, and no name as long as none was
given. It makes no difference what else the responses hold, nor whether the operations they belong
to succeed.

Main statement: `echo_of_network`. Its step lemma is `Client.Recalls.hear`, its run lemma
`Client.Talks.echoes`; `Client.Talks` is what all operations have in common here.
-/

namespace Dialogue.ToolServer

open Http (Exchange Header Network Sent)

variable {answer : Except Http.Trouble Http.Response} {h : Header} {log : List Sent}

/-! ## What names a session -/

/-- An answer names a session with this header: it reports success, and of its headers of that name
this is the first, and a text. Its body counts for nothing, be it cut off. -/
def Names (answer : Except Http.Trouble Http.Response) (h : Header) : Prop :=
  ∃ r, answer = .ok r ∧ r.isSuccess = true ∧ r.header? Client.sessionHeader = some h ∧
    h.text? ≠ none

/-- The header with which an answer names a session. -/
def naming? : Except Http.Trouble Http.Response → Option Header
  | .ok r =>
    if r.isSuccess then (r.header? Client.sessionHeader).filter (·.text?.isSome) else none
  | .error _ => none

theorem naming?_eq_some_iff : naming? answer = some h ↔ Names answer h := by
  rcases answer with trouble | r
  · simp [naming?, Names]
  · by_cases hsuccess : r.isSuccess = true
    · simp [naming?, Names, hsuccess, Option.filter_eq_some_iff, Option.isSome_iff_ne_none]
    · simp [naming?, Names, hsuccess]

theorem naming?_eq_none_iff : naming? answer = none ↔ ∀ h, ¬ Names answer h := by
  rw [Option.eq_none_iff_forall_ne_some]
  exact forall_congr' fun h => not_congr naming?_eq_some_iff

/-- The header with which a session was named last. -/
def lastNaming? (log : List Sent) : Option Header :=
  (log.filterMap fun s => naming? s.answer).getLast?

theorem lastNaming?_concat (log : List Sent) (s : Sent) :
    lastNaming? (log ++ [s]) = (naming? s.answer).or (lastNaming? log) := by
  rw [lastNaming?, List.filterMap_append, List.getLast?_append]
  cases hs : naming? s.answer with
  | none => simp [hs, lastNaming?]
  | some h => simp [hs]

/-- No session was named. -/
theorem lastNaming?_eq_none_iff :
    lastNaming? log = none ↔ ∀ s ∈ log, ∀ h, ¬ Names s.answer h := by
  rw [lastNaming?, List.getLast?_eq_none_iff, List.filterMap_eq_nil_iff]
  exact forall₂_congr fun s _ => naming?_eq_none_iff

/-- An answer that names a session is the last to do so if no later one does. -/
theorem lastNaming?_of_names {earlier later : List Sent} {s : Sent} (hs : Names s.answer h)
    (hlater : ∀ x ∈ later, ∀ h', ¬ Names x.answer h') :
    lastNaming? (earlier ++ s :: later) = some h := by
  have hnone : (later.filterMap fun s => naming? s.answer) = [] :=
    List.filterMap_eq_nil_iff.mpr fun x hx => naming?_eq_none_iff.mpr (hlater x hx)
  have hsome : ((s :: later).filterMap fun s => naming? s.answer) = [h] := by
    rw [List.filterMap_cons, naming?_eq_some_iff.mpr hs, hnone]
  rw [lastNaming?, List.filterMap_append, hsome, List.getLast?_concat]

/-! ## What a client repeats -/

/-- The headers of a request that name a session. -/
def carried (q : Http.Request) : List Header :=
  q.headers.filter (·.name == Client.sessionHeader)

namespace Client

variable {c c' c'' : Client} {log' : List Sent} {message : Json} {q : Http.Request}

/-- A client remembers what was named last in what was sent and answered. -/
def Recalls (c : Client) (log : List Sent) : Prop :=
  c.session.toList.map (Header.ofText sessionHeader ·) = (lastNaming? log).toList

theorem recalls_fresh (name url : String) : (fresh name url).Recalls [] :=
  rfl

/-- An answer that names a session is remembered. -/
theorem hear_of_names (h' : Names answer h) :
    (c.hear answer).session.toList.map (Header.ofText sessionHeader ·) = [h] := by
  obtain ⟨r, rfl, hsuccess, hheader, htext⟩ := h'
  obtain ⟨text, htext⟩ := Option.ne_none_iff_exists'.mp htext
  have hname : h.name = sessionHeader := by simpa using List.find?_some hheader
  have hheed : (r.header? sessionHeader).bind Header.text? = some text := by
    rw [hheader, Option.bind_some, htext]
  rw [hear, if_pos hsuccess, heed, hheed]
  simp only [Option.toList_some, List.map_cons, List.map_nil, ofText_of_text? htext, ← hname]

/-- Every other answer leaves what was remembered. -/
theorem hear_of_not_names (hno : ∀ h, ¬ Names answer h) : c.hear answer = c := by
  rcases answer with trouble | r
  · rfl
  · rw [hear]
    split
    · next hsuccess =>
      rw [heed]
      split
      · next text hheed =>
        obtain ⟨h, hheader, htext⟩ := Option.bind_eq_some_iff.mp hheed
        exact absurd ⟨r, rfl, hsuccess, hheader, by simp [htext]⟩ (hno h)
      · rfl
    · rfl

/-- **A step.** Whatever is answered, a client goes on to remember what was named last. -/
theorem Recalls.hear (hc : c.Recalls log) (s : Sent) : (c.hear s.answer).Recalls (log ++ [s]) := by
  rw [Recalls, lastNaming?_concat]
  cases hs : naming? s.answer with
  | none =>
    rw [hear_of_not_names (naming?_eq_none_iff.mp hs), Option.none_or]
    exact hc
  | some h =>
    rw [hear_of_names (naming?_eq_some_iff.mp hs)]
    rfl

/-- A message carries what the client remembers. -/
theorem Posts.carried_eq (hq : c.Posts message q) (hc : c.Recalls log) :
    carried q = (lastNaming? log).toList := by
  obtain ⟨url, -, -, -, -, rfl⟩ := Http.makeRequest_eq_ok_iff.mp hq
  rw [← hc]
  cases hsession : c.session <;> simp [carried, headers, hsession, Header.ofText, sessionHeader]

/-! ## What all operations have in common -/

/-- Messages of a client one after another, whichever they are. Each of them is heard before the
next one is sent, and ids may be taken in between. -/
inductive Talks : Client → List Sent → Client → Prop where
  | nil {c : Client} : Talks c [] c
  | next {c c' : Client} {log : List Sent} : Talks c.next log c' → Talks c log c'
  | send {c c' : Client} {message : Json} {s : Sent} {log : List Sent} :
      c.Posts message s.request → Talks (c.hear s.answer) log c' → Talks c (s :: log) c'

theorem Talks.append (h : c.Talks log c') (h' : c'.Talks log' c'') : c.Talks (log ++ log') c'' := by
  induction h with
  | nil => exact h'
  | next _ ih => exact .next (ih h')
  | send hposts _ ih => exact .send hposts (ih h')

theorem Asks.talks {method : String} {params : Json} {s : Sent} {x : Except Failure Json}
    (h : c.Asks method params s x) : c.Talks [s] (c.next.hear s.answer) := by
  cases h with
  | served hq _ => exact .next (.send hq .nil)
  | failed hq _ => exact .next (.send hq .nil)

theorem Lists.talks {fuel : Nat} {cursor : Option String} {l : Listing}
    (h : c.Lists fuel cursor log l c') : c.Talks log c' := by
  induction h with
  | unfinished => exact .nil
  | unserved hasks => exact hasks.talks
  | misread hasks _ => exact hasks.talks
  | last hasks _ _ => exact hasks.talks
  | more hasks _ _ _ ih => exact hasks.talks.append ih

theorem Conducts.talks {act : Act} (h : c.Conducts act c') : c.Talks act.sent c' := by
  cases h with
  | list hlists => exact hlists.talks
  | unserved hasks => exact hasks.talks
  | misread hasks _ => exact hasks.talks
  | called hasks _ => exact hasks.talks

theorem ConductsAll.talks {acts : List Act} (h : c.ConductsAll acts c') :
    c.Talks (acts.flatMap (·.sent)) c' := by
  induction h with
  | nil => exact .nil
  | cons hact _ ih => exact hact.talks.append ih

/-- **A run.** If a client remembers what was named before, then each of its messages carries what
was named last before it. -/
theorem Talks.echoes {past before after : List Sent} {s : Sent}
    (h : c.Talks (before ++ s :: after) c') (hc : c.Recalls past) :
    carried s.request = (lastNaming? (past ++ before)).toList := by
  generalize hlog : before ++ s :: after = log at h
  -- What was sent before this message moves to the past, one message at a time.
  induction h generalizing past before with
  | nil => simp at hlog
  | next _ ih => exact ih hc hlog
  | @send c _ _ x log hposts _ ih =>
    cases before with
    | nil =>
      obtain ⟨rfl, -⟩ := List.cons.inj hlog
      rw [List.append_nil]
      exact hposts.carried_eq hc
    | cons y before =>
      obtain ⟨rfl, hrest⟩ := List.cons.inj hlog
      have hlater := ih (hc.hear y) hrest
      rwa [List.append_assoc] at hlater

end Client

theorem Opens.talks {name url : String} {x : Except Failure Client} (h : Opens name url log x) :
    ∃ c, (Client.fresh name url).Talks log c ∧ ∀ c', x = .ok c' → c' = c := by
  cases h with
  | unsendable _ => exact ⟨_, .nil, nofun⟩
  | refused hasks => exact ⟨_, hasks.talks, nofun⟩
  | unheard hasks hposts _ => exact ⟨_, hasks.talks.append (.send hposts .nil), nofun⟩
  | opened hasks hposts _ =>
    refine ⟨_, hasks.talks.append (.send hposts .nil), ?_⟩
    rintro _ ⟨⟩
    rfl

/-! ## The whole session -/

/-- All that is sent in a session is said by one client. -/
theorem session_talks {name url : String} {operations : List Operation}
    {x : Except Failure (List Yield)} (h : (session name url operations).Passes log x) :
    ∃ c, (Client.fresh name url).Talks log c := by
  obtain ⟨opening, rest, ⟨y, c⟩, rfl, hconnect, hrest⟩ := Exchange.passes_bind_iff.mp h
  have hopens := opens_of_passes hconnect
  obtain ⟨c₁, htalks, hc₁⟩ := hopens.talks
  rcases y with e | ⟨⟩
  · obtain ⟨rfl, -⟩ := Exchange.passes_done_iff.mp hrest
    rw [List.append_nil]
    exact ⟨c₁, htalks⟩
  · obtain rfl := hc₁ c rfl
    obtain ⟨_, _, hopen⟩ := hopens.filterMap_idOf?
    obtain ⟨l₁, l₂, ⟨ys, c'⟩, rfl, hall, hlast⟩ := Exchange.passes_bind_iff.mp hrest
    obtain ⟨rfl, -⟩ := Exchange.passes_done_iff.mp hlast
    obtain ⟨acts, hacts, -, -, rfl⟩ := Client.conductsAll_of_passes hall (hopen c rfl).2.2
    rw [List.append_nil]
    exact ⟨c', htalks.append hacts.talks⟩

/-- **The name of a session**, with a server that answers as it likes. A message carries a name
exactly if an answer before it named the session. If so, it carries one name, that of the latest
such answer, whatever else was answered in between; and after an answer that does not name the
session, the next message carries what the one before it carried. -/
theorem echo_of_network {ω : Type} (net : Network ω) (w : ω) (name url : String)
    (operations : List Operation) (before : List Sent) (s : Sent) (after : List Sent)
    (hs : (session name url operations).sent net w = before ++ s :: after) :
    (carried s.request ≠ [] ↔ ∃ x ∈ before, ∃ h, Names x.answer h) ∧
    (∀ earlier x later h, before = earlier ++ x :: later → Names x.answer h →
      (∀ y ∈ later, ∀ h', ¬ Names y.answer h') → carried s.request = [h]) ∧
    ∀ earlier x, before = earlier ++ [x] → (∀ h, ¬ Names x.answer h) →
      carried s.request = carried x.request := by
  have hpasses := Exchange.passes_run net (session name url operations) w
  obtain ⟨c, htalks⟩ := session_talks hpasses
  rw [hs] at htalks
  have hcarried : carried s.request = (lastNaming? before).toList :=
    htalks.echoes (Client.recalls_fresh name url)
  refine ⟨?_, ?_, ?_⟩
  · rw [hcarried, Ne, Option.toList_eq_nil_iff, lastNaming?_eq_none_iff]
    simp only [not_forall, not_not, exists_prop]
  · rintro earlier x later h rfl hx hlater
    rw [hcarried, lastNaming?_of_names hx hlater]
    rfl
  · rintro earlier x rfl hx
    rw [List.append_assoc] at htalks
    have hbefore : carried x.request = (lastNaming? earlier).toList :=
      htalks.echoes (Client.recalls_fresh name url)
    rw [hcarried, hbefore, lastNaming?_concat, naming?_eq_none_iff.mpr hx, Option.none_or]

/-- The name is in a response that is cut off, and the response after it is no success. -/
theorem echo_of_network_cut_off :
    let hello : Http.Response := ⟨200, [], "\x7b\"id\":1\x7d".toList.map Char.toNat, none, none⟩
    let cut : Http.Response := ⟨200, [⟨Client.sessionHeader, [49]⟩], [], some "cut off", none⟩
    let refused : Http.Response := ⟨500, [⟨Client.sessionHeader, [50]⟩], [], none, none⟩
    let operations := List.replicate 3 (Operation.call "search" (.obj []))
    ∃ before s, (session "docs" "http://a/" operations).sent inTurn
        [.ok hello, .ok ⟨202, [], [], none, none⟩, .ok cut, .ok refused] = before ++ [s] ∧
      carried s.request = [⟨Client.sessionHeader, [49]⟩] := by
  intro hello cut refused operations
  have hanswers : ((session "docs" "http://a/" operations).sent inTurn
      [.ok hello, .ok ⟨202, [], [], none, none⟩, .ok cut, .ok refused]).map (·.answer) =
      [.ok hello, .ok ⟨202, [], [], none, none⟩, .ok cut, .ok refused, .error .unreachable] := by
    decide +kernel
  simp only [List.map_eq_cons_iff, List.map_eq_nil_iff] at hanswers
  obtain ⟨s₁, _, hlog, -, s₂, _, rfl, -, s₃, _, rfl, h₃, s₄, _, rfl, h₄, s₅, _, rfl, -, rfl⟩ :=
    hanswers
  have hnames : Names s₃.answer ⟨Client.sessionHeader, [49]⟩ :=
    h₃ ▸ ⟨cut, rfl, rfl, rfl, by decide⟩
  have hno : ∀ h, ¬ Names s₄.answer h := by
    rw [h₄]
    rintro h ⟨_, ⟨⟩, ⟨⟩, -⟩
  refine ⟨[s₁, s₂, s₃, s₄], s₅, hlog, ?_⟩
  obtain ⟨-, hlatest, -⟩ :=
    echo_of_network inTurn _ "docs" "http://a/" operations [s₁, s₂, s₃, s₄] s₅ [] hlog
  exact hlatest [s₁, s₂] s₃ [s₄] _ rfl hnames (by simpa using hno)

end Dialogue.ToolServer
