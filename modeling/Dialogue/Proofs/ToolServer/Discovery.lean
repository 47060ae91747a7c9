import Dialogue.Proofs.ToolServer.Search

/-!
# Discovery side by side

Several servers are searched at once, and the schedule says which of them answers next. Each server
is a host of its own, so a search goes on as it would alone, whatever the others do in between. This
is kept by every step (`OnCourse.advanceAt`), so it holds at the end of a run (`exists_follow`), and
there it tells what was found: all that the servers have alone, or the failure of one of them
(`run_cases`).

Main statement: `run_of_hosts`.
-/

namespace Dialogue.ToolServer

open Http (Exchange Host Network Url)
open Client (Listing)

variable {σ : Type} {answer : Url → Http.Request → σ → Except Http.Trouble Http.Response × σ}
  {fuel : Nat} {start hosts : Url → Host σ} {entry : String × String} {s : Search} {url : Url}

/-- The servers have addresses of their own. Two names of one address are one server, and what it
answers to the one may depend on what the other has asked before. -/
def Distinct (servers : Table String) : Prop :=
  servers.Pairwise fun x y => ∀ url, addressOf? x.2 = some url → addressOf? y.2 ≠ some url

/-- The search among the tools of a server when no other server is searched. -/
def alone (answer : Url → Http.Request → σ → Except Http.Trouble Http.Response × σ) (fuel : Nat)
    (start : Url → Host σ) (entry : String × String) : (Listing × Client) × (Url → Host σ) :=
  (search fuel entry.1 entry.2).run (.ofHosts answer) start

/-! ## Steps -/

namespace Search

/-- A search that goes on as it would alone. -/
structure Pursues (answer : Url → Http.Request → σ → Except Http.Trouble Http.Response × σ)
    (fuel : Nat) (start : Url → Host σ) (entry : String × String) (s : Search)
    (hosts : Url → Host σ) : Prop where
  server : s.server = entry.1
  remains : Exchange.Remains answer start (addressOf? entry.2) (search fuel entry.1 entry.2)
    s.exchange hosts

theorem Pursues.advance (h : s.Pursues answer fuel start entry hosts) :
    (s.advance (.ofHosts answer) hosts).1.Pursues answer fuel start entry
      (s.advance (.ofHosts answer) hosts).2 := by
  obtain ⟨server, exchange⟩ := s
  cases exchange with
  | done x => exact h
  | send r resume => exact ⟨h.server, h.remains.own⟩

/-- A search that advances reaches its own server only. -/
theorem Pursues.advance_of_ne (h : s.Pursues answer fuel start entry hosts)
    (hurl : addressOf? entry.2 ≠ some url) :
    (s.advance (.ofHosts answer) hosts).2 url = hosts url := by
  obtain ⟨server, exchange⟩ := s
  cases exchange with
  | done x => rfl
  | send r resume =>
    refine Exchange.ofHosts_of_ne answer fun heq => hurl ?_
    rw [heq]
    exact h.remains.sends.head

/-- A search that has ended has come to what it comes to alone. -/
theorem Pursues.of_done {x : Listing × Client} (h : s.Pursues answer fuel start entry hosts)
    (hx : s.exchange = .done x) :
    (alone answer fuel start entry).1 = x ∧
      ∀ url, addressOf? entry.2 = some url → hosts url = (alone answer fuel start entry).2 url := by
  have hremains := h.remains
  rw [hx] at hremains
  unfold alone
  exact hremains.of_done

end Search

namespace Discovery

variable {servers : Table String} {searches : List Search}

/-- Every search goes on as it would alone. -/
def InProgress (answer : Url → Http.Request → σ → Except Http.Trouble Http.Response × σ)
    (fuel : Nat) (start : Url → Host σ) (servers : Table String) (searches : List Search)
    (hosts : Url → Host σ) : Prop :=
  List.Forall₂ (fun entry s => s.Pursues answer fuel start entry hosts) servers searches

theorem inProgress_begin (answer : Url → Http.Request → σ → Except Http.Trouble Http.Response × σ)
    (fuel : Nat) (start : Url → Host σ) (servers : Table String) :
    InProgress answer fuel start servers (begin fuel servers) start := by
  refine List.forall₂_map_right_iff.mpr (List.forall₂_same.mpr fun entry _ => ⟨rfl, ?_⟩)
  exact Exchange.remains_self (search_sends fuel entry.1 entry.2)

/-- **A step.** Whichever search goes on, all of them go on as they would alone. -/
theorem InProgress.advanceAt (h : InProgress answer fuel start servers searches hosts)
    (hdistinct : Distinct servers) (i : Nat) :
    InProgress answer fuel start servers (advanceAt (.ofHosts answer) i searches hosts).1
        (advanceAt (.ofHosts answer) i searches hosts).2 ∧
      ∀ url, (∀ entry ∈ servers, addressOf? entry.2 ≠ some url) →
        (advanceAt (.ofHosts answer) i searches hosts).2 url = hosts url := by
  -- The induction is on the searches that stand before the one that goes on.
  induction h generalizing i with
  | nil =>
    rw [Discovery.advanceAt]
    exact ⟨.nil, fun _ _ => rfl⟩
  | @cons entry s servers searches hs hrest ih =>
    obtain ⟨hhead, htail⟩ := List.pairwise_cons.mp hdistinct
    cases i with
    | zero =>
      refine ⟨.cons hs.advance ?_,
        fun url hurl => hs.advance_of_ne (hurl entry (List.mem_cons_self ..))⟩
      refine ((List.forall₂_and_left _ _).mpr ⟨hhead, hrest⟩).imp fun other s' ⟨hother, hs'⟩ => ?_
      refine ⟨hs'.server, hs'.remains.other fun url hurl => ?_⟩
      exact (hs.advance_of_ne fun hown => hother url hown hurl).symm
    | succ i =>
      obtain ⟨hprogress, hframe⟩ := ih htail i
      refine ⟨.cons ⟨hs.server, hs.remains.other fun url hurl => ?_⟩ hprogress,
        fun url hurl => ?_⟩
      · exact (hframe url fun other hother => hhead other hother url hurl).symm
      · exact hframe url fun other hother => hurl other (List.mem_cons_of_mem _ hother)

/-- The search at the position advances, and the others stay as they are. -/
theorem getElem?_advanceAt (net : Network (Url → Host σ)) (i j : Nat) (searches : List Search)
    (hosts : Url → Host σ) :
    (advanceAt net i searches hosts).1[j]? =
      if j = i then searches[i]?.map fun s => (s.advance net hosts).1 else searches[j]? := by
  induction searches generalizing i j with
  | nil => simp [advanceAt]
  | cons s searches ih =>
    cases i with
    | zero => cases j <;> simp [advanceAt]
    | succ i =>
      cases j with
      | zero => simp [advanceAt]
      | succ j => simp [advanceAt, ih]

/-- The schedule has a place for every request that is still to be sent. -/
def Covers (schedule : List Nat) (searches : List Search) : Prop :=
  ∀ (i : Nat) (s : Search), searches[i]? = some s → s.exchange.AtMost (schedule.count i)

theorem Covers.advanceAt {schedule : List Nat} {i : Nat} (net : Network (Url → Host σ))
    (h : Covers (i :: schedule) searches) (hosts : Url → Host σ) :
    Covers schedule (advanceAt net i searches hosts).1 := by
  intro j s hs
  rw [getElem?_advanceAt] at hs
  split at hs
  · next hji =>
    obtain ⟨s, hmem, rfl⟩ := Option.map_eq_some_iff.mp hs
    have hcount := h i s hmem
    rw [List.count_cons_self] at hcount
    obtain ⟨server, exchange⟩ := s
    rw [hji]
    cases exchange with
    | done x => exact Exchange.atMost_done x _
    | send r resume => exact hcount.tail _
  · next hji =>
    have hcount := h j s hs
    rw [List.count_cons_of_ne (Ne.symm hji)] at hcount
    exact hcount

/-! ## What has come of the searches -/

theorem failure?_eq_some_iff {e : Failure} :
    s.failure? = some e ↔ ∃ c, s.exchange = .done (.failed e, c) := by
  obtain ⟨server, exchange⟩ := s
  cases exchange with
  | done x =>
    obtain ⟨l, c⟩ := x
    cases l <;> simp [Search.failure?, Search.ended?]
  | send r resume => simp [Search.failure?, Search.ended?]

/-- What is found of a search that is complete. -/
def Gives (s : Search) (f : Found) : Prop :=
  f.server = s.server ∧ s.exchange = .done (.complete f.definitions, f.client)

theorem foundBy?_eq_some_iff {f : Found} : foundBy? s = some f ↔ Gives s f := by
  obtain ⟨server, exchange⟩ := s
  obtain ⟨name, definitions, client⟩ := f
  cases exchange with
  | done x =>
    obtain ⟨l, c⟩ := x
    cases l <;> simp [foundBy?, Search.ended?, Gives, eq_comm]
  | send r resume => simp [foundBy?, Search.ended?, Gives]

theorem mapM_foundBy?_cases (searches : List Search) :
    (∃ found, searches.mapM foundBy? = some found ∧ List.Forall₂ Gives searches found) ∨
      (searches.mapM foundBy? = none ∧ ∃ s ∈ searches, foundBy? s = none) := by
  induction searches with
  | nil => exact .inl ⟨[], rfl, .nil⟩
  | cons s searches ih =>
    rw [List.mapM_cons]
    rcases hs : foundBy? s with _ | f
    · exact .inr ⟨rfl, s, List.mem_cons_self .., hs⟩
    · rcases ih with ⟨found, hfound, hgives⟩ | ⟨hnone, s', hmem, hs'⟩
      · exact .inl ⟨f :: found, by rw [hfound]; rfl, .cons (foundBy?_eq_some_iff.mp hs) hgives⟩
      · exact .inr ⟨by rw [hnone]; rfl, s', List.mem_cons_of_mem _ hmem, hs'⟩

/-- The matter is settled when all searches are complete or one has failed. -/
theorem verdict?_cases (searches : List Search) :
    (∃ found, verdict? searches = some (.found found) ∧ List.Forall₂ Gives searches found) ∨
    (∃ e, verdict? searches = some (.failed e) ∧
      ∃ s ∈ searches, ∃ c, s.exchange = .done (.failed e, c)) ∨
    (verdict? searches = none ∧ (∀ s ∈ searches, ∀ e c, s.exchange ≠ .done (.failed e, c)) ∧
      ∃ s ∈ searches, ∀ definitions c, s.exchange ≠ .done (.complete definitions, c)) := by
  rw [verdict?]
  rcases hfailure : searches.findSome? Search.failure? with _ | e
  · rcases mapM_foundBy?_cases searches with ⟨found, hfound, hgives⟩ | ⟨hnone, s, hs, hnot⟩
    · exact .inl ⟨found, by rw [hfound]; rfl, hgives⟩
    · refine .inr (.inr ⟨by rw [hnone]; rfl, fun s' hs' e c hdone => ?_,
        s, hs, fun definitions c hdone => ?_⟩)
      · have hfailed := failure?_eq_some_iff.mpr ⟨c, hdone⟩
        rw [List.findSome?_eq_none_iff.mp hfailure s' hs'] at hfailed
        cases hfailed
      · have hgives : foundBy? s = some ⟨s.server, definitions, c⟩ :=
          foundBy?_eq_some_iff.mpr ⟨rfl, hdone⟩
        rw [hnot] at hgives
        cases hgives
  · obtain ⟨s, hs, hfailed⟩ := List.exists_of_findSome?_eq_some hfailure
    exact .inr (.inl ⟨e, rfl, s, hs, failure?_eq_some_iff.mp hfailed⟩)

section

variable {ω : Type} {net : Network ω} {schedule : List Nat} {w : ω}

theorem follow_of_verdict? {v : Discovery} (h : verdict? searches = some v) :
    follow net schedule searches w = (v, w) := by
  rw [follow.eq_def]
  simp only [h]

theorem follow_nil (h : verdict? searches = none) :
    follow net [] searches w = (.unfinished, w) := by
  rw [follow.eq_def]
  simp only [h]

theorem follow_cons {i : Nat} (h : verdict? searches = none) :
    follow net (i :: schedule) searches w =
      follow net schedule (advanceAt net i searches w).1 (advanceAt net i searches w).2 := by
  rw [follow.eq_def]
  simp only [h]

/-- **A run.** What every step keeps holds in the end: when the matter is settled, or when the
schedule has come to its end. -/
theorem exists_follow {P : List Nat → List Search → ω → Prop}
    (hstep : ∀ i schedule searches w, P (i :: schedule) searches w →
      P schedule (advanceAt net i searches w).1 (advanceAt net i searches w).2)
    (h : P schedule searches w) :
    ∃ left searches', P left searches' (follow net schedule searches w).2 ∧
      (verdict? searches' = some (follow net schedule searches w).1 ∨
        verdict? searches' = none ∧ left = [] ∧
          (follow net schedule searches w).1 = .unfinished) := by
  induction schedule generalizing searches w with
  | nil =>
    rcases hverdict : verdict? searches with _ | v
    · rw [follow_nil hverdict]
      exact ⟨[], searches, h, .inr ⟨hverdict, rfl, rfl⟩⟩
    · rw [follow_of_verdict? hverdict]
      exact ⟨[], searches, h, .inl hverdict⟩
  | cons i schedule ih =>
    rcases hverdict : verdict? searches with _ | v
    · rw [follow_cons hverdict]
      exact ih (hstep i schedule searches w h)
    · rw [follow_of_verdict? hverdict]
      exact ⟨i :: schedule, searches, h, .inl hverdict⟩

end

/-! ## What is found -/

/-- A server is found to have what it has alone, and it has received what it receives alone. -/
structure Agrees (answer : Url → Http.Request → σ → Except Http.Trouble Http.Response × σ)
    (fuel : Nat) (start hosts : Url → Host σ) (entry : String × String) (f : Found) : Prop where
  server : f.server = entry.1
  alone : (alone answer fuel start entry).1 = (.complete f.definitions, f.client)
  host : ∀ url, addressOf? entry.2 = some url →
    hosts url = (ToolServer.alone answer fuel start entry).2 url

/-- A server has these pages when no other server is searched: the session is opened, and then the
pages are listed up to the last one. -/
def Has (answer : Url → Http.Request → σ → Except Http.Trouble Http.Response × σ) (fuel : Nat)
    (start : Url → Host σ) (entry : String × String) (pages : List Page) : Prop :=
  ∃ opening c log c', (search fuel entry.1 entry.2).sent (.ofHosts answer) start = opening ++ log ∧
    Opens entry.1 entry.2 opening (.ok c) ∧
    c.Lists fuel none log (.complete (pages.flatMap (·.definitions))) c' ∧
    List.Forall₂ Client.GivesPage log pages

theorem Agrees.exists_pages {f : Found} (h : Agrees answer fuel start hosts entry f) :
    ∃ pages, Has answer fuel start entry pages ∧
      f.definitions = pages.flatMap (·.definitions) := by
  have hpasses := Exchange.passes_run (.ofHosts answer) (search fuel entry.1 entry.2) start
  have halone := h.alone
  unfold ToolServer.alone at halone
  rw [halone] at hpasses
  generalize hlog : (search fuel entry.1 entry.2).sent (.ofHosts answer) start = sent at hpasses
  cases searches_of_passes hpasses with
  | listed hopens hlists =>
    obtain ⟨pages, hpages, hdefinitions⟩ := hlists.exists_pages
    rw [hdefinitions] at hlists
    exact ⟨pages, ⟨_, _, _, _, hlog, hopens, hlists, hpages⟩, hdefinitions⟩

/-- The tools stand in the order of the servers, and those of a server in the order of its pages. -/
theorem exists_tools_eq (net : Network (Url → Host σ)) {found : List Found}
    (h : List.Forall₂ (Agrees answer fuel start hosts) servers found) :
    ∃ pages, List.Forall₂ (Has answer fuel start) servers pages ∧
      tools net found = (List.zipWith (fun entry ps => ps.flatMap fun p =>
        p.definitions.map (remoteTool net entry.1)) servers pages).flatten := by
  induction h with
  | nil => exact ⟨[], .nil, rfl⟩
  | @cons entry f servers found hagrees _ ih =>
    obtain ⟨ps, hps, hdefinitions⟩ := hagrees.exists_pages
    obtain ⟨pages, hpages, htools⟩ := ih
    refine ⟨ps :: pages, .cons hps hpages, ?_⟩
    have hhead : f.definitions.map (remoteTool net f.server) =
        ps.flatMap fun p => p.definitions.map (remoteTool net entry.1) := by
      rw [hdefinitions, hagrees.server, List.map_flatMap]
    rw [tools, List.flatMap_cons, hhead, List.zipWith_cons_cons, List.flatten_cons, ← htools]
    rfl

/-! ## The clients of what is found -/

section

variable {ω : Type} {found : List Found}

theorem withClients_cons (f : Found) (found : List Found) (w : World ω) :
    withClients (f :: found) w = withClients found (w.withClient f.server f.client) := rfl

theorem outside_withClients (found : List Found) (w : World ω) :
    (withClients found w).outside = w.outside := by
  induction found generalizing w with
  | nil => rfl
  | cons f found ih => exact ih (w.withClient f.server f.client)

theorem clients_withClients_of_notMem {name : String} (w : World ω)
    (h : name ∉ found.map (·.server)) : (withClients found w).clients name = w.clients name := by
  induction found generalizing w with
  | nil => rfl
  | cons f found ih =>
    rw [List.map_cons, List.mem_cons, not_or] at h
    rw [withClients_cons, ih _ h.2]
    exact if_neg h.1

/-- Each server that is found has the client that listed it. -/
theorem clients_withClients (w : World ω) (h : (found.map (·.server)).Nodup) :
    ∀ f ∈ found, (withClients found w).clients f.server = f.client := by
  induction found generalizing w with
  | nil => exact List.forall_mem_nil _
  | cons f found ih =>
    obtain ⟨hnew, hrest⟩ := List.nodup_cons.mp h
    intro f' hf'
    rw [withClients_cons]
    rcases List.mem_cons.mp hf' with rfl | hf'
    · rw [clients_withClients_of_notMem _ hnew]
      exact if_pos rfl
    · exact ih _ hrest f' hf'

/-- A tool of a server is called through the client that listed it. -/
theorem run_remoteTool (net : Network ω) (w : World ω) (h : (found.map (·.server)).Nodup)
    {f : Found} (hf : f ∈ found) (d : Definition) (call : Call) :
    ((remoteTool net f.server d).run call (withClients found w)).1 =
      ((f.client.call call.name call.arguments).run net w.outside).1.1.bind
        (·.observe call.name) := by
  rw [remoteTool]
  simp only [World.useClient, World.exchange, clients_withClients w h f hf, outside_withClients]

end

/-! ## Runs -/

theorem exists_of_mem_left {α β : Type} {R : α → β → Prop} {as : List α} {bs : List β} {a : α}
    (h : List.Forall₂ R as bs) (ha : a ∈ as) : ∃ b ∈ bs, R a b := by
  induction h with
  | nil => cases ha
  | @cons a' b _ _ hhead _ ih =>
    rcases List.mem_cons.mp ha with rfl | ha
    · exact ⟨b, List.mem_cons_self .., hhead⟩
    · obtain ⟨b', hmem, hb'⟩ := ih ha
      exact ⟨b', List.mem_cons_of_mem _ hmem, hb'⟩

theorem InProgress.exists_search (h : InProgress answer fuel start servers searches hosts)
    (hentry : entry ∈ servers) : ∃ s ∈ searches, s.Pursues answer fuel start entry hosts :=
  exists_of_mem_left h hentry

theorem InProgress.exists_server (h : InProgress answer fuel start servers searches hosts)
    (hs : s ∈ searches) : ∃ entry ∈ servers, s.Pursues answer fuel start entry hosts :=
  exists_of_mem_left (List.Forall₂.flip h) hs

theorem InProgress.agrees (h : InProgress answer fuel start servers searches hosts)
    {found : List Found} (hgives : List.Forall₂ Gives searches found) :
    List.Forall₂ (Agrees answer fuel start hosts) servers found := by
  induction h generalizing found with
  | nil =>
    cases hgives
    exact .nil
  | cons hpursues _ ih =>
    obtain _ | ⟨⟨hserver, hdone⟩, hgives⟩ := hgives
    obtain ⟨halone, hhost⟩ := hpursues.of_done hdone
    exact .cons ⟨hserver.trans hpursues.server, halone, hhost⟩ (ih hgives)

/-- A schedule in which every server can answer all that is asked of it. -/
def Suffices (schedule : List Nat) (fuel : Nat) (servers : Table String) : Prop :=
  ∀ i < servers.length, fuel + 2 ≤ schedule.count i

theorem Suffices.covers {schedule : List Nat} (h : Suffices schedule fuel servers) :
    Covers schedule (begin fuel servers) := by
  intro i s hs
  rw [begin, List.getElem?_map, Option.map_eq_some_iff] at hs
  obtain ⟨⟨server, url⟩, hentry, rfl⟩ := hs
  obtain ⟨hi, -⟩ := List.getElem?_eq_some_iff.mp hentry
  exact fun log a hpasses => Nat.le_trans (search_atMost fuel server url log a hpasses) (h i hi)

theorem Covers.exists_done (h : Covers [] searches) (hs : s ∈ searches) :
    ∃ x, s.exchange = .done x := by
  obtain ⟨i, hi⟩ := List.mem_iff_getElem?.mp hs
  exact (h i s hi).exists_eq_done

/-- How far the searches have come, when a part of the schedule is left. -/
structure OnCourse (answer : Url → Http.Request → σ → Except Http.Trouble Http.Response × σ)
    (fuel : Nat) (start : Url → Host σ) (servers : Table String) (schedule left : List Nat)
    (searches : List Search) (hosts : Url → Host σ) : Prop where
  inProgress : InProgress answer fuel start servers searches hosts
  covers : Suffices schedule fuel servers → Covers left searches

theorem onCourse_begin (answer : Url → Http.Request → σ → Except Http.Trouble Http.Response × σ)
    (fuel : Nat) (start : Url → Host σ) (servers : Table String) (schedule : List Nat) :
    OnCourse answer fuel start servers schedule schedule (begin fuel servers) start :=
  ⟨inProgress_begin answer fuel start servers, Suffices.covers⟩

theorem OnCourse.advanceAt {schedule left : List Nat} {i : Nat}
    (h : OnCourse answer fuel start servers schedule (i :: left) searches hosts)
    (hdistinct : Distinct servers) :
    OnCourse answer fuel start servers schedule left
      (advanceAt (.ofHosts answer) i searches hosts).1
      (advanceAt (.ofHosts answer) i searches hosts).2 :=
  ⟨(h.inProgress.advanceAt hdistinct i).1,
    fun hsuffices => (h.covers hsuffices).advanceAt _ hosts⟩

/-- What comes of the searches comes of searches that went on as they would alone. -/
theorem exists_run (hdistinct : Distinct servers) (schedule : List Nat) :
    ∃ searches, InProgress answer fuel start servers searches
        (run (.ofHosts answer) schedule fuel servers start).2 ∧
      (verdict? searches = some (run (.ofHosts answer) schedule fuel servers start).1 ∨
        verdict? searches = none ∧
          (run (.ofHosts answer) schedule fuel servers start).1 = .unfinished ∧
          (Suffices schedule fuel servers → ∀ s ∈ searches, ∃ x, s.exchange = .done x)) := by
  obtain ⟨left, searches, hcourse, houtcome⟩ :=
    exists_follow (fun _ _ _ _ h => h.advanceAt hdistinct)
      (onCourse_begin answer fuel start servers schedule)
  refine ⟨searches, hcourse.inProgress, houtcome.imp_right ?_⟩
  rintro ⟨hverdict, rfl, hrun⟩
  exact ⟨hverdict, hrun, fun hsuffices s hs => (hcourse.covers hsuffices).exists_done hs⟩

/-- What comes of the servers side by side comes of them alone. It is open when the schedule has
come to its end, and if the schedule suffices, only when a server is open alone. -/
theorem run_cases (hdistinct : Distinct servers) (schedule : List Nat) :
    (∃ found, (run (.ofHosts answer) schedule fuel servers start).1 = .found found ∧
      List.Forall₂ (Agrees answer fuel start
        (run (.ofHosts answer) schedule fuel servers start).2) servers found) ∨
    (∃ e, (run (.ofHosts answer) schedule fuel servers start).1 = .failed e ∧
      ∃ entry ∈ servers, (alone answer fuel start entry).1.1 = .failed e) ∨
    ((run (.ofHosts answer) schedule fuel servers start).1 = .unfinished ∧
      (Suffices schedule fuel servers →
        (∀ entry ∈ servers, ∀ e, (alone answer fuel start entry).1.1 ≠ .failed e) ∧
        ∃ entry ∈ servers, ∀ definitions,
          (alone answer fuel start entry).1.1 ≠ .complete definitions)) := by
  obtain ⟨searches, hprogress, hrun⟩ := exists_run hdistinct schedule
  rcases verdict?_cases searches with
    ⟨found, hverdict, hgives⟩ | ⟨e, hverdict, s, hs, c, hdone⟩ | ⟨hverdict, hnone, s, hs, hopen⟩
  · obtain hsettled | ⟨hopen, -⟩ := hrun
    · exact .inl ⟨found, Option.some.inj (hsettled.symm.trans hverdict), hprogress.agrees hgives⟩
    · cases hopen.symm.trans hverdict
  · obtain ⟨entry, hentry, hpursues⟩ := hprogress.exists_server hs
    obtain hsettled | ⟨hopen, -⟩ := hrun
    · exact .inr (.inl ⟨e, Option.some.inj (hsettled.symm.trans hverdict), entry, hentry,
        by rw [(hpursues.of_done hdone).1]⟩)
    · cases hopen.symm.trans hverdict
  · -- The matter is open. If the schedule suffices, every search has ended as it ends alone.
    obtain hsettled | ⟨-, hunfinished, hdone⟩ := hrun
    · cases hverdict.symm.trans hsettled
    · refine .inr (.inr ⟨hunfinished, fun hsuffices => ⟨fun entry hentry e he => ?_, ?_⟩⟩)
      · obtain ⟨s', hs', hpursues⟩ := hprogress.exists_search hentry
        obtain ⟨⟨l, c⟩, hend⟩ := hdone hsuffices s' hs'
        rw [(hpursues.of_done hend).1] at he
        obtain rfl : l = .failed e := he
        exact hnone s' hs' e c hend
      · obtain ⟨entry, hentry, hpursues⟩ := hprogress.exists_server hs
        obtain ⟨⟨l, c⟩, hend⟩ := hdone hsuffices s hs
        refine ⟨entry, hentry, fun definitions he => ?_⟩
        rw [(hpursues.of_done hend).1] at he
        obtain rfl : l = .complete definitions := he
        exact hopen definitions c hend

section

variable {schedule : List Nat}

theorem agrees_of_run (hdistinct : Distinct servers) {fs : List Found}
    (h : (run (.ofHosts answer) schedule fuel servers start).1 = .found fs) :
    List.Forall₂ (Agrees answer fuel start
      (run (.ofHosts answer) schedule fuel servers start).2) servers fs := by
  rcases run_cases hdistinct schedule with ⟨fs', hrun, hagrees⟩ | ⟨e, hrun, -⟩ | ⟨hrun, -⟩
  · cases h.symm.trans hrun
    exact hagrees
  · cases h.symm.trans hrun
  · cases h.symm.trans hrun

theorem exists_alone_of_run (hdistinct : Distinct servers) {e : Failure}
    (h : (run (.ofHosts answer) schedule fuel servers start).1 = .failed e) :
    ∃ entry ∈ servers, (alone answer fuel start entry).1.1 = .failed e := by
  rcases run_cases hdistinct schedule with ⟨fs, hrun, -⟩ | ⟨e', hrun, hentry⟩ | ⟨hrun, -⟩
  · cases h.symm.trans hrun
  · cases h.symm.trans hrun
    exact hentry
  · cases h.symm.trans hrun

theorem complete_of_run (hdistinct : Distinct servers) {fs : List Found}
    (h : (run (.ofHosts answer) schedule fuel servers start).1 = .found fs)
    (hentry : entry ∈ servers) :
    ∃ definitions, (alone answer fuel start entry).1.1 = .complete definitions := by
  obtain ⟨f, -, hagrees⟩ := exists_of_mem_left (agrees_of_run hdistinct h) hentry
  exact ⟨f.definitions, by rw [hagrees.alone]⟩

/-- All servers are found if and only if each of them is complete alone. -/
theorem exists_found_iff (hdistinct : Distinct servers)
    (hsuffices : Suffices schedule fuel servers) :
    (∃ fs, (run (.ofHosts answer) schedule fuel servers start).1 = .found fs) ↔
      ∀ entry ∈ servers, ∃ definitions,
        (alone answer fuel start entry).1.1 = .complete definitions := by
  refine ⟨fun ⟨fs, h⟩ entry => complete_of_run hdistinct h, fun hall => ?_⟩
  rcases run_cases hdistinct schedule with
    ⟨fs, hrun, -⟩ | ⟨e, hrun, entry, hentry, he⟩ | ⟨-, hopen⟩
  · exact ⟨fs, hrun⟩
  · obtain ⟨definitions, hdefinitions⟩ := hall entry hentry
    cases he.symm.trans hdefinitions
  · obtain ⟨entry, hentry, hnot⟩ := (hopen hsuffices).2
    obtain ⟨definitions, hdefinitions⟩ := hall entry hentry
    exact absurd hdefinitions (hnot definitions)

/-- Discovery fails if and only if a server fails alone. -/
theorem exists_failed_iff (hdistinct : Distinct servers)
    (hsuffices : Suffices schedule fuel servers) :
    (∃ e, (run (.ofHosts answer) schedule fuel servers start).1 = .failed e) ↔
      ∃ entry ∈ servers, ∃ e, (alone answer fuel start entry).1.1 = .failed e := by
  refine ⟨fun ⟨e, h⟩ => ?_, fun ⟨entry, hentry, e, he⟩ => ?_⟩
  · obtain ⟨entry, hentry, he⟩ := exists_alone_of_run hdistinct h
    exact ⟨entry, hentry, e, he⟩
  · rcases run_cases hdistinct schedule with ⟨fs, hrun, -⟩ | ⟨e', hrun, -⟩ | ⟨-, hopen⟩
    · obtain ⟨definitions, hdefinitions⟩ := complete_of_run hdistinct hrun hentry
      cases he.symm.trans hdefinitions
    · exact ⟨e', hrun⟩
    · exact absurd he ((hopen hsuffices).1 entry hentry e)

/-- A server receives no more than it receives alone. -/
theorem received_prefix (hdistinct : Distinct servers) (schedule : List Nat)
    (hentry : entry ∈ servers) (hurl : addressOf? entry.2 = some url) :
    ((run (.ofHosts answer) schedule fuel servers start).2 url).received <+:
      ((alone answer fuel start entry).2 url).received := by
  obtain ⟨searches, hprogress, -⟩ := exists_run hdistinct schedule
  obtain ⟨s, -, hpursues⟩ := hprogress.exists_search hentry
  rw [alone]
  exact hpursues.remains.received_prefix hurl

theorem map_server_eq {fs : List Found}
    (h : List.Forall₂ (fun entry f => f.server = entry.1) servers fs) :
    fs.map (·.server) = servers.map (·.1) := by
  induction h with
  | nil => rfl
  | cons hserver _ ih => rw [List.map_cons, List.map_cons, hserver, ih]

/-- Each server that is found has a name of its own. -/
theorem nodup_server {fs : List Found} (hservers : servers.Ascending)
    (h : List.Forall₂ (Agrees answer fuel start hosts) servers fs) :
    (fs.map (·.server)).Nodup := by
  rw [map_server_eq (h.imp fun _ _ hagrees => hagrees.server)]
  exact hservers.nodup

end

/-- **Discovery.** Servers of their own are searched side by side, in any order of their answers. If
all are found, each of them has what it has alone: the tools are those of its pages, in the order of
the servers and of the pages, each is called through the client that listed it, and the server has
received what it receives alone. A failure is that of a server that fails alone, and then no tools
are found. No server receives more than it receives alone. If the schedule suffices, the servers are
found if and only if each of them is complete alone, and discovery fails if and only if one of them
fails alone. -/
theorem run_of_hosts
    (answer : Url → Http.Request → σ → Except Http.Trouble Http.Response × σ) (fuel : Nat)
    {servers : Table String} (hservers : servers.Ascending) (hdistinct : Distinct servers)
    (schedule : List Nat) (hosts : Url → Host σ) :
    let net := Network.ofHosts answer
    let discovery := run net schedule fuel servers hosts
    (∀ fs, discovery.1 = .found fs →
      List.Forall₂ (Agrees answer fuel hosts discovery.2) servers fs ∧
      (∃ pages, List.Forall₂ (Has answer fuel hosts) servers pages ∧
        tools net fs = (List.zipWith (fun entry ps => ps.flatMap fun p =>
          p.definitions.map (remoteTool net entry.1)) servers pages).flatten) ∧
      ∀ f ∈ fs, ∀ d call w, ((remoteTool net f.server d).run call (withClients fs w)).1 =
        ((f.client.call call.name call.arguments).run net w.outside).1.1.bind
          (·.observe call.name)) ∧
    (∀ e, discovery.1 = .failed e →
      ∃ entry ∈ servers, (alone answer fuel hosts entry).1.1 = .failed e) ∧
    (∀ entry ∈ servers, ∀ url, addressOf? entry.2 = some url →
      (discovery.2 url).received <+: ((alone answer fuel hosts entry).2 url).received) ∧
    (Suffices schedule fuel servers →
      ((∃ fs, discovery.1 = .found fs) ↔ ∀ entry ∈ servers, ∃ definitions,
        (alone answer fuel hosts entry).1.1 = .complete definitions) ∧
      ((∃ e, discovery.1 = .failed e) ↔ ∃ entry ∈ servers, ∃ e,
        (alone answer fuel hosts entry).1.1 = .failed e)) := by
  intro net discovery
  refine ⟨fun fs h => ?_, fun e h => exists_alone_of_run hdistinct h,
    fun entry hentry url hurl => received_prefix hdistinct schedule hentry hurl,
    fun hsuffices => ⟨exists_found_iff hdistinct hsuffices, exists_failed_iff hdistinct hsuffices⟩⟩
  have hagrees := agrees_of_run hdistinct h
  exact ⟨hagrees, exists_tools_eq net hagrees, fun f hf d call w =>
    run_remoteTool net w (nodup_server hservers hagrees) hf d call⟩

/-- Hosts that answer with one text after another. -/
def recite : Url → Http.Request → List String → Except Http.Trouble Http.Response × List String
  | _, _, [] => (.error .unreachable, [])
  | _, _, text :: texts => (.ok ⟨200, [], text.toList.map Char.toNat, none, none⟩, texts)

/-- Two servers that each have a tool, and answer by turns. -/
theorem run_of_hosts_pair :
    let servers := [("first", "http://a/"), ("second", "http://b/")]
    let hosts : Url → Host (List String) := fun _ =>
      ⟨["\x7b\"id\":1\x7d", "",
        "\x7b\"id\":2,\"result\":\x7b\"tools\":[\x7b\"name\":\"x\"\x7d]\x7d\x7d"], []⟩
    let fs : List Found :=
      [⟨"first", [⟨"x", none, Definition.anyObject⟩], ⟨"first", "http://a/", 3, none⟩⟩,
        ⟨"second", [⟨"x", none, Definition.anyObject⟩], ⟨"second", "http://b/", 3, none⟩⟩]
    let discovery := run (.ofHosts recite) [0, 1, 1, 0, 1, 0] 1 servers hosts
    Table.Ascending servers ∧ Distinct servers ∧ discovery.1 = .found fs ∧
      List.Forall₂ (Agrees recite 1 hosts discovery.2) servers fs := by
  intro servers hosts fs discovery
  have hservers : Table.Ascending servers := by
    unfold Table.Ascending
    decide
  have hdistinct : Distinct servers := by
    have hne : addressOf? "http://a/" ≠ addressOf? "http://b/" := by decide +kernel
    refine .cons ?_ (List.pairwise_singleton _ _)
    rintro _ hmem url ha hb
    obtain rfl := List.mem_singleton.mp hmem
    exact hne (ha.trans hb.symm)
  have hfound : discovery.1 = .found fs := by decide +kernel
  exact ⟨hservers, hdistinct, hfound,
    ((run_of_hosts recite 1 hservers hdistinct [0, 1, 1, 0, 1, 0] hosts).1 fs hfound).1⟩

/-- Two names of one server, which has answers for one session only. Either name is complete alone,
and yet both together are not found, with a failure that neither has alone. -/
theorem not_run_of_one_host :
    let servers := [("first", "http://a/"), ("second", "http://a/")]
    let hosts : Url → Host (List String) := fun _ =>
      ⟨["\x7b\"id\":1\x7d", "",
        "\x7b\"id\":2,\"result\":\x7b\"tools\":[\x7b\"name\":\"x\"\x7d]\x7d\x7d"], []⟩
    let schedule := oneByOne 1 2
    Table.Ascending servers ∧ ¬ Distinct servers ∧ Suffices schedule 1 servers ∧
      (∀ entry ∈ servers, ∃ definitions,
        (alone recite 1 hosts entry).1.1 = .complete definitions) ∧
      ∃ e, (run (.ofHosts recite) schedule 1 servers hosts).1 = .failed e ∧
        ∀ entry ∈ servers, (alone recite 1 hosts entry).1.1 ≠ .failed e := by
  intro servers hosts schedule
  have hservers : Table.Ascending servers := by
    unfold Table.Ascending
    decide
  have hone : ¬ Distinct servers := by
    intro hdistinct
    obtain ⟨url, hurl⟩ : ∃ url, addressOf? "http://a/" = some url :=
      Option.isSome_iff_exists.mp (by decide +kernel)
    exact (List.pairwise_cons.mp hdistinct).1 _ (List.mem_singleton_self _) url hurl hurl
  have hsuffices : Suffices schedule 1 servers := by
    unfold Suffices
    decide
  have halone : ∀ entry ∈ servers, (alone recite 1 hosts entry).1.1 =
      .complete [⟨"x", none, Definition.anyObject⟩] := by
    decide +kernel
  have hrun : (run (.ofHosts recite) schedule 1 servers hosts).1 = .failed
      (.toolServer "second: initialize failed: error sending request for url (http://a/)") := by
    decide +kernel
  exact ⟨hservers, hone, hsuffices, fun entry hentry => ⟨_, halone entry hentry⟩, _, hrun,
    fun entry hentry h => nomatch (halone entry hentry).symm.trans h⟩

end Discovery

end Dialogue.ToolServer
