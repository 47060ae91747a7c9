import Dialogue.Azure.Credential
import Mathlib.Data.List.Induction

/-!
# Which tokens are kept

A store is asked for tokens, for any scopes, at any instants and whatever the command line tool
answers. The tool is made to record its runs, so that what is kept can be said in terms of what was
fetched: for every scope, the store keeps the token that was fetched for it last (`Faithful`). A
failure keeps nothing and drops nothing, and a new token is kept even if it is about to expire.

Main statement: `TokenStore.token_of_history`. Its parts are `token_recorded` (recording changes
nothing), `Faithful.ask` (what one call preserves) and `faithful_history` (what holds after every
sequence of calls).
-/

namespace Dialogue.Azure

variable {σ : Type} {az : Command σ} {zone : Time.Zone} {now : Time.Instant} {scope : String}

/-! ## Fresh tokens -/

namespace AccessToken

/-- The expiry lies late enough for there to be an instant that is the margin before it. -/
def Refreshable (t : AccessToken) : Prop :=
  (t.expiresOn.earlier? refreshMargin).isSome = true

/-- The instant that is the margin before the expiry is still to come. -/
def Fresh (t : AccessToken) (now : Time.Instant) : Prop :=
  ∃ limit, t.expiresOn.earlier? refreshMargin = some limit ∧ limit.le now = false

/-- A fresh token expires more than five minutes later. -/
theorem Fresh.lt_expiresOn {t : AccessToken} (h : t.Fresh now) (hnow : now.nanos < 1000000000) :
    (now.seconds + 300) * 1000000000 + now.nanos <
      t.expiresOn.seconds * 1000000000 + t.expiresOn.nanos := by
  obtain ⟨limit, hlimit, hle⟩ := h
  -- The way back from within a leap second starts in the second after it.
  have htotal : limit.seconds * 1000000000 + limit.nanos =
      (t.expiresOn.seconds - 300) * 1000000000 + t.expiresOn.nanos := by
    unfold Time.Instant.earlier? refreshMargin at hlimit
    split at hlimit
    · obtain ⟨hseconds, hnanos⟩ := Time.Instant.make?_eq_some_iff.mp hlimit
      omega
    · rw [if_neg (by decide), if_pos (by decide)] at hlimit
      obtain ⟨hseconds, hnanos⟩ := Time.Instant.make?_eq_some_iff.mp hlimit
      omega
  simp only [Time.Instant.le, Bool.or_eq_false_iff, decide_eq_false_iff_not, Bool.and_eq_false_iff,
    beq_eq_false_iff_ne] at hle
  omega

end AccessToken

/-! ## What the tool gives -/

/-- Whatever comes of running the tool, a failure is one of authorization. -/
theorem exists_unauthorized {outcome : CommandOutcome} {e : Failure}
    (h : tokenOf zone outcome = .error e) : ∃ reason, e = .unauthorized reason := by
  unfold tokenOf at h
  split at h
  · exact ⟨_, (Except.error.inj h).symm⟩
  · unfold readToken at h
    split at h
    · exact ⟨_, (Except.error.inj h).symm⟩
    · split at h
      · exact ⟨_, (Except.error.inj h).symm⟩
      · cases h
  · exact ⟨_, (Except.error.inj h).symm⟩

/-- The arguments tell the scope. -/
theorem tokenArguments_inj {other : String} :
    tokenArguments scope = tokenArguments other ↔ scope = other := by
  simp [tokenArguments]

/-- What a command was run with, each time with what came of it. -/
abbrev Record := List (List String × CommandOutcome)

/-- The command that records its runs. -/
def Command.recorded (az : Command σ) : Command (Record × σ) := fun arguments w =>
  ((az arguments w.2).1, w.1 ++ [(arguments, (az arguments w.2).1)], (az arguments w.2).2)

/-- The tokens that were fetched for a scope, in the order in which they were. -/
def fetchedFor (zone : Time.Zone) (scope : String) (record : Record) : List AccessToken :=
  record.filterMap fun x =>
    if x.1 = tokenArguments scope then (tokenOf zone x.2).toOption else none

section

variable {record : Record} {outcome : CommandOutcome} {t : AccessToken} {e : Failure}

theorem mem_fetchedFor_iff :
    t ∈ fetchedFor zone scope record ↔
      ∃ outcome, (tokenArguments scope, outcome) ∈ record ∧ tokenOf zone outcome = .ok t := by
  unfold fetchedFor
  rw [List.mem_filterMap]
  constructor
  · rintro ⟨⟨arguments, outcome⟩, hrun, hfetch⟩
    split at hfetch
    · next harguments =>
      obtain rfl : arguments = tokenArguments scope := harguments
      rcases hof : tokenOf zone outcome with e | t'
      · rw [hof] at hfetch
        cases hfetch
      · rw [hof] at hfetch
        obtain rfl : t' = t := Option.some.inj hfetch
        exact ⟨outcome, hrun, hof⟩
    · cases hfetch
  · rintro ⟨outcome, hrun, hfetch⟩
    exact ⟨_, hrun, by simp [hfetch, Except.toOption]⟩

theorem fetchedFor_snoc_ok (h : tokenOf zone outcome = .ok t) :
    fetchedFor zone scope (record ++ [(tokenArguments scope, outcome)]) =
      fetchedFor zone scope record ++ [t] := by
  simp [fetchedFor, h, Except.toOption]

theorem fetchedFor_snoc_error (h : tokenOf zone outcome = .error e) (arguments : List String) :
    fetchedFor zone scope (record ++ [(arguments, outcome)]) =
      fetchedFor zone scope record := by
  simp [fetchedFor, h, Except.toOption]

theorem fetchedFor_snoc_of_ne {other : String} (h : other ≠ scope) :
    fetchedFor zone other (record ++ [(tokenArguments scope, outcome)]) =
      fetchedFor zone other record := by
  simp [fetchedFor, tokenArguments_inj, h.symm]

end

namespace TokenStore

/-! ## One call -/

section

variable {store : TokenStore} {w : σ} {t : AccessToken} {e : Failure}

theorem kept_of_fresh (h : Table.lookup scope store = some t) (hfresh : t.Fresh now) :
    kept store scope now = .fresh t := by
  obtain ⟨limit, hlimit, hle⟩ := hfresh
  simp only [kept, h, AccessToken.expiresWithin?, hlimit, Option.map_some, hle]

theorem kept_of_not_fresh
    (hrefreshable : ∀ t, Table.lookup scope store = some t → t.Refreshable)
    (h : ¬ ∃ t, Table.lookup scope store = some t ∧ t.Fresh now) :
    kept store scope now = .stale := by
  rcases hlookup : Table.lookup scope store with _ | t
  · simp only [kept, hlookup]
  · obtain ⟨limit, hlimit⟩ := Option.isSome_iff_exists.mp (hrefreshable t hlookup)
    have hle : limit.le now = true :=
      Bool.of_not_eq_false fun hfalse => h ⟨t, hlookup, limit, hlimit, hfalse⟩
    simp only [kept, hlookup, AccessToken.expiresWithin?, hlimit, Option.map_some, hle]

/-- A fresh token is given, and the tool is not run. -/
theorem token_of_fresh (h : kept store scope now = .fresh t) :
    token store az zone now scope w = (.token t, store, w) := by
  simp only [token, h]

/-- A scope with a NUL cannot be asked for. -/
theorem token_of_nul (h : kept store scope now = .stale) (hnul : '\x00' ∈ scope.toList) :
    token store az zone now scope w = (.failed scopeWithNul, store, w) := by
  simp only [token, h, List.contains_iff_mem.mpr hnul, if_true]

/-- The tool gives a token: it is kept. -/
theorem token_of_ok (h : kept store scope now = .stale) (hnul : '\x00' ∉ scope.toList)
    (ht : tokenOf zone (az (tokenArguments scope) w).1 = .ok t) :
    token store az zone now scope w =
      (.token t, Table.insert scope t store, (az (tokenArguments scope) w).2) := by
  have hcontains : ¬ scope.toList.contains '\x00' = true := fun hc =>
    hnul (List.contains_iff_mem.mp hc)
  simp only [token, h, if_neg hcontains, ht]

/-- The tool fails: the store stays as it was. -/
theorem token_of_error (h : kept store scope now = .stale) (hnul : '\x00' ∉ scope.toList)
    (he : tokenOf zone (az (tokenArguments scope) w).1 = .error e) :
    token store az zone now scope w = (.failed e, store, (az (tokenArguments scope) w).2) := by
  have hcontains : ¬ scope.toList.contains '\x00' = true := fun hc =>
    hnul (List.contains_iff_mem.mp hc)
  simp only [token, h, if_neg hcontains, he]

/-- Recording the runs of the tool changes nothing. -/
theorem token_recorded (az : Command σ) (zone : Time.Zone) (now : Time.Instant) (scope : String)
    (store : TokenStore) (record : Record) (w : σ) :
    let x := token store az.recorded zone now scope (record, w)
    token store az zone now scope w = (x.1, x.2.1, x.2.2.2) := by
  rcases hkept : kept store scope now with t | _ | _
  · simp only [token, hkept]
  · by_cases hnul : scope.toList.contains '\x00' = true
    · simp only [token, hkept, if_pos hnul]
    · rcases hfetch : tokenOf zone (az (tokenArguments scope) w).1 with e | t
      all_goals simp only [token, hkept, if_neg hnul, Command.recorded, hfetch]
  · simp only [token, hkept]

end

/-! ## Calls one after another -/

/-- A call: a scope, and the instant at which a token for it is asked for. -/
structure Ask where
  scope : String
  now : Time.Instant

/-- A store, what the tool has recorded, and the world. -/
abbrev State (σ : Type) := TokenStore × Record × σ

/-- A call in a state: what it gives, and the state that it leaves. -/
def ask (az : Command σ) (zone : Time.Zone) (x : Ask) (s : State σ) : TokenOutcome × State σ :=
  token s.1 az.recorded zone x.now x.scope s.2

/-- The state after calls, from an empty store on. -/
def history (az : Command σ) (zone : Time.Zone) (asks : List Ask) (w : σ) : State σ :=
  asks.foldl (fun s x => (ask az zone x s).2) ([], [], w)

@[simp]
theorem history_nil (w : σ) : history az zone [] w = ([], [], w) :=
  rfl

theorem history_snoc (asks : List Ask) (x : Ask) (w : σ) :
    history az zone (asks ++ [x]) w = (ask az zone x (history az zone asks w)).2 := by
  rw [history, List.foldl_append, List.foldl_cons, List.foldl_nil, history]

/-- For every scope, the store keeps the token that was fetched for it last. -/
structure Faithful (zone : Time.Zone) (s : State σ) : Prop where
  lookup : ∀ scope, Table.lookup scope s.1 = (fetchedFor zone scope s.2.1).getLast?
  refreshable : ∀ scope t, Table.lookup scope s.1 = some t → t.Refreshable

/-- Every token that the tool gives is refreshable. -/
def Issues (az : Command σ) (zone : Time.Zone) : Prop :=
  ∀ arguments w t, tokenOf zone (az arguments w).1 = .ok t → t.Refreshable

/-- What a call gives in a state, and the state that it leaves: the token that is kept, if it is
fresh, and otherwise what the tool gives, which is run unless the scope holds a NUL. -/
inductive Gives (az : Command σ) (zone : Time.Zone) (x : Ask) (s : State σ) :
    TokenOutcome → State σ → Prop where
  | kept {t : AccessToken} : Table.lookup x.scope s.1 = some t → t.Fresh x.now →
      Gives az zone x s (.token t) s
  | refused : (∀ t, Table.lookup x.scope s.1 = some t → ¬ t.Fresh x.now) →
      '\x00' ∈ x.scope.toList → Gives az zone x s (.failed scopeWithNul) s
  | fetched {outcome : CommandOutcome} {w : σ} {t : AccessToken} :
      (∀ t, Table.lookup x.scope s.1 = some t → ¬ t.Fresh x.now) → '\x00' ∉ x.scope.toList →
      az (tokenArguments x.scope) s.2.2 = (outcome, w) → tokenOf zone outcome = .ok t →
      Gives az zone x s (.token t) (Table.insert x.scope t s.1,
        s.2.1 ++ [(tokenArguments x.scope, outcome)], w)
  | failed {outcome : CommandOutcome} {w : σ} {e : Failure} :
      (∀ t, Table.lookup x.scope s.1 = some t → ¬ t.Fresh x.now) → '\x00' ∉ x.scope.toList →
      az (tokenArguments x.scope) s.2.2 = (outcome, w) → tokenOf zone outcome = .error e →
      Gives az zone x s (.failed e) (s.1, s.2.1 ++ [(tokenArguments x.scope, outcome)], w)

section

variable {s s' : State σ} {x : Ask} {o : TokenOutcome}

/-- Every call gives something, if the tokens that are kept are refreshable. -/
theorem gives_ask (hs : ∀ t, Table.lookup x.scope s.1 = some t → t.Refreshable) :
    Gives az zone x s (ask az zone x s).1 (ask az zone x s).2 := by
  by_cases hfresh : ∃ t, Table.lookup x.scope s.1 = some t ∧ t.Fresh x.now
  · obtain ⟨t, ht, hfresh⟩ := hfresh
    rw [ask, token_of_fresh (kept_of_fresh ht hfresh)]
    exact .kept ht hfresh
  · have hkept : kept s.1 x.scope x.now = .stale := kept_of_not_fresh hs hfresh
    have hstale : ∀ t, Table.lookup x.scope s.1 = some t → ¬ t.Fresh x.now :=
      fun t ht hnow => hfresh ⟨t, ht, hnow⟩
    by_cases hnul : '\x00' ∈ x.scope.toList
    · rw [ask, token_of_nul hkept hnul]
      exact .refused hstale hnul
    · rcases hfetch : tokenOf zone (az.recorded (tokenArguments x.scope) s.2).1 with e | t
      · rw [ask, token_of_error hkept hnul hfetch]
        exact .failed hstale hnul rfl hfetch
      · rw [ask, token_of_ok hkept hnul hfetch]
        exact .fetched hstale hnul rfl hfetch

/-- A call keeps the token that it fetches, and no other. -/
theorem Gives.lookup (h : Gives az zone x s o s')
    (hs : ∀ scope, Table.lookup scope s.1 = (fetchedFor zone scope s.2.1).getLast?)
    (scope : String) : Table.lookup scope s'.1 = (fetchedFor zone scope s'.2.1).getLast? := by
  cases h with
  | kept _ _ => exact hs scope
  | refused _ _ => exact hs scope
  | fetched _ _ _ ht =>
    by_cases hscope : scope = x.scope
    · subst hscope
      rw [Table.lookup_insert_self, fetchedFor_snoc_ok ht, List.getLast?_concat]
    · rw [Table.lookup_insert_of_ne _ _ hscope, fetchedFor_snoc_of_ne hscope]
      exact hs scope
  | failed _ _ _ he =>
    rw [fetchedFor_snoc_error he]
    exact hs scope

/-- **One call.** It leaves the store faithful. -/
theorem Faithful.of_gives (hs : Faithful zone s) (haz : Issues az zone)
    (h : Gives az zone x s o s') : Faithful zone s' := by
  refine ⟨h.lookup hs.lookup, ?_⟩
  cases h with
  | kept _ _ => exact hs.refreshable
  | refused _ _ => exact hs.refreshable
  | @fetched outcome w t _ _ hrun ht =>
    intro scope t' ht'
    by_cases hscope : scope = x.scope
    · subst hscope
      rw [Table.lookup_insert_self, Option.some.injEq] at ht'
      subst ht'
      exact haz (tokenArguments x.scope) s.2.2 t (by rw [hrun, ht])
    · rw [Table.lookup_insert_of_ne _ _ hscope] at ht'
      exact hs.refreshable scope t' ht'
  | failed _ _ _ _ => exact hs.refreshable

end

/-- **Every sequence of calls** leaves the store faithful. -/
theorem faithful_history (haz : Issues az zone) (asks : List Ask) (w : σ) :
    Faithful zone (history az zone asks w) := by
  -- The induction is on the calls from the last one back.
  induction asks using List.reverseRecOn with
  | nil =>
    refine ⟨fun scope => rfl, fun scope t ht => ?_⟩
    rw [history_nil] at ht
    cases ht
  | append_singleton asks x ih =>
    rw [history_snoc]
    exact ih.of_gives haz (gives_ask (ih.refreshable x.scope))

/-- The tool is run unless the token that is kept is fresh or the scope holds a NUL. -/
theorem Gives.record_eq_iff {s s' : State σ} {x : Ask} {o : TokenOutcome}
    (h : Gives az zone x s o s') :
    s'.2.1 = s.2.1 ↔
      (∃ t, Table.lookup x.scope s.1 = some t ∧ t.Fresh x.now) ∨ '\x00' ∈ x.scope.toList := by
  cases h with
  | kept ht hfresh => exact iff_of_true rfl (.inl ⟨_, ht, hfresh⟩)
  | refused _ hnul => exact iff_of_true rfl (.inr hnul)
  | fetched hstale hnul _ _ =>
    refine iff_of_false (by simp) ?_
    rintro (⟨t, ht, hfresh⟩ | hmem)
    · exact hstale t ht hfresh
    · exact hnul hmem
  | failed hstale hnul _ _ =>
    refine iff_of_false (by simp) ?_
    rintro (⟨t, ht, hfresh⟩ | hmem)
    · exact hstale t ht hfresh
    · exact hnul hmem

/-! ## A tool that gives one token -/

/-- What a tool prints: a token that expires at the start of 2100. -/
def printout : String :=
  "\x7b\"accessToken\": \"t\", \"expires_on\": 4102444800\x7d"

/-- The token in it. -/
def printed : AccessToken :=
  ⟨"t", 4102444800, 0, by decide, .inl (by decide)⟩

/-- A tool that always prints the same. -/
def printing : Command Unit :=
  fun _ w => (.finished 0 (printout.toList.map Char.toNat) [], w)

theorem tokenOf_printing (zone : Time.Zone) (arguments : List String) (w : Unit) :
    tokenOf zone (printing arguments w).1 = .ok printed := by
  have hchars : (printout.toList.map Char.toNat).map Char.ofNat = printout.toList := by
    decide +kernel
  have hparse : Json.parseForm .octets printedForm printout.toList =
      .ok (.obj [("accessToken", .str "t"), ("expires_on", .ofInt 4102444800)]) := by
    decide +kernel
  rw [printing, tokenOf, readToken, hchars, hparse]
  rfl

theorem fresh_printed : printed.Fresh .start :=
  ⟨⟨4102444500, 0, by decide, .inl (by decide)⟩, by decide, by decide⟩

theorem issues_printing (zone : Time.Zone) : Issues printing zone := by
  intro arguments w t ht
  obtain rfl := Except.ok.inj ((tokenOf_printing zone arguments w).symm.trans ht)
  rfl

/-! ## Any call after any others -/

/-- **Tokens are kept for their scopes.** After any calls, at any instants and whatever the tool
answered, a call is answered without running the tool exactly if the token that was fetched last for
its scope is fresh, or if the scope holds a NUL and no command can be run for it. A fresh token is
given as it is; it was fetched for this scope and is good for more than five minutes. Otherwise the
tool is run once. If it gives a token, that token is given and kept for the scope, fresh or not; if
it fails, so does the call, and nothing that is kept changes. -/
theorem token_of_history (haz : Issues az zone) (asks : List Ask) (w : σ) (x : Ask) :
    let s := history az zone asks w
    let last := (fetchedFor zone x.scope s.2.1).getLast?
    ((ask az zone x s).2.2.1 = s.2.1 ↔
      (∃ t, last = some t ∧ t.Fresh x.now) ∨ '\x00' ∈ x.scope.toList) ∧
    (∀ t, last = some t → t.Fresh x.now →
      ask az zone x s = (.token t, s) ∧
      (∃ outcome, (tokenArguments x.scope, outcome) ∈ s.2.1 ∧ tokenOf zone outcome = .ok t) ∧
      (x.now.nanos < 1000000000 → (x.now.seconds + 300) * 1000000000 + x.now.nanos <
        t.expiresOn.seconds * 1000000000 + t.expiresOn.nanos)) ∧
    ((∀ t, last = some t → ¬ t.Fresh x.now) →
      ('\x00' ∈ x.scope.toList → ask az zone x s = (.failed scopeWithNul, s)) ∧
      ('\x00' ∉ x.scope.toList → ∃ outcome w',
        az (tokenArguments x.scope) s.2.2 = (outcome, w') ∧
        (∀ t, tokenOf zone outcome = .ok t → ∃ store,
          ask az zone x s =
            (.token t, store, s.2.1 ++ [(tokenArguments x.scope, outcome)], w') ∧
          Table.lookup x.scope store = some t ∧
          ∀ other, other ≠ x.scope → Table.lookup other store = Table.lookup other s.1) ∧
        ∀ e, tokenOf zone outcome = .error e →
          ask az zone x s =
            (.failed e, s.1, s.2.1 ++ [(tokenArguments x.scope, outcome)], w') ∧
          ∃ reason, e = .unauthorized reason)) := by
  intro s last
  have hs : Faithful zone s := faithful_history haz asks w
  have hlast : Table.lookup x.scope s.1 = last := hs.lookup x.scope
  refine ⟨?_, fun t ht hfresh => ⟨?_, ?_, hfresh.lt_expiresOn⟩, fun hstale => ?_⟩
  · rw [← hlast]
    exact (gives_ask (hs.refreshable x.scope)).record_eq_iff
  · exact token_of_fresh (kept_of_fresh (hlast.trans ht) hfresh)
  · exact mem_fetchedFor_iff.mp (List.mem_of_getLast? ht)
  · have hkept : kept s.1 x.scope x.now = .stale := by
      refine kept_of_not_fresh (hs.refreshable x.scope) ?_
      rintro ⟨t, ht, hfresh⟩
      exact hstale t (hlast.symm.trans ht) hfresh
    refine ⟨fun hnul => token_of_nul hkept hnul, fun hnul => ⟨_, _, rfl, ?_, ?_⟩⟩
    · intro t ht
      refine ⟨_, token_of_ok hkept hnul ht, Table.lookup_insert_self .., ?_⟩
      exact fun other hother => Table.lookup_insert_of_ne _ _ hother
    · intro e he
      exact ⟨token_of_error hkept hnul he, exists_unauthorized he⟩

/-- A token that the tool has given is given again without running it. -/
theorem token_of_history_printing :
    let zone := Time.Zone.fixed 0
    Issues printing zone ∧
    let s := history printing zone [⟨"s", .start⟩] ()
    s.2.1.length = 1 ∧ ask printing zone ⟨"s", .start⟩ s = (.token printed, s) := by
  intro zone
  have haz : Issues printing zone := issues_printing zone
  have hnone : (fetchedFor zone "s" (history printing zone [] ()).2.1).getLast? = none := rfl
  obtain ⟨-, -, hstale⟩ := token_of_history haz [] () ⟨"s", .start⟩
  obtain ⟨outcome, w', hrun, hok, -⟩ :=
    (hstale fun t ht => (nomatch hnone.symm.trans ht)).2 (by decide)
  have hprinted : tokenOf zone outcome = .ok printed := by
    rw [← tokenOf_printing zone (tokenArguments "s") (), hrun]
  obtain ⟨store, hask, -, -⟩ := hok printed hprinted
  have hhistory : history printing zone [⟨"s", .start⟩] () =
      (store, [(tokenArguments "s", outcome)], w') := congrArg Prod.snd hask
  obtain ⟨-, hfresh, -⟩ := token_of_history haz [⟨"s", .start⟩] () ⟨"s", .start⟩
  rw [hhistory] at hfresh ⊢
  have hlast : (fetchedFor zone "s" [(tokenArguments "s", outcome)]).getLast? = some printed := by
    rw [← List.nil_append [_], fetchedFor_snoc_ok hprinted]
    rfl
  exact ⟨haz, rfl, (hfresh printed hlast fresh_printed).1⟩

/-- The tool is not run for a scope that holds a NUL, though no token was ever fetched for it. -/
theorem not_run_of_nul :
    let zone := Time.Zone.fixed 0
    let x : Ask := ⟨"a\x00b", .start⟩
    let s := history printing zone [] ()
    Issues printing zone ∧ ask printing zone x s = (.failed scopeWithNul, s) ∧
      ¬ ((ask printing zone x s).2.2.1 = s.2.1 ↔
        ∃ t, (fetchedFor zone x.scope s.2.1).getLast? = some t ∧ t.Fresh x.now) := by
  intro zone x s
  have hask : ask printing zone x s = (.failed scopeWithNul, s) := token_of_nul rfl (by decide)
  refine ⟨issues_printing zone, hask, fun hiff => ?_⟩
  obtain ⟨t, ht, -⟩ := hiff.mp (by rw [hask])
  cases ht

end TokenStore

end Dialogue.Azure
