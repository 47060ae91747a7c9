import Dialogue.Proofs.Number.Count
import Dialogue.Proofs.Settings.Entries

/-!
# The rules of settings

Settings are read if every rule for the variables holds, and else the first rule that is broken is
reported with the name of a variable that breaks it. `Rule.Holds` and `Rule.Broken` say what a rule
asks for and how its breach is worded, and `SetBy` what the settings are taken from; neither of them
speaks of the way in which settings are read.

Main statement: `ofVariables_rules`. Its step is `Checks.bind`: a check and then others.
-/

namespace Dialogue.Settings

/-- A rule for one variable, or for all variables of tool servers. -/
inductive Rule where
  | servers
  | atLeast (characters : Nat) (name : String)
  | switch (name : String)
  | count (name : String)

/-- The rules, in the order in which a breach is reported. -/
def rules : List Rule :=
  [.servers, .atLeast 2 "ENVIRONMENT", .switch "DEBUG", .atLeast 10 "AZURE_OPENAI_ENDPOINT",
    .atLeast 2 "AZURE_OPENAI_DEPLOYMENT", .atLeast 2 "AZURE_OPENAI_API_VERSION",
    .count "AGENT_MAX_ITERATIONS", .count "AGENT_MODEL_TIMEOUT_SECS"]

/-- The words that switch something on, in small letters. -/
def onWords : List String := ["1", "true", "yes", "on"]

/-- The words that switch something off. -/
def offWords : List String := ["0", "false", "no", "off"]

namespace Rule

/-- What a rule asks for. What need not be set may be missing or blank. -/
def Holds (entries : List (String × String)) : Rule → Prop
  | servers => ∀ server value, last? entries (serverMark ++ server) = some value →
      server ≠ "" ∧ Text.trimmed value ≠ ""
  | atLeast n name => ∃ v, given? entries name = some v ∧ n ≤ v.length
  | switch name => ∀ v, given? entries name = some v → Variables.fold v ∈ onWords ++ offWords
  | count name => ∀ v, given? entries name = some v → ∃ n, WritesCount v.toList n

/-- How a breach of a rule is reported. The name of a variable comes first. -/
inductive Broken (entries : List (String × String)) : Rule → (detail : String) → Prop where
  | server {server value : String} : last? entries (serverMark ++ server) = some value →
      server = "" ∨ Text.trimmed value = "" →
      Broken entries servers
        (Variables.capitals (serverMark ++ server) ++ " needs a server name and a URL")
  | unset {n : Nat} {name : String} : given? entries name = none →
      Broken entries (atLeast n name) (name ++ " is required")
  | short {n : Nat} {name v : String} : given? entries name = some v → v.length < n →
      Broken entries (atLeast n name)
        (name ++ " must be at least " ++ toString n ++ " characters")
  | switch {name v : String} : given? entries name = some v →
      Variables.fold v ∉ onWords ++ offWords →
      Broken entries (switch name) (name ++ " must be a boolean, got '" ++ v ++ "'")
  | count {name v : String} : given? entries name = some v → (∀ n, ¬ WritesCount v.toList n) →
      Broken entries (count name) (name ++ " must be a non-negative integer, got '" ++ v ++ "'")

variable {entries : List (String × String)} {r : Rule} {detail : String}

/-- What is reported as broken does not hold. -/
theorem Broken.not_holds (h : r.Broken entries detail) : ¬ r.Holds entries := by
  cases h with
  | server hvalue hbad =>
    intro hholds
    obtain ⟨hserver, hurl⟩ := hholds _ _ hvalue
    exact hbad.elim hserver hurl
  | unset hnone =>
    rintro ⟨v, hv, -⟩
    cases hnone.symm.trans hv
  | short hv hlt =>
    rintro ⟨v', hv', hle⟩
    obtain rfl := Option.some.inj (hv.symm.trans hv')
    omega
  | switch hv hword => exact fun hholds => hword (hholds _ hv)
  | count hv hno =>
    intro hholds
    obtain ⟨n, hn⟩ := hholds _ hv
    exact hno n hn

end Rule

/-- What settings are taken from, field by field. -/
structure SetBy (entries : List (String × String)) (s : Settings) : Prop where
  environment : given? entries "ENVIRONMENT" = some s.environment
  debug : s.debug = true ↔ ∃ v, given? entries "DEBUG" = some v ∧ Variables.fold v ∈ onWords
  endpoint : given? entries "AZURE_OPENAI_ENDPOINT" = some s.service.endpoint
  deployment : given? entries "AZURE_OPENAI_DEPLOYMENT" = some s.service.deployment
  apiVersion : given? entries "AZURE_OPENAI_API_VERSION" = some s.service.apiVersion
  apiKey : given? entries "AZURE_OPENAI_API_KEY" = s.service.apiKey
  token : given? entries "AZURE_OPENAI_AD_TOKEN" = s.service.token
  instructions : given? entries "AGENT_SYSTEM_PROMPT" = s.instructions
  /-- The tool servers have the names after the mark, in small letters, and trimmed addresses. -/
  servers : s.toolServers.Ascending ∧ ∀ server url, (server, url) ∈ s.toolServers ↔
    ∃ value, last? entries (serverMark ++ server) = some value ∧ url = Text.trimmed value
  /-- Zero stands for no limit. -/
  limit : (given? entries "AGENT_MAX_ITERATIONS" = none ∧ s.limit = some defaultLimit) ∨
    ∃ v n, given? entries "AGENT_MAX_ITERATIONS" = some v ∧ WritesCount v.toList n ∧
      s.limit = if n = 0 then none else some n
  /-- Zero stands for as long as it takes. -/
  patience : (given? entries "AGENT_MODEL_TIMEOUT_SECS" = none ∧ s.patience = none) ∨
    ∃ v n, given? entries "AGENT_MODEL_TIMEOUT_SECS" = some v ∧ WritesCount v.toList n ∧
      s.patience = if n = 0 then none else some (Time.Span.ofSeconds n)

/-! ## Checks one after another -/

variable {entries : List (String × String)} {α β : Type}

/-- A reading checks rules one after another: if all of them hold it gives a value that fits, and
else it reports the first that is broken. -/
def Checks (entries : List (String × String)) (rs : List Rule) (x : Except Failure α)
    (Fits : α → Prop) : Prop :=
  (∃ a, x = .ok a ∧ (∀ r ∈ rs, r.Holds entries) ∧ Fits a) ∨
    ∃ before r after detail, rs = before ++ r :: after ∧ (∀ q ∈ before, q.Holds entries) ∧
      r.Broken entries detail ∧ x = .error (.badSettings detail)

theorem checks_ok {a : α} {Fits : α → Prop} (h : Fits a) : Checks entries [] (.ok a) Fits :=
  .inl ⟨a, rfl, List.forall_mem_nil _, h⟩

/-- A check that holds. -/
theorem Checks.holds {r : Rule} {a : α} {Fits : α → Prop} (h : r.Holds entries) (ha : Fits a) :
    Checks entries [r] (.ok a) Fits :=
  .inl ⟨a, rfl, List.forall_mem_singleton.mpr h, ha⟩

/-- A check that does not. -/
theorem Checks.broken {r : Rule} {detail : String} {Fits : α → Prop}
    (h : r.Broken entries detail) : Checks entries [r] (Settings.broken detail) Fits :=
  .inr ⟨[], r, [], detail, rfl, List.forall_mem_nil _, h, rfl⟩

/-- **A check and then others.** -/
theorem Checks.bind {r : Rule} {rs : List Rule} {x : Except Failure α} {f : α → Except Failure β}
    {Fits : α → Prop} {Fits' : β → Prop} (hx : Checks entries [r] x Fits)
    (hf : ∀ a, Fits a → Checks entries rs (f a) Fits') :
    Checks entries (r :: rs) (x >>= f) Fits' := by
  rcases hx with ⟨a, rfl, hr, ha⟩ | ⟨before, q, after, detail, hsplit, hbefore, hq, rfl⟩
  · rw [List.forall_mem_singleton] at hr
    rcases hf a ha with ⟨b, hb, hrs, hfits⟩ | ⟨before, q, after, detail, rfl, hbefore, hq, herror⟩
    · exact .inl ⟨b, hb, List.forall_mem_cons.mpr ⟨hr, hrs⟩, hfits⟩
    · exact .inr ⟨r :: before, q, after, detail, rfl, List.forall_mem_cons.mpr ⟨hr, hbefore⟩, hq,
        herror⟩
  · obtain ⟨rfl, rfl, rfl⟩ : before = [] ∧ q = r ∧ after = [] := by
      simpa [List.singleton_eq_append_iff] using hsplit
    exact .inr ⟨[], q, rs, detail, rfl, hbefore, hq, rfl⟩

/-! ## The checks of settings -/

theorem checks_readServers (entries : List (String × String)) :
    Checks entries [.servers] (readServers (.ofList entries)) fun servers =>
      servers.Ascending ∧ ∀ server url, (server, url) ∈ servers ↔
        ∃ value, last? entries (serverMark ++ server) = some value ∧ url = Text.trimmed value := by
  rcases readServers_cases (.ofList entries) with
    ⟨hfine, hread⟩ | ⟨⟨name, value⟩, hmem, ⟨server, rfl, hbad⟩, hread⟩
  · rw [hread]
    refine .holds (fun server value hvalue => ?_)
      ⟨ascending_servers (Table.ascending_ofList _), fun server url => mem_servers_iff⟩
    have hgood := hfine _ (mem_ofList_iff.mpr hvalue)
    exact ⟨fun h => hgood ⟨server, rfl, .inl h⟩, fun h => hgood ⟨server, rfl, .inr h⟩⟩
  · rw [hread]
    exact .broken (.server (mem_ofList_iff.mp hmem) hbad)

theorem checks_required (entries : List (String × String)) (name : String) (least : Nat) :
    Checks entries [.atLeast least name] (required (.ofList entries) name least)
      (given? entries name = some ·) := by
  rw [required, value?_ofList]
  rcases hv : given? entries name with _ | v
  · exact .broken (.unset hv)
  · dsimp only
    split
    · next hshort => exact .broken (.short hv hshort)
    · next hlong => exact .holds ⟨v, hv, Nat.le_of_not_lt hlong⟩ rfl

/-- A word is read as the switch that it stands for. -/
theorem readSwitch_cases (word : String) :
    (readSwitch word = none ∧ Variables.fold word ∉ onWords ++ offWords) ∨
      ∃ b, readSwitch word = some b ∧ Variables.fold word ∈ onWords ++ offWords ∧
        (b = true ↔ Variables.fold word ∈ onWords) := by
  rw [List.mem_append]
  by_cases hon : Variables.fold word ∈ onWords
  · exact .inr ⟨true, if_pos hon, .inl hon, iff_of_true rfl hon⟩
  · by_cases hoff : Variables.fold word ∈ offWords
    · exact .inr ⟨false, (if_neg hon).trans (if_pos hoff), .inr hoff,
        iff_of_false Bool.false_ne_true hon⟩
    · exact .inl ⟨(if_neg hon).trans (if_neg hoff), not_or.mpr ⟨hon, hoff⟩⟩

theorem checks_switch (entries : List (String × String)) (name : String) :
    Checks entries [.switch name] (switch (.ofList entries) name) fun b =>
      b = true ↔ ∃ v, given? entries name = some v ∧ Variables.fold v ∈ onWords := by
  rw [switch, value?_ofList]
  rcases hv : given? entries name with _ | v
  · refine .holds (fun v hv' => ?_) (iff_of_false Bool.false_ne_true nofun)
    cases hv.symm.trans hv'
  · dsimp only
    rcases readSwitch_cases v with ⟨hread, hno⟩ | ⟨b, hread, hword, hb⟩
    · rw [hread]
      exact .broken (.switch hv hno)
    · rw [hread]
      refine .holds (fun v' hv' => ?_) (by simpa using hb)
      obtain rfl := Option.some.inj (hv.symm.trans hv')
      exact hword

theorem checks_count (entries : List (String × String)) (name : String) :
    Checks entries [.count name] (count (.ofList entries) name) fun n? =>
      (given? entries name = none ∧ n? = none) ∨
        ∃ v n, given? entries name = some v ∧ WritesCount v.toList n ∧ n? = some n := by
  rw [count, value?_ofList]
  rcases hv : given? entries name with _ | v
  · refine .holds (fun v hv' => ?_) (.inl ⟨rfl, rfl⟩)
    cases hv.symm.trans hv'
  · dsimp only
    rcases hread : readCount v.toList with _ | n
    · refine .broken (.count hv fun n hn => ?_)
      cases hread.symm.trans (readCount_eq_some_iff.mpr hn)
    · have hn := readCount_eq_some_iff.mp hread
      refine .holds (fun v' hv' => ?_) (.inr ⟨v, n, rfl, hn, rfl⟩)
      obtain rfl := Option.some.inj (hv.symm.trans hv')
      exact ⟨n, hn⟩

/-! ## Settings -/

theorem checks_ofVariables (entries : List (String × String)) :
    Checks entries rules (ofVariables entries) (SetBy entries) := by
  refine (checks_readServers entries).bind fun servers hservers => ?_
  refine (checks_required entries _ _).bind fun environment henvironment => ?_
  refine (checks_switch entries _).bind fun debug hdebug => ?_
  refine (checks_required entries _ _).bind fun endpoint hendpoint => ?_
  refine (checks_required entries _ _).bind fun deployment hdeployment => ?_
  refine (checks_required entries _ _).bind fun apiVersion hapiVersion => ?_
  refine (checks_count entries _).bind fun iterations hiterations => ?_
  refine (checks_count entries _).bind fun seconds hseconds => checks_ok ?_
  refine {
    environment := henvironment, debug := hdebug, endpoint := hendpoint
    deployment := hdeployment, apiVersion := hapiVersion, servers := hservers
    apiKey := (value?_ofList ..).symm, token := (value?_ofList ..).symm
    instructions := (value?_ofList ..).symm, limit := ?_, patience := ?_ }
  · rcases hiterations with ⟨hnone, rfl⟩ | ⟨v, n, hv, hn, rfl⟩
    · exact .inl ⟨hnone, rfl⟩
    · exact .inr ⟨v, n, hv, hn, rfl⟩
  · rcases hseconds with ⟨hnone, rfl⟩ | ⟨v, n, hv, hn, rfl⟩
    · exact .inl ⟨hnone, rfl⟩
    · refine .inr ⟨v, n, hv, hn, ?_⟩
      by_cases h : n = 0 <;> simp [unlessZero, h]

namespace SetBy

variable {s : Settings}

/-- A limit of settings is not zero. -/
theorem limit_ne_zero (h : SetBy entries s) : s.limit ≠ some 0 := by
  rcases h.limit with ⟨-, hs⟩ | ⟨v, n, -, -, hs⟩ <;> rw [hs]
  · decide
  · split
    · nofun
    · next hn => exact fun heq => hn (Option.some.inj heq)

/-- If the backend has a time in settings, then it is not zero. -/
theorem patience_ne_zero (h : SetBy entries s) : s.patience ≠ some (.ofSeconds 0) := by
  rcases h.patience with ⟨-, hs⟩ | ⟨v, n, -, -, hs⟩ <;> rw [hs]
  · nofun
  · split
    · nofun
    · next hn =>
      simp only [Time.Span.ofSeconds, ne_eq, Option.some.injEq, Time.Span.mk.injEq]
      omega

/-- Texts of settings that need not be set are not blank if they are. -/
theorem exists_not_blank (h : SetBy entries s) {o : Option String} {v : String}
    (ho : o ∈ [s.service.apiKey, s.service.token, s.instructions]) (hv : o = some v) :
    ∃ c ∈ v.toList, Text.isBlank c = false := by
  subst hv
  simp only [List.mem_cons, List.not_mem_nil, or_false] at ho
  rcases ho with ho | ho | ho
  · exact Settings.exists_not_blank (h.apiKey.trans ho.symm)
  · exact Settings.exists_not_blank (h.token.trans ho.symm)
  · exact Settings.exists_not_blank (h.instructions.trans ho.symm)

end SetBy

/-- **Settings are read exactly if every rule holds.** What is read is what the entries set, with
neither a limit nor a time of zero and without blank texts. What is reported is the first rule that
does not hold. -/
theorem ofVariables_rules (entries : List (String × String)) :
    ((∃ s, ofVariables entries = .ok s) ↔ ∀ r ∈ rules, r.Holds entries) ∧
    (∀ s, ofVariables entries = .ok s → SetBy entries s ∧ s.limit ≠ some 0 ∧
      s.patience ≠ some (.ofSeconds 0) ∧
      ∀ v, some v ∈ [s.service.apiKey, s.service.token, s.instructions] →
        ∃ c ∈ v.toList, Text.isBlank c = false) ∧
    ∀ e, ofVariables entries = .error e → ∃ before r after detail,
      rules = before ++ r :: after ∧ (∀ q ∈ before, q.Holds entries) ∧ ¬ r.Holds entries ∧
        r.Broken entries detail ∧ e = .badSettings detail := by
  rcases checks_ofVariables entries with
    ⟨s, hs, hholds, hset⟩ | ⟨before, r, after, detail, hsplit, hbefore, hbroken, herror⟩
  · rw [hs]
    refine ⟨iff_of_true ⟨s, rfl⟩ hholds, ?_, nofun⟩
    rintro _ ⟨⟩
    exact ⟨hset, hset.limit_ne_zero, hset.patience_ne_zero,
      fun v hv => hset.exists_not_blank hv rfl⟩
  · rw [herror]
    refine ⟨iff_of_false nofun fun hholds => ?_, nofun, ?_⟩
    · exact hbroken.not_holds (hholds r (by simp [hsplit]))
    · rintro _ ⟨⟩
      exact ⟨before, r, after, detail, hsplit, hbefore, hbroken.not_holds, hbroken, rfl⟩

end Dialogue.Settings
