import Dialogue.Proofs.Settings.Rules
import Dialogue.Proofs.Text.Utf8
import Mathlib.Data.List.Perm.Basic
import Mathlib.Data.List.Sort

/-!
# What settings depend on

Variables are kept without an order, and tool servers are looked for in whatever order the variables
come. `MayRead` says what may be read in one such order. What is read does not depend on it, and it
depends on no more of the entries than `Alike` compares: what the last entry of each name that
settings are read from says. Only which of several broken variables of tool servers is told may
change with the order.

Main statement: `mayRead_of_alike`. It rests on `Table.ofList_of_perm` (entries with names of their
own make the same table in every order) and `mayRead_cases` (which of the outcomes do not depend on
the order).
-/

namespace Dialogue

/-! ## Tables in any order -/

namespace Table

variable {α : Type} {a b ms entries : Table α}

/-- Tables with the same entries are the same. -/
theorem Ascending.ext (ha : a.Ascending) (hb : b.Ascending)
    (h : ∀ name value, (name, value) ∈ a ↔ (name, value) ∈ b) : a = b := by
  have hperm : a.Perm b := (List.perm_ext_iff_of_nodup ha.nodup.of_map hb.nodup.of_map).mpr
    fun kv => h kv.1 kv.2
  refine hperm.eq_of_pairwise (fun x y _ _ hxy hyx => ?_) (List.pairwise_map.mp ha)
    (List.pairwise_map.mp hb)
  exact absurd (String.lt_trans hxy hyx) (String.lt_irrefl x.1)

/-- Of names that are all different, each is found with its value. -/
theorem mem_ofList_iff_of_nodup (h : (entries.map (·.1)).Nodup) {name : String} {value : α} :
    (name, value) ∈ ofList entries ↔ (name, value) ∈ entries := by
  rw [(ascending_ofList entries).mem_iff_lookup, lookup_ofList, Option.map_eq_some_iff]
  constructor
  · rintro ⟨⟨k, v⟩, hfind, rfl⟩
    obtain rfl : k = name := by simpa using List.find?_some hfind
    exact List.mem_reverse.mp (List.mem_of_find?_eq_some hfind)
  · intro hmem
    have hfound : (entries.reverse.find? (·.1 == name)).isSome := by
      rw [List.find?_isSome]
      exact ⟨(name, value), List.mem_reverse.mpr hmem, beq_self_eq_true name⟩
    -- What is found is an entry of this name, and there is but one.
    obtain ⟨⟨k, v⟩, hfind⟩ := Option.isSome_iff_exists.mp hfound
    obtain rfl : k = name := by simpa using List.find?_some hfind
    have hsame : (k, v) = (k, value) := List.inj_on_of_nodup_map h
      (List.mem_reverse.mp (List.mem_of_find?_eq_some hfind)) hmem rfl
    exact ⟨(k, v), hfind, congrArg Prod.snd hsame⟩

/-- The entries of a table make that table, in whatever order they are put into one. -/
theorem ofList_of_perm (h : entries.Perm ms) (hms : ms.Ascending) : ofList entries = ms := by
  have hnodup : (entries.map (·.1)).Nodup := (h.map _).nodup_iff.mpr hms.nodup
  exact (ascending_ofList entries).ext hms fun name value =>
    (mem_ofList_iff_of_nodup hnodup).trans h.mem_iff

end Table

namespace Settings

variable {entries entries' : List (String × String)} {x : Except Failure Settings}

/-! ## One order and another -/

/-- Reads settings from variables that come in this order while tool servers are looked for. -/
def readAlong (order : List (String × String)) (vars : Variables) : Except Failure Settings := do
  let toolServers ← readServers order
  readBeside (Table.ofList toolServers) vars

/-- What may be read from entries: their variables are kept without an order, so that they come in
any. -/
def MayRead (entries : List (String × String)) (x : Except Failure Settings) : Prop :=
  ∃ order, order.Perm (Variables.ofList entries) ∧ x = readAlong order (.ofList entries)

/-- The variable of a tool server that has no name or no address. -/
def Spoilt (entries : List (String × String)) (server : String) : Prop :=
  ∃ value, last? entries (serverMark ++ server) = some value ∧
    (server = "" ∨ Text.trimmed value = "")

theorem exists_faulty_iff :
    (∃ kv ∈ Variables.ofList entries, Faulty kv) ↔ ∃ server, Spoilt entries server := by
  constructor
  · rintro ⟨⟨_, value⟩, hmem, server, rfl, hbad⟩
    exact ⟨server, value, mem_ofList_iff.mp hmem, hbad⟩
  · rintro ⟨server, value, hvalue, hbad⟩
    exact ⟨_, mem_ofList_iff.mpr hvalue, server, rfl, hbad⟩

/-- If no variable of a tool server is spoilt, the same is read in every order. -/
theorem readAlong_of_fine {order : List (String × String)}
    (horder : order.Perm (Variables.ofList entries)) (h : ∀ server, ¬ Spoilt entries server) :
    readAlong order (.ofList entries) =
      readBeside ((Variables.ofList entries).filterMap serverOf?) (.ofList entries) := by
  rcases readServers_cases order with ⟨-, hread⟩ | ⟨kv, hkv, hfaulty, -⟩
  · rw [readAlong, hread]
    exact congrArg (readBeside · _) (Table.ofList_of_perm (horder.filterMap serverOf?)
      (ascending_servers (Table.ascending_ofList _)))
  · obtain ⟨server, hspoilt⟩ := exists_faulty_iff.mp ⟨kv, horder.mem_iff.mp hkv, hfaulty⟩
    exact absurd hspoilt (h server)

/-- The order in which a table is kept is one of them. -/
theorem mayRead_ofVariables (entries : List (String × String)) :
    MayRead entries (ofVariables entries) := by
  refine ⟨Variables.ofList entries, .refl _, ?_⟩
  rw [ofVariables, read, readAlong]
  rcases readServers_cases (.ofList entries) with ⟨-, hread⟩ | ⟨kv, -, -, hread⟩
  · have htable : Table.ofList ((Variables.ofList entries).filterMap serverOf?) = _ :=
      Table.ofList_of_ascending (ascending_servers (Table.ascending_ofList _))
    rw [hread]
    exact congrArg (readBeside · _) htable.symm
  · rw [hread]
    rfl

/-- If no variable of a tool server is spoilt, the others are read beside the tool servers. -/
theorem ofVariables_of_fine (h : ∀ server, ¬ Spoilt entries server) :
    ofVariables entries =
      readBeside ((Variables.ofList entries).filterMap serverOf?) (.ofList entries) := by
  obtain ⟨order, horder, heq⟩ := mayRead_ofVariables entries
  rw [heq, readAlong_of_fine horder h]

/-- **In every order** the same is read, or it is told that a variable of a tool server is broken,
perhaps not always the same. -/
theorem mayRead_cases (h : MayRead entries x) :
    (∀ server, ¬ Spoilt entries server) ∧ x = ofVariables entries ∨
      ∃ server, Spoilt entries server ∧
        x = broken
          (Variables.capitals (serverMark ++ server) ++ " needs a server name and a URL") := by
  obtain ⟨order, horder, rfl⟩ := h
  by_cases hfine : ∀ server, ¬ Spoilt entries server
  · refine .inl ⟨hfine, ?_⟩
    rw [ofVariables_of_fine hfine, readAlong_of_fine horder hfine]
  · rcases readServers_cases order with ⟨hgood, -⟩ | ⟨⟨_, value⟩, hkv, ⟨server, rfl, hbad⟩, hread⟩
    · obtain ⟨kv, hkv, hfaulty⟩ := exists_faulty_iff.mpr (not_forall_not.mp hfine)
      exact absurd hfaulty (hgood kv (horder.mem_iff.mpr hkv))
    · refine .inr ⟨server, ⟨value, mem_ofList_iff.mp (horder.mem_iff.mp hkv), hbad⟩, ?_⟩
      rw [readAlong, hread]
      rfl

/-- **In two orders**, be it of other entries, of which the same variables of tool servers are
spoilt: what is read of either does not depend on the order, or it is told of either that one of
those variables is broken, and of the same one if there is but one. -/
theorem mayRead_both {x' : Except Failure Settings}
    (hspoilt : ∀ server, Spoilt entries server ↔ Spoilt entries' server)
    (hx : MayRead entries x) (hx' : MayRead entries' x') :
    ((∀ server, ¬ Spoilt entries server) ∧ x = ofVariables entries ∧ x' = ofVariables entries') ∨
      ∃ detail detail', x = .error (.badSettings detail) ∧ x' = .error (.badSettings detail') ∧
        (detail = detail' ∨
          ∃ server other, server ≠ other ∧ Spoilt entries server ∧ Spoilt entries other) := by
  rcases mayRead_cases hx with ⟨hfine, rfl⟩ | ⟨server, hserver, rfl⟩
  · rcases mayRead_cases hx' with ⟨-, rfl⟩ | ⟨other, hother, -⟩
    · exact .inl ⟨hfine, rfl, rfl⟩
    · exact absurd ((hspoilt other).mpr hother) (hfine other)
  · rcases mayRead_cases hx' with ⟨hfine, -⟩ | ⟨other, hother, rfl⟩
    · exact absurd ((hspoilt server).mp hserver) (hfine server)
    · refine .inr ⟨_, _, rfl, rfl, ?_⟩
      by_cases hsame : server = other
      · exact .inl (by rw [hsame])
      · exact .inr ⟨server, other, hsame, hserver, (hspoilt other).mpr hother⟩

/-! ## Some entries and others -/

/-- The names of the variables that settings are read from, besides those of tool servers. -/
def settingNames : List String :=
  ["ENVIRONMENT", "DEBUG", "AZURE_OPENAI_ENDPOINT", "AZURE_OPENAI_DEPLOYMENT",
    "AZURE_OPENAI_API_VERSION", "AZURE_OPENAI_API_KEY", "AZURE_OPENAI_AD_TOKEN",
    "AGENT_MAX_ITERATIONS", "AGENT_SYSTEM_PROMPT", "AGENT_MODEL_TIMEOUT_SECS"]

/-- Entries of which the last of each name says the same, for all names that settings are read from.
The case of the names, their order, what comes before the last entry of a name, and all other names
make no difference. -/
structure Alike (entries entries' : List (String × String)) : Prop where
  named : ∀ key ∈ settingNames.map Variables.fold, last? entries key = last? entries' key
  servers : ∀ server, last? entries (serverMark ++ server) = last? entries' (serverMark ++ server)

/-- Beside the tool servers, settings are read from the values of their names. -/
theorem readBeside_congr {vars vars' : Variables} (toolServers : Table String)
    (h : ∀ name ∈ settingNames, vars.value? name = vars'.value? name) :
    readBeside toolServers vars = readBeside toolServers vars' := by
  simp only [settingNames, List.forall_mem_cons, List.not_mem_nil, false_imp_iff, implies_true,
    and_true] at h
  simp only [readBeside, required, switch, count, h]

/-- Whether a variable is spoilt depends on what its last entry says. -/
theorem spoilt_congr {server : String}
    (h : last? entries (serverMark ++ server) = last? entries' (serverMark ++ server)) :
    Spoilt entries server ↔ Spoilt entries' server := by
  rw [Spoilt, Spoilt, h]

theorem Alike.spoilt_iff (h : Alike entries entries') {server : String} :
    Spoilt entries server ↔ Spoilt entries' server :=
  spoilt_congr (h.servers server)

/-- Entries whose last ones for tool servers say the same have the same tool servers. -/
theorem servers_congr (h : ∀ server,
      last? entries (serverMark ++ server) = last? entries' (serverMark ++ server)) :
    (Variables.ofList entries).filterMap serverOf? =
      (Variables.ofList entries').filterMap serverOf? := by
  have hascending (es : List (String × String)) :
      Table.Ascending ((Variables.ofList es).filterMap serverOf?) :=
    ascending_servers (Table.ascending_ofList _)
  refine (hascending entries).ext (hascending entries') fun server url => ?_
  rw [mem_servers_iff, mem_servers_iff, h]

/-- The same is read from entries that are alike, if no variable of a tool server is spoilt. -/
theorem Alike.ofVariables_eq (h : Alike entries entries')
    (hfine : ∀ server, ¬ Spoilt entries server) :
    ofVariables entries = ofVariables entries' := by
  have hfine' : ∀ server, ¬ Spoilt entries' server := fun server hspoilt =>
    hfine server (h.spoilt_iff.mpr hspoilt)
  rw [ofVariables_of_fine hfine, ofVariables_of_fine hfine', servers_congr h.servers]
  refine readBeside_congr _ fun name hname => ?_
  rw [value?_ofList, value?_ofList, given?, given?, h.named _ (List.mem_map_of_mem hname)]

/-- What is told if nothing is read is a broken rule. -/
theorem exists_badSettings {e : Failure} (h : ofVariables entries = .error e) :
    ∃ detail, e = .badSettings detail := by
  rcases checks_ofVariables entries with ⟨s, hs, -⟩ | ⟨-, -, -, detail, -, -, -, herror⟩
  · cases h.symm.trans hs
  · exact ⟨detail, Except.error.inj (h.symm.trans herror)⟩

/-! ## Entries that are no text -/

/-- An entry of a process environment whose name or value is not the octets of a text. -/
def Garbled (entry : List Nat × List Nat) : Prop :=
  (∀ cs, Text.Utf8.encode cs ≠ entry.1) ∨ ∀ cs, Text.Utf8.encode cs ≠ entry.2

/-- The second environment is the first one with garbled entries put in anywhere. -/
inductive Inserts : List (List Nat × List Nat) → List (List Nat × List Nat) → Prop where
  | nil : Inserts [] []
  | keep {entry : List Nat × List Nat} {env env' : List (List Nat × List Nat)} :
      Inserts env env' → Inserts (entry :: env) (entry :: env')
  | insert {entry : List Nat × List Nat} {env env' : List (List Nat × List Nat)} :
      Garbled entry → Inserts env env' → Inserts env (entry :: env')

/-- Garbled entries are passed over. -/
theorem Inserts.textual_eq {env env' : List (List Nat × List Nat)} (h : Inserts env env') :
    Variables.textual env' = Variables.textual env := by
  unfold Variables.textual at *
  induction h with
  | nil => rfl
  | keep _ ih => rw [List.filterMap_cons, List.filterMap_cons, ih]
  | @insert entry env env' hgarbled _ ih =>
    obtain ⟨name, value⟩ := entry
    rw [List.filterMap_cons_none, ih]
    rcases hgarbled with hname | hvalue
    · have hnone : Text.Utf8.decode? name = none := Text.Utf8.decode?_eq_none_iff.mpr hname
      simp [hnone]
    · have hnone : Text.Utf8.decode? value = none := Text.Utf8.decode?_eq_none_iff.mpr hvalue
      simp [hnone]

/-- **What settings depend on.** In whatever order the variables of entries come, the same settings
are read, and the same is read from other entries that are alike; or from neither anything is, and a
broken rule is told. What is told is the same, unless several variables of tool servers are spoilt.
Entries of a process environment whose name or value is no text make no difference at all. -/
theorem mayRead_of_alike (h : Alike entries entries') {env env' : List (List Nat × List Nat)}
    (henv : Inserts env env') :
    (MayRead entries (ofVariables entries) ∧ MayRead entries' (ofVariables entries')) ∧
    (∀ x x', MayRead entries x → MayRead entries' x' →
      (∃ s, x = .ok s ∧ x' = .ok s) ∨
        ∃ detail detail', x = .error (.badSettings detail) ∧ x' = .error (.badSettings detail') ∧
          (detail = detail' ∨
            ∃ server other, server ≠ other ∧ Spoilt entries server ∧ Spoilt entries other)) ∧
    ofEnvironment env' = ofEnvironment env ∧
    ∀ x, MayRead (Variables.textual env') x ↔ MayRead (Variables.textual env) x := by
  refine ⟨⟨mayRead_ofVariables entries, mayRead_ofVariables entries'⟩, fun x x' hx hx' => ?_, ?_,
    fun x => by rw [henv.textual_eq]⟩
  · rcases mayRead_cases hx with ⟨hfine, rfl⟩ | ⟨server, hserver, rfl⟩
    · -- No variable of a tool server is spoilt, on either side.
      rcases mayRead_cases hx' with ⟨-, rfl⟩ | ⟨other, hother, -⟩
      · rw [← h.ofVariables_eq hfine]
        rcases hread : ofVariables entries with e | s
        · obtain ⟨detail, rfl⟩ := exists_badSettings hread
          exact .inr ⟨detail, detail, rfl, rfl, .inl rfl⟩
        · exact .inl ⟨s, rfl, rfl⟩
      · exact absurd (h.spoilt_iff.mpr hother) (hfine other)
    · rcases mayRead_cases hx' with ⟨hfine, -⟩ | ⟨other, hother, rfl⟩
      · exact absurd (h.spoilt_iff.mp hserver) (hfine server)
      · refine .inr ⟨_, _, rfl, rfl, ?_⟩
        by_cases hsame : server = other
        · exact .inl (by rw [hsame])
        · exact .inr ⟨server, other, hsame, hserver, h.spoilt_iff.mpr hother⟩
  · rw [ofEnvironment, ofEnvironment, henv.textual_eq]

/-- A server that no name is of has no variable. -/
theorem last?_server_eq_none {server : String}
    (h : ∀ kv ∈ entries, afterMark? serverMark (Variables.fold kv.1) ≠ some server) :
    last? entries (serverMark ++ server) = none := by
  rw [last?, Option.map_eq_none_iff, List.find?_eq_none]
  intro kv hkv heq
  exact h kv (List.mem_reverse.mp hkv) (afterMark?_eq_some_iff.mpr (eq_of_beq heq))

/-- Names in other capitals and another order, an earlier entry of a name, and a name that nothing
is read from; and a switch of which one entry is no text. -/
theorem mayRead_of_alike_docs :
    let entries := [("PATH", "/bin"), ("environment", "old"), ("Environment", " test "),
      ("AZURE_OPENAI_ENDPOINT", "https://host"), ("AZURE_OPENAI_DEPLOYMENT", "gpt"),
      ("AZURE_OPENAI_API_VERSION", "v1"), ("MCP_SERVERS__DOCS", "http://docs")]
    let entries' := [("mcp_servers__docs", "http://docs"), ("azure_openai_api_version", "v1"),
      ("azure_openai_endpoint", "https://host"), ("ENVIRONMENT", " test "),
      ("azure_openai_deployment", "gpt")]
    let settings : Settings := ⟨"test", false, ⟨"https://host", "gpt", "v1", none, none⟩,
      [("docs", "http://docs")], some defaultLimit, none, none⟩
    let debug := Text.Utf8.encode "DEBUG".toList
    let env := [(debug, Text.Utf8.encode "on".toList)]
    let env' := [(debug, [0xFF]), (debug, Text.Utf8.encode "on".toList)]
    Alike entries entries' ∧ Inserts env env' ∧ ofVariables entries = .ok settings ∧
      (∀ x, MayRead entries' x → x = .ok settings) ∧ ofEnvironment env' = ofEnvironment env := by
  intro entries entries' settings debug env env'
  have hone : ∀ kv ∈ entries ++ entries', ∀ server,
      afterMark? serverMark (Variables.fold kv.1) = some server → server = "docs" := by
    decide +kernel
  have hkeys : settingNames.map Variables.fold = ["environment", "debug", "azure_openai_endpoint",
      "azure_openai_deployment", "azure_openai_api_version", "azure_openai_api_key",
      "azure_openai_ad_token", "agent_max_iterations", "agent_system_prompt",
      "agent_model_timeout_secs"] := by decide +kernel
  have halike : Alike entries entries' := by
    refine ⟨by rw [hkeys]; decide +kernel, fun server => ?_⟩
    by_cases hserver : server = "docs"
    · rw [hserver]
      decide +kernel
    · have hnone {es : List (String × String)} (hes : es ⊆ entries ++ entries') :
          last? es (serverMark ++ server) = none :=
        last?_server_eq_none fun kv hkv hname => hserver (hone kv (hes hkv) server hname)
      rw [hnone (List.subset_append_left ..), hnone (List.subset_append_right ..)]
  have hgarbled : Garbled (debug, [0xFF]) :=
    .inr (Text.Utf8.decode?_eq_none_iff.mp (by decide +kernel))
  have henv : Inserts env env' := .insert hgarbled (.keep .nil)
  have hentries : Variables.ofList entries = [("azure_openai_api_version", "v1"),
      ("azure_openai_deployment", "gpt"), ("azure_openai_endpoint", "https://host"),
      ("environment", " test "), ("mcp_servers__docs", "http://docs"), ("path", "/bin")] := by
    decide +kernel
  have hread : ofVariables entries = .ok settings := by
    calc ofVariables entries = read _ := congrArg read hentries
      _ = .ok settings := by decide +kernel
  obtain ⟨⟨hmay, -⟩, hsame, hpassed, -⟩ := mayRead_of_alike halike henv
  refine ⟨halike, henv, hread, fun x hx => ?_, hpassed⟩
  rcases hsame _ x hmay hx with ⟨s, hs, rfl⟩ | ⟨detail, -, herror, -⟩
  · rw [← hs, hread]
  · cases herror.symm.trans hread

end Settings

end Dialogue
