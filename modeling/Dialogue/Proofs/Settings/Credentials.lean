import Dialogue.Azure.Backend
import Dialogue.Proofs.Settings.Alike

/-!
# Credentials do not show

Two of the variables that settings are read from hold credentials. Entries that differ in nothing
but credentials lead to the same failure, or to settings that differ in nothing but credentials, and
what is shown of the settings is the same. So no diagnostic says more of a credential than whether
it is set.

Main statement: `mayRead_of_credentials`. It rests on `SameButCredentials.last?_cases` (what the
last entries of a name say) and `readBeside_map` (settings take the credentials as they are, and
nothing else of them depends on credentials).
-/

namespace Dialogue

namespace Settings

variable {entries entries' : List (String × String)} {vars vars' : Variables} {key : String}
  {s : Settings} {apiKey token : Option String}

/-! ## Entries that differ in credentials -/

/-- The names of the variables that hold credentials. -/
def credentialNames : List String := ["AZURE_OPENAI_API_KEY", "AZURE_OPENAI_AD_TOKEN"]

/-- Two values of a name are the same, or the name is that of a credential and neither of them is
blank. The name is given in small letters. -/
def SameUnlessCredential (key value value' : String) : Prop :=
  value = value' ∨ key ∈ credentialNames.map Variables.fold ∧
    Text.trimmed value ≠ "" ∧ Text.trimmed value' ≠ ""

/-- Entries that differ in nothing but the values of credentials that are not blank. The case of the
names makes no difference. -/
def SameButCredentials : List (String × String) → List (String × String) → Prop :=
  List.Forall₂ fun kv kv' => Variables.fold kv.1 = Variables.fold kv'.1 ∧
    SameUnlessCredential (Variables.fold kv.1) kv.2 kv'.2

namespace SameButCredentials

theorem refl (entries : List (String × String)) : SameButCredentials entries entries :=
  List.forall₂_same.mpr fun _ _ => ⟨rfl, .inl rfl⟩

/-- One credential in place of another. -/
theorem credential {name name' credential value value' : String}
    (hmem : credential ∈ credentialNames) (hname : Variables.fold name = Variables.fold credential)
    (hname' : Variables.fold name' = Variables.fold credential) (hvalue : Text.trimmed value ≠ "")
    (hvalue' : Text.trimmed value' ≠ "") (h : SameButCredentials entries entries') :
    SameButCredentials ((name, value) :: entries) ((name', value') :: entries') := by
  refine .cons ⟨hname.trans hname'.symm, .inr ⟨?_, hvalue, hvalue'⟩⟩ h
  rw [hname]
  exact List.mem_map_of_mem hmem

/-- The last entries of a name say the same, unless the name is that of a credential; then neither
of them is blank. -/
theorem last?_cases (h : SameButCredentials entries entries') (key : String) :
    last? entries key = last? entries' key ∨ key ∈ credentialNames.map Variables.fold ∧
      ∃ value value', last? entries key = some value ∧ last? entries' key = some value' ∧
        Text.trimmed value ≠ "" ∧ Text.trimmed value' ≠ "" := by
  have hlast : SameButCredentials entries.reverse entries'.reverse :=
    List.forall₂_reverse_iff.mpr h
  rw [last?, last?]
  -- The last entry of a name is the first one from behind.
  generalize entries.reverse = es, entries'.reverse = es' at hlast
  induction hlast with
  | nil => exact .inl rfl
  | @cons kv kv' es es' hkv _ ih =>
    obtain ⟨hname, hvalue⟩ := hkv
    by_cases hkey : Variables.fold kv.1 = key
    · rw [List.find?_cons_of_pos (by simpa using hkey),
        List.find?_cons_of_pos (by simpa [← hname] using hkey)]
      rcases hvalue with hsame | ⟨hmem, hvalue, hvalue'⟩
      · exact .inl (congrArg some hsame)
      · exact .inr ⟨hkey ▸ hmem, kv.2, kv'.2, rfl, rfl, hvalue, hvalue'⟩
    · rw [List.find?_cons_of_neg (by simpa using hkey),
        List.find?_cons_of_neg (by simpa [← hname] using hkey)]
      exact ih

theorem last?_eq (h : SameButCredentials entries entries')
    (hkey : key ∉ credentialNames.map Variables.fold) : last? entries key = last? entries' key :=
  (h.last?_cases key).resolve_right fun hboth => hkey hboth.1

/-- The same names have values that are not blank. -/
theorem isSome_given? (h : SameButCredentials entries entries') (name : String) :
    (given? entries' name).isSome = (given? entries name).isSome := by
  rcases h.last?_cases (Variables.fold name) with
    hsame | ⟨-, value, value', hlast, hlast', hvalue, hvalue'⟩
  · rw [given?, given?, hsame]
  · rw [given?_eq_some_iff.mpr ⟨value, hlast, rfl, hvalue⟩,
      given?_eq_some_iff.mpr ⟨value', hlast', rfl, hvalue'⟩]
    rfl

/-- A variable of a tool server holds no credential. -/
theorem last?_server_eq (h : SameButCredentials entries entries') (server : String) :
    last? entries (serverMark ++ server) = last? entries' (serverMark ++ server) := by
  have hmark : ∀ key ∈ credentialNames.map Variables.fold, afterMark? serverMark key = none := by
    decide +kernel
  refine h.last?_eq fun hmem => ?_
  cases (hmark _ hmem).symm.trans (afterMark?_eq_some_iff.mpr rfl)

theorem value?_eq (h : SameButCredentials entries entries') {name : String}
    (hname : name ∈ settingNames) (hcredential : name ∉ credentialNames) :
    (Variables.ofList entries').value? name = (Variables.ofList entries).value? name := by
  have hfold : ∀ name ∈ settingNames, name ∉ credentialNames →
      Variables.fold name ∉ credentialNames.map Variables.fold := by
    decide +kernel
  rw [value?_ofList, value?_ofList, given?, given?, h.last?_eq (hfold name hname hcredential)]

end SameButCredentials

/-! ## Settings that differ in credentials -/

/-- The settings with other credentials. -/
def withCredentials (s : Settings) (apiKey token : Option String) : Settings :=
  { s with service := { s.service with apiKey, token } }

/-- Settings take the credentials as they are, and nothing else of them depends on credentials. -/
theorem readBeside_map (toolServers : Table String)
    (h : ∀ name ∈ settingNames, name ∉ credentialNames → vars'.value? name = vars.value? name) :
    readBeside toolServers vars' =
      (·.withCredentials (vars'.value? "AZURE_OPENAI_API_KEY")
        (vars'.value? "AZURE_OPENAI_AD_TOKEN")) <$> readBeside toolServers vars := by
  simp only [settingNames, credentialNames, List.mem_cons, List.not_mem_nil, or_false, not_or,
    and_imp, forall_eq_or_imp, forall_eq, String.reduceEq, not_false_eq_true, not_true_eq_false,
    forall_const, IsEmpty.forall_iff, true_and] at h
  simp only [readBeside, required, switch, count, h, map_bind]
  rfl

/-- The same is read from entries that differ in credentials, but for the credentials, if no
variable of a tool server is spoilt. -/
theorem SameButCredentials.ofVariables_eq (h : SameButCredentials entries entries')
    (hfine : ∀ server, ¬ Spoilt entries server) :
    ofVariables entries' =
      (·.withCredentials (given? entries' "AZURE_OPENAI_API_KEY")
        (given? entries' "AZURE_OPENAI_AD_TOKEN")) <$> ofVariables entries := by
  have hfine' : ∀ server, ¬ Spoilt entries' server := fun server hspoilt =>
    hfine server ((spoilt_congr (h.last?_server_eq server)).mpr hspoilt)
  rw [ofVariables_of_fine hfine, ofVariables_of_fine hfine', servers_congr h.last?_server_eq,
    ← value?_ofList, ← value?_ofList]
  exact readBeside_map _ fun name => h.value?_eq

/-! ## What is shown of them -/

/-- Of a credential nothing is shown but whether it is set. -/
theorem showHidden_congr {c c' : Option String} (h : c.isSome = c'.isSome) :
    showHidden c = showHidden c' := by
  rcases c with _ | c <;> rcases c' with _ | c'
  · rfl
  · cases h
  · cases h
  · rfl

theorem render_withCredentials (hkey : apiKey.isSome = s.service.apiKey.isSome)
    (htoken : token.isSome = s.service.token.isSome) :
    (s.withCredentials apiKey token).render = s.render := by
  rw [render, render, renderService, renderService, withCredentials, showHidden_congr hkey,
    showHidden_congr htoken]

/-- Of how requests are let in nothing is shown but whether they carry a key. -/
theorem render_ofService (service : Service) :
    (Azure.Auth.ofService service).render =
      if service.apiKey.isSome then "ApiKey(***)" else "Bearer" := by
  rw [Azure.Auth.ofService]
  cases service.apiKey with
  | none => rfl
  | some key => rfl

theorem render_ofService_withCredentials (hkey : apiKey.isSome = s.service.apiKey.isSome) :
    (Azure.Auth.ofService (s.withCredentials apiKey token).service).render =
      (Azure.Auth.ofService s.service).render := by
  rw [render_ofService, render_ofService, withCredentials, hkey]

/-- Settings that are read have the credentials that the entries give. -/
theorem credentials_of_read (h : ofVariables entries = .ok s) :
    given? entries "AZURE_OPENAI_API_KEY" = s.service.apiKey ∧
      given? entries "AZURE_OPENAI_AD_TOKEN" = s.service.token := by
  rcases checks_ofVariables entries with ⟨s', hs', -, hset⟩ | ⟨-, -, -, detail, -, -, -, herror⟩
  · obtain rfl := Except.ok.inj (h.symm.trans hs')
    exact ⟨hset.apiKey, hset.token⟩
  · cases h.symm.trans herror

/-- **Credentials do not show.** Take entries that differ in nothing but the values of credentials,
whatever their other names and values are, and let their variables come in any order. Either
settings are read from both, which are the same but for the credentials; then they are shown alike,
and so is how requests are let in. Or nothing is read from either, and a broken rule is told, which
is the same unless several variables of tool servers are spoilt. -/
theorem mayRead_of_credentials (h : SameButCredentials entries entries') :
    (MayRead entries (ofVariables entries) ∧ MayRead entries' (ofVariables entries')) ∧
    ∀ x x', MayRead entries x → MayRead entries' x' →
      (∃ s s', x = .ok s ∧ x' = .ok s' ∧
        s' = s.withCredentials s'.service.apiKey s'.service.token ∧ s'.render = s.render ∧
          (Azure.Auth.ofService s'.service).render = (Azure.Auth.ofService s.service).render) ∨
        ∃ detail detail', x = .error (.badSettings detail) ∧ x' = .error (.badSettings detail') ∧
          (detail = detail' ∨
            ∃ server other, server ≠ other ∧ Spoilt entries server ∧ Spoilt entries other) := by
  refine ⟨⟨mayRead_ofVariables entries, mayRead_ofVariables entries'⟩, fun x x' hx hx' => ?_⟩
  have hspoilt (server : String) : Spoilt entries server ↔ Spoilt entries' server :=
    spoilt_congr (h.last?_server_eq server)
  rcases mayRead_both hspoilt hx hx' with ⟨hfine, rfl, rfl⟩ | htold
  · have hsame := h.ofVariables_eq hfine
    rcases hread : ofVariables entries with e | s
    · rw [hread] at hsame
      obtain ⟨detail, rfl⟩ := exists_badSettings hread
      exact .inr ⟨detail, detail, rfl, hsame, .inl rfl⟩
    · rw [hread] at hsame
      obtain ⟨hkey, htoken⟩ := credentials_of_read hread
      have hkey' := (h.isSome_given? "AZURE_OPENAI_API_KEY").trans (congrArg _ hkey)
      have htoken' := (h.isSome_given? "AZURE_OPENAI_AD_TOKEN").trans (congrArg _ htoken)
      exact .inl ⟨s, _, rfl, hsame, rfl, render_withCredentials hkey' htoken',
        render_ofService_withCredentials hkey'⟩
  · exact .inr htold

/-- A key and a token, of which one stands between blanks, under names in different capitals. -/
theorem mayRead_of_credentials_secret :
    let others := [("ENVIRONMENT", "test"), ("AZURE_OPENAI_ENDPOINT", "https://host"),
      ("AZURE_OPENAI_DEPLOYMENT", "gpt"), ("AZURE_OPENAI_API_VERSION", "v1")]
    let entries := ("Azure_OpenAI_Api_Key", " secret ") :: ("azure_openai_ad_token", "a") :: others
    let entries' := ("AZURE_OPENAI_API_KEY", "other") :: ("azure_openai_ad_token", "b") :: others
    let settings (key token : String) : Settings := ⟨"test", false,
      ⟨"https://host", "gpt", "v1", some key, some token⟩, [], some defaultLimit, none, none⟩
    SameButCredentials entries entries' ∧ ofVariables entries = .ok (settings "secret" "a") ∧
      ofVariables entries' = .ok (settings "other" "b") ∧
      (settings "other" "b").render = (settings "secret" "a").render := by
  intro others entries entries' settings
  have hkey : Variables.fold "AZURE_OPENAI_API_KEY" = "azure_openai_api_key" := by decide +kernel
  have hkey' : Variables.fold "Azure_OpenAI_Api_Key" = "azure_openai_api_key" := by decide +kernel
  have htoken : Variables.fold "AZURE_OPENAI_AD_TOKEN" = "azure_openai_ad_token" := by
    decide +kernel
  have htoken' : Variables.fold "azure_openai_ad_token" = "azure_openai_ad_token" := by
    decide +kernel
  have hsame : SameButCredentials entries entries' :=
    .credential (List.mem_cons_self ..) (hkey'.trans hkey.symm) rfl (by decide +kernel)
      (by decide +kernel) (.credential (List.mem_cons_of_mem _ (List.mem_singleton_self _))
        (htoken'.trans htoken.symm) (htoken'.trans htoken.symm) (by decide +kernel)
        (by decide +kernel) (.refl others))
  have hentries : Variables.ofList entries = [("azure_openai_ad_token", "a"),
      ("azure_openai_api_key", " secret "), ("azure_openai_api_version", "v1"),
      ("azure_openai_deployment", "gpt"), ("azure_openai_endpoint", "https://host"),
      ("environment", "test")] := by
    decide +kernel
  have hentries' : Variables.ofList entries' = [("azure_openai_ad_token", "b"),
      ("azure_openai_api_key", "other"), ("azure_openai_api_version", "v1"),
      ("azure_openai_deployment", "gpt"), ("azure_openai_endpoint", "https://host"),
      ("environment", "test")] := by
    decide +kernel
  have hread : ofVariables entries = .ok (settings "secret" "a") := by
    calc ofVariables entries = read _ := congrArg read hentries
      _ = .ok (settings "secret" "a") := by decide +kernel
  have hread' : ofVariables entries' = .ok (settings "other" "b") := by
    calc ofVariables entries' = read _ := congrArg read hentries'
      _ = .ok (settings "other" "b") := by decide +kernel
  obtain ⟨⟨hmay, hmay'⟩, hboth⟩ := mayRead_of_credentials hsame
  rcases hboth _ _ hmay hmay' with ⟨s, s', hs, hs', -, hrender, -⟩ | ⟨detail, -, htold, -⟩
  · obtain rfl := Except.ok.inj (hread.symm.trans hs)
    obtain rfl := Except.ok.inj (hread'.symm.trans hs')
    exact ⟨hsame, hread, hread', hrender⟩
  · cases htold.symm.trans hread

end Settings

end Dialogue
