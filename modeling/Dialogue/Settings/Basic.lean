import Dialogue.Agent.Basic
import Dialogue.Number.Count
import Dialogue.Settings.Variables

/-!
# Settings

What is set before an agent starts: where the model is served and with which credentials, the tool
servers, and the rules of runs. Settings are read from variables; the first variable that breaks its
rule is reported, tool servers before all others.

The text of settings in a diagnostic does not show credentials, only whether they are set.
-/

namespace Dialogue

/-- Where the model is served. -/
structure Service where
  endpoint : String
  deployment : String
  apiVersion : String
  apiKey : Option String
  /-- A token that was issued beforehand. -/
  token : Option String
deriving DecidableEq, Repr

/-- Settings. -/
structure Settings where
  environment : String
  debug : Bool
  service : Service
  /-- The addresses of the tool servers by their names. -/
  toolServers : Table String
  /-- How often the model may be asked in one run. -/
  limit : Option Nat
  instructions : Option String
  /-- How long the backend may take. -/
  patience : Option Time.Span
deriving DecidableEq, Repr

namespace Settings

/-! ## Reading -/

/-- A broken rule. -/
def broken {α : Type} (detail : String) : Except Failure α :=
  .error (.badSettings detail)

/-- The value of a variable that must be set, with at least so many characters. -/
def required (vars : Variables) (name : String) (least : Nat) : Except Failure String :=
  match vars.value? name with
  | none => broken (name ++ " is required")
  | some v =>
    if v.length < least then
      broken (name ++ " must be at least " ++ toString least ++ " characters")
    else .ok v

/-- The truth value that a word stands for. -/
def readSwitch (word : String) : Option Bool :=
  let w := Variables.fold word
  if w ∈ ["1", "true", "yes", "on"] then some true
  else if w ∈ ["0", "false", "no", "off"] then some false
  else none

/-- The value of a variable that holds a truth value; unset is false. -/
def switch (vars : Variables) (name : String) : Except Failure Bool :=
  match vars.value? name with
  | none => .ok false
  | some v =>
    match readSwitch v with
    | some b => .ok b
    | none => broken (name ++ " must be a boolean, got '" ++ v ++ "'")

/-- The value of a variable that holds a natural number. -/
def count (vars : Variables) (name : String) : Except Failure (Option Nat) :=
  match vars.value? name with
  | none => .ok none
  | some v =>
    match readCount v.toList with
    | some n => .ok (some n)
    | none => broken (name ++ " must be a non-negative integer, got '" ++ v ++ "'")

/-- A number of which zero means that there is none. -/
def unlessZero (n : Nat) : Option Nat :=
  if n = 0 then none else some n

/-- How the names of variables for tool servers begin, in small letters. -/
def serverMark : String := "mcp_servers__"

/-- The name that stands after a mark. -/
def afterMark? (mark name : String) : Option String :=
  if mark.toList.isPrefixOf name.toList then some (String.ofList (name.toList.drop mark.length))
  else none

/-- The tool servers among variables. -/
def readServers : Variables → Except Failure (Table String)
  | [] => .ok []
  | (name, value) :: rest =>
    match afterMark? serverMark name with
    | none => readServers rest
    | some server =>
      let url := Text.trimmed value
      if server = "" ∨ url = "" then
        broken (Variables.capitals name ++ " needs a server name and a URL")
      else do
        let servers ← readServers rest
        .ok ((server, url) :: servers)

/-- Reads from variables what is set beside the tool servers. -/
def readBeside (toolServers : Table String) (vars : Variables) : Except Failure Settings := do
  let environment ← required vars "ENVIRONMENT" 2
  let debug ← switch vars "DEBUG"
  let endpoint ← required vars "AZURE_OPENAI_ENDPOINT" 10
  let deployment ← required vars "AZURE_OPENAI_DEPLOYMENT" 2
  let apiVersion ← required vars "AZURE_OPENAI_API_VERSION" 2
  let iterations ← count vars "AGENT_MAX_ITERATIONS"
  let seconds ← count vars "AGENT_MODEL_TIMEOUT_SECS"
  .ok {
    environment, debug, toolServers
    service := {
      endpoint, deployment, apiVersion
      apiKey := vars.value? "AZURE_OPENAI_API_KEY"
      token := vars.value? "AZURE_OPENAI_AD_TOKEN" }
    limit := match iterations with
      | some n => unlessZero n
      | none => some defaultLimit
    instructions := vars.value? "AGENT_SYSTEM_PROMPT"
    patience := (seconds.bind unlessZero).map Time.Span.ofSeconds }

/-- Reads settings from variables. -/
def read (vars : Variables) : Except Failure Settings := do
  let toolServers ← readServers vars
  readBeside toolServers vars

/-- Reads settings from names and values in any order, where the last of a name counts. -/
def ofVariables (entries : List (String × String)) : Except Failure Settings :=
  read (.ofList entries)

/-- Reads settings from the entries of a process environment. -/
def ofEnvironment (entries : List (List Nat × List Nat)) : Except Failure Settings :=
  ofVariables (Variables.textual entries)

/-! ## As text -/

/-- A record in a diagnostic. -/
def showRecord (name : String) (fields : List (String × String)) : String :=
  name ++ " \x7b " ++ ", ".intercalate (fields.map fun (k, v) => k ++ ": " ++ v) ++ " \x7d"

/-- A value that may be absent in a diagnostic. -/
def showOption {α : Type} (f : α → String) : Option α → String
  | some a => "Some(" ++ f a ++ ")"
  | none => "None"

/-- Says only whether a credential is set. -/
def showHidden (credential : Option String) : String :=
  showOption (fun _ => Text.quoted "***") credential

/-- A service in a diagnostic. -/
def renderService (s : Service) : String :=
  showRecord "AzureSettings" [("endpoint", Text.quoted s.endpoint),
    ("deployment", Text.quoted s.deployment), ("api_version", Text.quoted s.apiVersion),
    ("api_key", showHidden s.apiKey), ("ad_token", showHidden s.token)]

/-- A table of texts in a diagnostic. -/
def showTable (t : Table String) : String :=
  "\x7b" ++ ", ".intercalate (t.map fun (k, v) => Text.quoted k ++ ": " ++ Text.quoted v) ++ "\x7d"

/-- Settings in a diagnostic. -/
def render (s : Settings) : String :=
  showRecord "Settings" [("environment", Text.quoted s.environment), ("debug", toString s.debug),
    ("azure", renderService s.service), ("tool_servers", showTable s.toolServers),
    ("max_iterations", showOption toString s.limit),
    ("system_prompt", showOption Text.quoted s.instructions),
    ("model_timeout", showOption Time.Span.render s.patience)]

end Settings

end Dialogue
