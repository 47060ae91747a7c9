import Dialogue.Chat.Request
import Dialogue.Chat.Response
import Dialogue.Settings.Basic
import Dialogue.World

/-!
# The Azure backend

A chat service for models that are deployed at an endpoint. Requests carry a key or a token. Each
request of an agent is one request of HTTP, which is never repeated; an answer that is no success is
classified by its status, with the text of the service where it gives one. An answer takes no time.
-/

namespace Dialogue.Azure

/-- A deployed model. -/
structure Deployment where
  endpoint : String
  name : String
  apiVersion : String
deriving DecidableEq, Repr

namespace Deployment

/-- The endpoint without slashes at its end. -/
def base (d : Deployment) : String :=
  String.ofList (d.endpoint.toList.reverse.dropWhile (· == '/')).reverse

/-- Where completions are asked for. -/
def chatUrl (d : Deployment) : String :=
  d.base ++ "/openai/deployments/" ++ d.name ++ "/chat/completions?api-version=" ++ d.apiVersion

/-- Where the models are listed. -/
def modelsUrl (d : Deployment) : String :=
  d.base ++ "/openai/models?api-version=" ++ d.apiVersion

end Deployment

/-- What comes of asking for the header that lets a request in. -/
inductive Entry where
  | granted (header : Http.Header)
  | refused (failure : Failure)
  /-- The agent has crashed. -/
  | crashed
deriving DecidableEq, Repr

/-- What a request carries to be let in. -/
inductive Auth where
  | apiKey (key : String)
  | bearer (credential : Credential)
deriving DecidableEq, Repr

namespace Auth

/-- How requests are let in, in a diagnostic. -/
def render : Auth → String
  | .apiKey _ => "ApiKey(***)"
  | .bearer _ => "Bearer"

/-- The key of a service if it has one, otherwise a token. -/
def ofService (s : Service) : Auth :=
  match s.apiKey with
  | some key => .apiKey key
  | none => .bearer (.default s.token)

variable {ω : Type}

/-- The header that lets a request in. The agent crashes if the expiry of the token it holds lies
too early for its margin. -/
def header (a : Auth) (outside : Outside ω) (w : World ω) : Entry × World ω :=
  match a with
  | .apiKey key => (.granted (.ofText "api-key" key), w)
  | .bearer credential =>
    let (outcome, tokens, o) := credential.token outside.az outside.zone
      (outside.clock w.outside) serviceScope w.tokens w.outside
    let w := { w with tokens, outside := o }
    match outcome with
    | .token t => (.granted (.ofText "authorization" ("Bearer " ++ t.token)), w)
    | .failed e => (.refused e, w)
    | .expiryOutOfRange => (.crashed, { w with crashed := true })

end Auth

/-! ## Answers -/

/-- The text of the service in the body of an answer that is no success. -/
def serviceText? (body : Option Json) : Option String := do
  let error ← (← body).get? "error"
  (← error.get? "message").text?

/-- The failure of an answer that is no success. -/
def failureOf (status : Nat) (body : Option Json) : Failure :=
  let detail := (serviceText? body).getD (Http.statusLine status)
  if status = 401 ∨ status = 403 then .unauthorized detail
  else if status = 429 then .rateLimited detail
  else if 500 ≤ status ∧ status < 600 then .backendUnavailable detail
  else .backend detail

/-- The failure of a request without an answer. -/
def failureOfFault (e : Http.Fault) : Failure :=
  if e.isAway then .backendUnavailable e.message else .backend e.message

/-- The completion in an answer. A body that is no JSON counts as `null`. -/
def readAnswer (deployment : String) (r : Http.Response) : Except Failure Completion :=
  if r.isSuccess then Chat.readCompletion (r.json?.getD .null) deployment
  else .error (failureOf r.status r.json?)

/-! ## The backend -/

variable {ω : Type}

/-- Asks for a completion with a header that lets the request in. -/
def complete (d : Deployment) (header : Http.Header) (r : Request) :
    Http.Exchange (Except Failure Completion) := do
  let headers := [.ofText "content-type" "application/json", header]
  match ← Http.Exchange.ask .post d.chatUrl headers (some (Chat.requestBody r)) with
  | .error e => return .error (failureOfFault e)
  | .ok answer => return readAnswer d.name answer

/-- Asks for the list of models with a header that lets the request in. -/
def probe (d : Deployment) (header : Http.Header) : Http.Exchange Bool := do
  match ← Http.Exchange.ask .get d.modelsUrl [header] none with
  | .error _ => return false
  | .ok answer => return answer.isSuccess

/-- The backend of a deployed model. In a world in which the agent has crashed, nobody gets what it
answers. -/
def backend (outside : Outside ω) (d : Deployment) (auth : Auth) : Backend (World ω) where
  name := "Azure OpenAI"
  complete r w :=
    match auth.header outside w with
    | (.crashed, w) => (.absent, w)
    | (.refused e, w) => (⟨.error e, 0⟩, w)
    | (.granted header, w) =>
      let (result, w) := w.exchange outside.network (complete d header r)
      (⟨result, 0⟩, w)
  health w :=
    match auth.header outside w with
    | (.crashed, w) => (.ok false, w)
    | (.refused e, w) => (.error e, w)
    | (.granted header, w) =>
      let (reachable, w) := w.exchange outside.network (probe d header)
      (.ok reachable, w)

end Dialogue.Azure
