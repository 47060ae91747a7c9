import Dialogue.Azure.Token
import Dialogue.Table
import Dialogue.Text.Utf8
import Dialogue.Text.Blank

/-!
# Credentials

A credential gives tokens for scopes. One kind holds a token that was issued beforehand. The other
runs the command line tool `az` and keeps the tokens, one for each scope, until five minutes before
they expire.
-/

namespace Dialogue.Azure

/-- What comes of running a command. -/
inductive CommandOutcome where
  /-- The command could not be started, for this reason. -/
  | notStarted (reason : String)
  /-- The command ended. One that a signal ended has a code other than 0. -/
  | finished (code : Nat) (output errors : List Nat)
deriving DecidableEq, Repr

/-- A command with a world of type `σ`: from its arguments to what comes of running it. -/
abbrev Command (σ : Type) := List String → σ → CommandOutcome × σ

/-- What comes of asking for a token. -/
inductive TokenOutcome where
  | token (t : AccessToken)
  | failed (failure : Failure)
  /-- The expiry of the kept token lies too early for its margin. -/
  | expiryOutOfRange
deriving DecidableEq, Repr

/-- The scope of the services for models. -/
def serviceScope : String := "https://cognitiveservices.azure.com/.default"

/-- Tokens are kept until so many seconds before they expire. -/
def refreshMargin : Int := 300

/-- The arguments that make the tool print a token. -/
def tokenArguments (scope : String) : List String :=
  ["account", "get-access-token", "--output", "json", "--scope", scope]

/-- No argument of a command may hold the character NUL. -/
def scopeWithNul : Failure :=
  .unauthorized "Azure CLI not available: nul byte found in provided data"

/-- The token in what came of running the tool. -/
def tokenOf (zone : Time.Zone) : CommandOutcome → Except Failure AccessToken
  | .notStarted reason => .error (.unauthorized ("Azure CLI not available: " ++ reason))
  | .finished 0 output _ => readToken zone output
  | .finished _ _ errors =>
    let reason := Text.trim (Text.Utf8.decodeLossy errors)
    .error (.unauthorized ("az account get-access-token failed: " ++ String.ofList reason))

/-- The tokens that are kept, by their scopes. -/
abbrev TokenStore := Table AccessToken

namespace TokenStore

/-- What is kept for a scope. -/
inductive Kept where
  | fresh (t : AccessToken)
  /-- Nothing, or a token that is about to expire. -/
  | stale
  | expiryOutOfRange
deriving DecidableEq, Repr

/-- What is kept for a scope at an instant. -/
def kept (store : TokenStore) (scope : String) (now : Time.Instant) : Kept :=
  match Table.lookup scope store with
  | none => .stale
  | some t =>
    match t.expiresWithin? refreshMargin now with
    | none => .expiryOutOfRange
    | some true => .stale
    | some false => .fresh t

variable {σ : Type}

/-- A token for a scope: the one that is kept if it is fresh, otherwise a new one, which is then
kept. -/
def token (store : TokenStore) (az : Command σ) (zone : Time.Zone) (now : Time.Instant)
    (scope : String) (w : σ) : TokenOutcome × TokenStore × σ :=
  match kept store scope now with
  | .fresh t => (.token t, store, w)
  | .expiryOutOfRange => (.expiryOutOfRange, store, w)
  | .stale =>
    if scope.toList.contains '\x00' then (.failed scopeWithNul, store, w)
    else
      let (outcome, w) := az (tokenArguments scope) w
      match tokenOf zone outcome with
      | .ok t => (.token t, Table.insert scope t store, w)
      | .error e => (.failed e, store, w)

end TokenStore

/-- Where tokens come from. -/
inductive Credential where
  /-- A token that was issued beforehand and never expires. -/
  | issued (token : String)
  | commandLine
deriving DecidableEq, Repr

namespace Credential

/-- The token that was issued beforehand if there is one, otherwise the command line tool. -/
def default : Option String → Credential
  | some token => .issued token
  | none => .commandLine

variable {σ : Type}

/-- A token for a scope. -/
def token (c : Credential) (az : Command σ) (zone : Time.Zone) (now : Time.Instant)
    (scope : String) (store : TokenStore) (w : σ) : TokenOutcome × TokenStore × σ :=
  match c with
  | .issued t => (.token ⟨t, .last⟩, store, w)
  | .commandLine => store.token az zone now scope w

end Credential

end Dialogue.Azure
