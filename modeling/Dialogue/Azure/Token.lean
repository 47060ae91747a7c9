import Dialogue.Failure
import Dialogue.Json.Expected
import Dialogue.Time.Timestamp

/-!
# Access tokens

A token and when it expires. The command line tool `az` prints one as JSON, with its expiry as a
number of seconds or as a local time; the number counts if both are there and it is an instant.
-/

namespace Dialogue.Azure

/-- An access token. -/
structure AccessToken where
  token : String
  expiresOn : Time.Instant
deriving DecidableEq, Repr

namespace AccessToken

/-- Whether a token expires within so many seconds of an instant; none if the instant that many
seconds before the expiry does not exist. -/
def expiresWithin? (t : AccessToken) (seconds : Int) (now : Time.Instant) : Option Bool :=
  (t.expiresOn.earlier? seconds).map (·.le now)

end AccessToken

/-- The form of what the tool prints. -/
def printedForm : Json.Form :=
  .record "CliTokenResponse" [("accessToken", .text, true),
    ("expires_on", .nullable .integer, false), ("expiresOn", .nullable .text, false)]

/-- The expiry in what the tool printed. -/
def expiryOf? (zone : Time.Zone) (printed : Json) : Option Time.Instant :=
  let seconds := (printed.get? "expires_on").bind Json.int?
  let localTime := (printed.get? "expiresOn").bind Json.text?
  (seconds.bind Time.Instant.ofSeconds?).or
    (localTime.bind fun s => Time.readLocal? zone s.toList)

/-- Reads what the tool printed. -/
def readToken (zone : Time.Zone) (output : List Nat) : Except Failure AccessToken :=
  match Json.parseForm .octets printedForm (output.map Char.ofNat) with
  | .error e => .error (.unauthorized ("unexpected Azure CLI output: " ++ e.message))
  | .ok printed =>
    match expiryOf? zone printed with
    | none => .error (.unauthorized "Azure CLI token has no expiry")
    | some expiry =>
      .ok ⟨((printed.get? "accessToken").bind Json.text?).getD "", expiry⟩

end Dialogue.Azure
