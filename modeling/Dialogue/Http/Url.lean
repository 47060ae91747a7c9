import Dialogue.Http.Host

/-!
# Web addresses

A web address is read into its parts and written in its normal form: small letters in the scheme
and the host, no number after the host that goes without saying, no dots among the segments of the
path, and percent signs for characters that may not stand where they do.

A segment such as `C:` is a drive. The segment that stands for the one before does not take a drive
away, and in the address of a file a drive leaves no place for a host.
-/

namespace Dialogue.Http

/-- A web address in its normal form. -/
structure Url where
  scheme : String
  /-- Empty where the address names no user. -/
  user : String
  password : Option String
  /-- None where the address has no place for a host. -/
  host : Option String
  /-- The number after the host, unless it goes without saying. -/
  portNumber : Option Nat
  path : String
  query : Option String
  fragment : Option String
deriving DecidableEq, Repr

namespace Url

/-! ## Writing -/

/-- The path and the query, which are what a server is asked for. -/
def target (u : Url) : String :=
  u.path ++ (match u.query with | some q => "?" ++ q | none => "")

/-- The user and the password as they stand before the host. -/
def renderUser (u : Url) : String :=
  if u.user = "" ∧ u.password = none then ""
  else u.user ++ (match u.password with | some p => ":" ++ p | none => "") ++ "@"

/-- What stands before the path. Two slashes at the start of a path are kept apart from those that
open the place for a host. -/
def renderAuthority (u : Url) : String :=
  match u.host with
  | some host =>
    "//" ++ u.renderUser ++ host ++
      (match u.portNumber with | some n => ":" ++ toString n | none => "")
  | none => if u.path.startsWith "//" then "/." else ""

/-- An address as text. -/
def render (u : Url) : String :=
  u.scheme ++ ":" ++ u.renderAuthority ++ u.target ++
    (match u.fragment with | some f => "#" ++ f | none => "")

/-- Whether the address names a host. -/
def hasHost (u : Url) : Bool :=
  match u.host with
  | some host => host ≠ ""
  | none => false

/-- Whether percent signs in a text stand for well-formed text. -/
def isReadable (text : String) : Bool :=
  (Text.Utf8.decode? (percentDecode (Text.Utf8.encode text.toList))).isSome

/-- Leaves out the user and the password if they can be read. -/
def withoutUser (u : Url) : Url :=
  if isReadable u.user ∧ (u.user ≠ "" ∨ u.password.any isReadable) then
    { u with user := "", password := none }
  else u

/-- The most octets of an address to which a request can be sent. -/
def longest : Nat := 65534

/-- Whether a request can be sent to the address: it is one of the web, not too long, and its host
has no character that has to be quoted. -/
def isSendable (u : Url) : Bool :=
  (u.scheme == "http" || u.scheme == "https") && u.render.utf8ByteSize ≤ longest &&
    !(u.host.getD "").toList.any ['"', '\x60', '\x7b', '\x7d'].contains

/-! ## Schemes -/

/-- The schemes whose addresses always have a host and a path, with the number after the host that
goes without saying. -/
def knownSchemes : List (String × Option Nat) :=
  [("http", some 80), ("https", some 443), ("ws", some 80), ("wss", some 443), ("ftp", some 21),
    ("file", none)]

/-- Whether a scheme is one of these. -/
def isKnown (scheme : String) : Bool :=
  knownSchemes.any (·.1 == scheme)

/-- The number after the host that goes without saying. -/
def defaultNumber (scheme : String) : Option Nat :=
  (knownSchemes.find? (·.1 == scheme)).bind (·.2)

/-- The scheme at the front of an address, and what follows the colon. -/
def readScheme (cs : List Char) : Option (String × List Char) :=
  let isTail (c : Char) : Bool := c.isAlphanum || c == '+' || c == '-' || c == '.'
  match cs with
  | c :: _ =>
    let name := cs.takeWhile isTail
    match cs.drop name.length with
    | ':' :: rest => if c.isAlpha then some (String.ofList (name.map Char.toLower), rest) else none
    | _ => none
  | [] => none

/-- A character that divides a path. -/
def isSlash (known : Bool) (c : Char) : Bool :=
  c == '/' || (known && c == '\\')

/-! ## Characters -/

/-- Characters that may not stand in a fragment. -/
def notInFragment : List Char := [' ', '"', '<', '>', '\x60']

/-- Characters that may not stand in a path. -/
def notInPath : List Char := notInFragment ++ ['#', '?', '\x7b', '\x7d']

/-- Characters that may not stand in a user name or a password. -/
def notInUser : List Char :=
  notInPath ++ ['/', ':', ';', '=', '@', '[', '\\', ']', '^', '|']

/-- Characters that may not stand in a query. -/
def notInQuery (known : Bool) : List Char :=
  [' ', '"', '#', '<', '>'] ++ (if known then ['\''] else [])

/-- Cuts a text before the first character of a kind. -/
def cutBefore (stop : Char → Bool) (cs : List Char) : List Char × List Char :=
  (cs.takeWhile (!stop ·), cs.dropWhile (!stop ·))

/-! ## Paths -/

/-- A segment of a path that stands for the segment itself. -/
def isHere (segment : List Char) : Bool :=
  let s := segment.map Char.toLower
  s == ['.'] || s == "%2e".toList

/-- A segment of a path that stands for the one before. -/
def isUp (segment : List Char) : Bool :=
  ["..", "%2e%2e", "%2e.", ".%2e"].any (·.toList == segment.map Char.toLower)

/-- A segment that is a drive. -/
def isDrive (segment : List Char) : Bool :=
  match segment with
  | [c, d] => c.isAlpha && (d == ':' || d == '|')
  | _ => false

/-- Whether a segment starts with a drive and goes on, if at all, with a backslash. -/
def startsWithDrive (segment : List Char) : Bool :=
  isDrive (segment.take 2) && ((segment.drop 2).head?.map (· == '\\')).getD true

/-- Takes the last of segments away, unless it is a drive; `back` holds the last one first. -/
def dropSegment (back : List (List Char)) : List (List Char) :=
  match back with
  | [] => []
  | s :: rest => if startsWithDrive s then s :: rest else rest

/-- Takes the dots out of segments; `back` holds the segments so far, the last one first. -/
def withoutDots (back : List (List Char)) : List (List Char) → List (List Char)
  | [] => back.reverse
  | [s] =>
    if isUp s then ([] :: dropSegment back).reverse
    else if isHere s then ([] :: back).reverse
    else (s :: back).reverse
  | s :: rest =>
    if isUp s then withoutDots (dropSegment back) rest
    else if isHere s then withoutDots back rest
    else withoutDots (s :: back) rest

/-- The segments of a path after its first slash. -/
def segments (known : Bool) (cs : List Char) : List (List Char) :=
  let cs := if known then cs.map fun c => if c = '\\' then '/' else c else cs
  (cs.splitOn '/').map (percentEncode notInPath)

/-- The path of segments. -/
def pathOf (segments : List (List Char)) : String :=
  String.ofList ((withoutDots [] segments).flatMap ('/' :: ·))

/-- The path of a file: a drive is written with a colon, and one slash stands at the start. -/
def filePathOf (segments : List (List Char)) : String :=
  let settled := segments.map fun s => if isDrive s then s.take 1 ++ [':'] else s
  String.ofList ('/' :: (pathOf settled).toList.dropWhile (· == '/'))

/-! ## Users, hosts and numbers -/

/-- What stands between the double slash and the path. -/
structure Authority where
  /-- What stands before the last `@`. -/
  user : Option (List Char)
  host : List Char
  /-- What stands after the colon. -/
  portDigits : Option (List Char)

/-- Cuts off what stands before the last `@`. -/
def cutUser (cs : List Char) : Option (List Char) × List Char :=
  let after := (cs.reverse.takeWhile (· != '@')).reverse
  if after.length = cs.length then (none, cs)
  else (some (cs.take (cs.length - after.length - 1)), after)

/-- Cuts a text at the colon after the host, which does not stand in brackets. -/
def cutHost (inside : Bool) : List Char → List Char × Option (List Char)
  | [] => ([], none)
  | c :: rest =>
    if c = ':' ∧ !inside then ([], some rest)
    else
      let inside := if c = '[' then true else if c = ']' then false else inside
      let (host, digits) := cutHost inside rest
      (c :: host, digits)

/-- Cuts an authority into its parts. -/
def Authority.ofText (cs : List Char) : Authority :=
  let (user, rest) := cutUser cs
  let (host, portDigits) := cutHost false rest
  ⟨user, host, portDigits⟩

/-- The user name and the password of what stands before `@`. -/
def readUser (cs : List Char) : String × Option String :=
  let (name, rest) := cutBefore (· == ':') cs
  let text (cs : List Char) : String := String.ofList (percentEncode notInUser cs)
  (text name, if rest.tail.isEmpty then none else some (text rest.tail))

/-- The number after the host of an authority, none where it goes without saying. -/
def readPortNumber? (scheme : String) (digits : List Char) : Option (Option Nat) :=
  if digits.isEmpty then some none
  else do
    let n ← readBase 10 digits
    if 65535 < n then none
    else if defaultNumber scheme = some n then some none
    else some (some n)

/-! ## Reading -/

/-- Reads what stands after a double slash. `isLast` says that nothing follows it in the address. In
an address of no known scheme a backslash ends the number after the host. -/
def readHosted? (scheme : String) (cs : List Char) (isLast : Bool) : Option Url := do
  let known := isKnown scheme
  let (authority, path) := cutBefore (isSlash known) cs
  let a := Authority.ofText authority
  if a.user = some [] ∧ authority.length = 1 ∧ !(path.isEmpty ∧ isLast) then none
  let (user, password) := readUser (a.user.getD [])
  let host ← if known then readHost? a.host else readOtherHost? a.host
  if host = "" ∧ (a.portDigits.isSome ∨ user ≠ "" ∨ password.isSome) then none
  let (digits, extra) := cutBefore (· == '\\') (a.portDigits.getD [])
  let portNumber ← readPortNumber? scheme digits
  let path :=
    if !extra.isEmpty then pathOf (segments known (extra ++ path))
    else if path.isEmpty ∧ !known then ""
    else pathOf (segments known path.tail)
  some ⟨scheme, user, password, some host, portNumber, path, none, none⟩

/-- Reads the address of a file after the colon. -/
def readFile? (cs : List Char) : Option Url :=
  let make (host path : String) : Url := ⟨"file", "", none, some host, none, path, none, none⟩
  let here (path : List Char) : Url := make "" (filePathOf (segments true path))
  let opened := (cs.takeWhile (isSlash true)).length
  if opened < 2 then some (here (cs.drop opened))
  else
    let (host, path) := cutBefore (isSlash true) (cs.drop 2)
    if isDrive host then some (here (cs.drop 2))
    else if host.isEmpty then some (here path.tail)
    else (readHost? host).map fun host =>
      let steps := segments true path.tail
      make (if host = "localhost" ∨ steps.any isDrive then "" else host) (filePathOf steps)

/-- Reads an address without its query and its fragment. `isLast` says that it has neither. -/
def readPlace? (scheme : String) (cs : List Char) (isLast : Bool) : Option Url :=
  let hostless (path : String) : Url := ⟨scheme, "", none, none, none, path, none, none⟩
  if scheme = "file" then readFile? cs
  else if isKnown scheme then readHosted? scheme (cs.dropWhile (isSlash true)) isLast
  else
    match cs with
    | '/' :: '/' :: rest => readHosted? scheme rest isLast
    | '/' :: rest => some (hostless (pathOf (segments false rest)))
    | cs => some (hostless (String.ofList (percentEncode [] cs)))

/-- Reads an address. Blanks around it do not count, nor do the ends of lines in it. -/
def read? (text : String) : Option Url := do
  let isEdge (c : Char) : Bool := c.toNat ≤ 0x20
  let cs := ((text.toList.dropWhile isEdge).reverse.dropWhile isEdge).reverse
  let cs := cs.filter fun c => c != '\t' && c != '\n' && c != '\r'
  let (scheme, rest) ← readScheme cs
  let (rest, fragment) := cutBefore (· == '#') rest
  let (rest, query) := cutBefore (· == '?') rest
  let place ← readPlace? scheme rest (query.isEmpty && fragment.isEmpty)
  let text (also : List Char) (cs : List Char) : Option String :=
    cs.head?.map fun _ => String.ofList (percentEncode also cs.tail)
  some { place with
    query := text (notInQuery (isKnown scheme)) query
    fragment := text notInFragment fragment }

end Url

end Dialogue.Http
