import Dialogue.Http.Url
import Dialogue.Json.Parser

/-!
# HTTP

Requests, responses, and the reasons for which a request is not answered. A request is refused
before it is sent if its address is not one to which it can be sent or a header value has characters
that may not stand there. User names and passwords are taken out of its address.

A body is read as a text in the charset that its headers or a mark at its start name. The library
knows UTF-8 only: whoever makes a response supplies the text of a body in another charset.
-/

namespace Dialogue.Http

/-- A header with its name in small letters and its value in octets. -/
structure Header where
  name : String
  value : List Nat
deriving DecidableEq, Repr

namespace Header

/-- The header of a text. -/
def ofText (name value : String) : Header :=
  ⟨name, Text.Utf8.encode value.toList⟩

/-- Octets that may stand in a value. -/
def isAllowed (o : Nat) : Bool :=
  o == 0x09 || (0x20 ≤ o && o != 0x7F)

/-- Whether the header may be sent. -/
def isValid (h : Header) : Bool :=
  h.value.all isAllowed

/-- The value as a text, if it has only visible characters of ASCII, spaces and tabs. -/
def text? (h : Header) : Option String :=
  if h.value.all fun o => o == 0x09 || (0x20 ≤ o && o < 0x7F) then
    some (String.ofList (h.value.map Char.ofNat))
  else none

end Header

/-- What is asked of a server. -/
inductive Method where
  | get
  | post
deriving DecidableEq, Repr

/-- A request. -/
structure Request where
  method : Method
  url : Url
  headers : List Header
  body : Option Json
deriving DecidableEq, Repr

/-- A response. Its status and headers come before its body, of which the end may be missing. -/
structure Response where
  status : Nat
  headers : List Header
  body : List Nat
  /-- The wording of what kept the body from being read to its end. -/
  cutOff : Option String
  /-- The text of a body in another charset than UTF-8. -/
  foreignText : Option (List Char)
deriving DecidableEq, Repr

namespace Response

/-- Whether the request succeeded. -/
def isSuccess (r : Response) : Bool :=
  200 ≤ r.status && r.status < 300

/-- The first header of a name. -/
def header? (r : Response) (name : String) : Option Header :=
  r.headers.find? (·.name == name)

/-- The body as a JSON value, if it is whole and one. -/
def json? (r : Response) : Option Json :=
  if r.cutOff.isSome then none else (Json.parseOctets r.body).toOption

/-- The text of octets in UTF-8, without a byte order mark and with U+FFFD for what is
ill-formed. -/
def textOf : List Nat → List Char
  | 0xEF :: 0xBB :: 0xBF :: rest => Text.Utf8.decodeLossy rest
  | octets => Text.Utf8.decodeLossy octets

/-- The body as a text. -/
def text (r : Response) : List Char :=
  r.foreignText.getD (textOf r.body)

end Response

/-! ## Status codes -/

/-- The names of status codes. -/
def reasons : List (Nat × String) :=
  [(100, "Continue"), (101, "Switching Protocols"), (102, "Processing"), (200, "OK"),
    (201, "Created"), (202, "Accepted"), (203, "Non Authoritative Information"),
    (204, "No Content"), (205, "Reset Content"), (206, "Partial Content"), (207, "Multi-Status"),
    (208, "Already Reported"), (226, "IM Used"), (300, "Multiple Choices"),
    (301, "Moved Permanently"), (302, "Found"), (303, "See Other"), (304, "Not Modified"),
    (305, "Use Proxy"), (307, "Temporary Redirect"), (308, "Permanent Redirect"),
    (400, "Bad Request"), (401, "Unauthorized"), (402, "Payment Required"), (403, "Forbidden"),
    (404, "Not Found"), (405, "Method Not Allowed"), (406, "Not Acceptable"),
    (407, "Proxy Authentication Required"), (408, "Request Timeout"), (409, "Conflict"),
    (410, "Gone"), (411, "Length Required"), (412, "Precondition Failed"),
    (413, "Payload Too Large"), (414, "URI Too Long"), (415, "Unsupported Media Type"),
    (416, "Range Not Satisfiable"), (417, "Expectation Failed"), (418, "I'm a teapot"),
    (421, "Misdirected Request"), (422, "Unprocessable Entity"), (423, "Locked"),
    (424, "Failed Dependency"), (425, "Too Early"), (426, "Upgrade Required"),
    (428, "Precondition Required"), (429, "Too Many Requests"),
    (431, "Request Header Fields Too Large"), (451, "Unavailable For Legal Reasons"),
    (500, "Internal Server Error"), (501, "Not Implemented"), (502, "Bad Gateway"),
    (503, "Service Unavailable"), (504, "Gateway Timeout"), (505, "HTTP Version Not Supported"),
    (506, "Variant Also Negotiates"), (507, "Insufficient Storage"), (508, "Loop Detected"),
    (510, "Not Extended"), (511, "Network Authentication Required")]

/-- A status code with its name. -/
def statusLine (status : Nat) : String :=
  let reason := ((reasons.find? (·.1 == status)).map (·.2)).getD "<unknown status code>"
  toString status ++ " " ++ reason

/-! ## Faults -/

/-- Why a request that was sent has no response. -/
inductive Trouble where
  /-- There is no connection. -/
  | unreachable
  | timedOut
  /-- The connection broke. -/
  | broken
deriving DecidableEq, Repr

/-- Why a request has no response. -/
inductive Fault where
  /-- The request cannot be made. -/
  | malformed
  /-- The address is not one to which a request can be sent. -/
  | unsendable (url : Url)
  | trouble (trouble : Trouble) (url : Url)
deriving DecidableEq, Repr

namespace Fault

/-- The wording of a fault. -/
def message : Fault → String
  | .malformed => "builder error"
  | .unsendable url => "builder error for url (" ++ url.render ++ ")"
  | .trouble _ url => "error sending request for url (" ++ url.render ++ ")"

/-- Whether the server is away or does not answer in time. -/
def isAway : Fault → Bool
  | .trouble .unreachable _ | .trouble .timedOut _ => true
  | _ => false

end Fault

/-- Makes a request, or says why it cannot be made. -/
def makeRequest (method : Method) (address : String) (headers : List Header) (body : Option Json) :
    Except Fault Request :=
  match Url.read? address with
  | none => .error .malformed
  | some url =>
    if !url.hasHost then .error (.unsendable url)
    else if headers.any (!·.isValid) then .error .malformed
    else if !url.withoutUser.isSendable then .error (.unsendable url.withoutUser)
    else .ok ⟨method, url.withoutUser, headers, body⟩

end Dialogue.Http
