import Dialogue.Json.Decode
import Dialogue.Text.Utf8

/-!
# Run contexts

A run has an identifier of 128 bits, and parameters that its caller may attach. An identifier is
written as 32 hexadecimal digits in groups of 8, 4, 4, 4 and 12. It is read in that form, also in
braces or after `urn:uuid:`, and as 32 digits without hyphens; digits of either case are read.
-/

namespace Dialogue

/-- The identifier of a run. -/
structure RunId where
  value : BitVec 128
deriving DecidableEq, Repr

namespace RunId

/-! ## Writing -/

/-- The lengths of the groups. -/
def groupLengths : List Nat := [8, 4, 4, 4, 12]

/-- Cuts digits into groups of the given lengths, with hyphens between them. -/
def hyphenated : List Nat → List Char → List Char
  | [], ds => ds
  | [n], ds => ds.take n
  | n :: ns, ds => ds.take n ++ '-' :: hyphenated ns (ds.drop n)

/-- The 32 digits of an identifier. -/
def digits (id : RunId) : List Char :=
  let ds := Nat.toDigits 16 id.value.toNat
  List.replicate (32 - ds.length) '0' ++ ds

/-- An identifier as text. -/
def render (id : RunId) : String :=
  String.ofList (hyphenated groupLengths id.digits)

/-! ## Reading -/

/-- The value of a hexadecimal digit. -/
def digitValue? (c : Char) : Option Nat :=
  if '0' ≤ c ∧ c ≤ '9' then some (c.toNat - '0'.toNat)
  else if 'a' ≤ c ∧ c ≤ 'f' then some (c.toNat - 'a'.toNat + 10)
  else if 'A' ≤ c ∧ c ≤ 'F' then some (c.toNat - 'A'.toNat + 10)
  else none

/-- The identifier of 32 digits. -/
def ofDigits? (ds : List Char) : Option RunId :=
  if ds.length = 32 then
    (ds.mapM digitValue?).map fun vs => ⟨BitVec.ofNat 128 (vs.foldl (fun n v => n * 16 + v) 0)⟩
  else none

/-- Takes the hyphens out of a text with groups of the right lengths. -/
def joined? : List Nat → List Char → Option (List Char)
  | [], cs => some cs
  | [n], cs => if cs.length = n then some cs else none
  | n :: ns, cs =>
    match cs.drop n with
    | '-' :: rest => (joined? ns rest).map (cs.take n ++ ·)
    | _ => none

/-- What stands around the digits of an identifier. -/
structure Wrapped where
  /-- The text inside. -/
  inner : List Char
  /-- How many characters stand before it. -/
  before : Nat

/-- Takes off the braces or the mark `urn:uuid:`. -/
def unwrap? (cs : List Char) : Option Wrapped :=
  match cs with
  | '{' :: rest => if rest.getLast? = some '}' then some ⟨rest.dropLast, 1⟩ else none
  | 'u' :: 'r' :: 'n' :: ':' :: 'u' :: 'u' :: 'i' :: 'd' :: ':' :: rest => some ⟨rest, 9⟩
  | _ => none

/-- Why a text is not an identifier. -/
inductive Fault where
  /-- A character that is neither a digit nor a hyphen, and its place counted from 1. -/
  | badCharacter (c : Char) (place : Nat)
  | badLength (length : Nat)
  | badGroupCount (count : Nat)
  | badGroupLength (group expected length : Nat)
deriving DecidableEq, Repr

/-- The wording of a fault. -/
def Fault.message : Fault → String
  | .badCharacter c place =>
    "invalid character: expected an optional prefix of `urn:uuid:` followed by [0-9a-fA-F-]" ++
      ", found `" ++ String.singleton c ++ "` at " ++ toString place
  | .badLength length =>
    "invalid length: expected length 32 for simple format, found " ++ toString length
  | .badGroupCount count => "invalid group count: expected 5, found " ++ toString count
  | .badGroupLength group expected length =>
    "invalid group length in group " ++ toString group ++ ": expected " ++ toString expected ++
      ", found " ++ toString length

/-- The first character that is neither a digit nor a hyphen, with its place in octets. -/
def firstBad? (place : Nat) : List Char → Option (Char × Nat)
  | [] => none
  | c :: cs =>
    if c = '-' ∨ (digitValue? c).isSome then firstBad? (place + (Text.Utf8.octetsOf c).length) cs
    else some (c, place)

/-- The first group of a wrong length: its number, the right length and its own. Of the last group
the length is counted to the end of the whole text, which has `total` octets. -/
def badGroup (total group : Nat) : List Nat → List (List Char) → Fault
  | [n], _ => .badGroupLength group n (total - 24)
  | n :: ns, g :: gs =>
    if g.length = n then badGroup total (group + 1) ns gs else .badGroupLength group n g.length
  | _, _ => .badGroupCount group

/-- Why a text that cannot be read is not an identifier. -/
def diagnose (cs : List Char) : Fault :=
  let total := (Text.Utf8.encode cs).length
  let (inner, before, bare) := match unwrap? cs with
    | some w => (w.inner, w.before, false)
    | none => (cs, 0, true)
  match firstBad? (before + 1) inner with
  | some (c, place) => .badCharacter c place
  | none =>
    let groups := inner.splitOn '-'
    if groups.length = 1 ∧ bare then .badLength total
    else if groups.length ≠ 5 then .badGroupCount groups.length
    else badGroup total 0 groupLengths groups

/-- Reads an identifier. -/
def read (cs : List Char) : Except Fault RunId :=
  let inner := match unwrap? cs with
    | some w => joined? groupLengths w.inner
    | none => if cs.length = 32 then some cs else joined? groupLengths cs
  match inner.bind ofDigits? with
  | some id => .ok id
  | none => .error (diagnose cs)

/-- Reads an identifier. -/
def decode : Json.Decoder RunId :=
  .formatted "a UUID string" fun s =>
    (read s.toList).mapError fun e => "UUID parsing failed: " ++ e.message

end RunId

/-- What is known about a run. -/
structure RunContext where
  id : RunId
  params : Members
deriving DecidableEq, Repr

namespace RunContext

/-- A context as a value. -/
def toJson (c : RunContext) : Json :=
  Json.object [("run_id", .str c.id.render), ("params", .obj c.params)]

/-- Reads a context. -/
def decode : Json.Decoder RunContext :=
  Json.Record.decoder "RunContext" 2 <|
    RunContext.mk <$> .required "run_id" RunId.decode <*> .withDefault "params" .map []

end RunContext

end Dialogue
