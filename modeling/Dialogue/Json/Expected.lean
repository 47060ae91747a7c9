import Dialogue.Json.Decode
import Dialogue.Json.Skip

/-!
# Reading a text against an expected form

A text whose form is known beforehand is checked while it is read, so that the fault reported is the
first departure in the order of the text, be it a fault of the text or of what stands in it. The
result is the value restricted to what was expected: fields nobody asked for are passed over.
-/

namespace Dialogue.Json

/-- What a text should hold. -/
inductive Form where
  | any
  | text
  /-- An integer of 64 bits with a sign. -/
  | integer
  | nullable (form : Form)
  /-- A record: for each field its name, its form and whether it must be there. -/
  | record (name : String) (fields : List (String × Form × Bool))

/-- Why a text does not hold what it should. -/
inductive FormFault where
  | text (fault : TextFault)
  | content (fault : DecodeFault)
deriving DecidableEq, Repr

/-- The wording of a fault. -/
def FormFault.message : FormFault → String
  | .text fault => fault.message
  | .content fault => fault.message

/-- Lifts a reading step. -/
def asText {α : Type} (r : Except TextFault α) : Except FormFault α :=
  r.mapError .text

/-- Reads what stands where `expected` should, and reports it. Arrays and objects are not read. -/
def refuseText {α : Type} (src : Source) (fuel : Nat) (expected : String) (cs : List Char) :
    Except FormFault α :=
  let report (found : String) : Except FormFault α := .error (.content (.wrongType found expected))
  match skipSpace cs with
  | [] => .error (.text .endInValue)
  | '[' :: _ => report "sequence"
  | '{' :: _ => report "map"
  | cs => do
    let (v, _) ← asText (readValue src fuel depthLimit cs)
    report v.describe

/-- The form of the field of a name. -/
def fieldForm? (name : String) (fields : List (String × Form × Bool)) : Option Form :=
  (fields.find? (·.1 == name)).map (·.2.1)

/-- The first field that must be there and was not read. -/
def firstMissing? (fields : List (String × Form × Bool)) (read : Members) : Option String :=
  (fields.find? fun (name, _, needed) => needed && (Table.lookup name read).isNone).map (·.1)

mutual

/-- Reads a value of a form, with blanks before it. -/
def readForm (src : Source) :
    (fuel depth : Nat) → Form → List Char → Except FormFault (Json × List Char)
  | 0, _, _, _ => .error (.text .tooDeep)
  | fuel + 1, depth, .any, cs => asText (readValue src fuel depth cs)
  | fuel + 1, _, .text, cs =>
    match skipSpace cs with
    | '"' :: cs => do
      let (s, rest) ← asText (readString src fuel cs)
      .ok (.str s, rest)
    | cs => refuseText src fuel "a string" cs
  | fuel + 1, _, .integer, cs => do
    let number (r : Except TextFault (Number × List Char)) :
        Except FormFault (Json × List Char) := do
      let (n, rest) ← asText r
      let i ← (Decoder.i64 (.num n)).mapError .content
      .ok (.ofInt i, rest)
    match skipSpace cs with
    | '-' :: cs => number (readNumber true cs)
    | [] => .error (.text .endInValue)
    | c :: cs =>
      if isDigit c then number (readNumber false (c :: cs)) else refuseText src fuel "i64" (c :: cs)
  | fuel + 1, depth, .nullable form, cs =>
    match skipSpace cs with
    | 'n' :: cs => do
      let rest ← asText (readLiteral ['u', 'l', 'l'] cs)
      .ok (.null, rest)
    | cs => readForm src fuel depth form cs
  | fuel + 1, depth, .record name fields, cs =>
    match skipSpace cs with
    | '{' :: cs =>
      if depth ≤ 1 then .error (.text .tooDeep)
      else do
        let (ms, rest) ← readFields src fuel (depth - 1) fields true [] cs
        match firstMissing? fields ms with
        | some missing => .error (.content (.missingField missing))
        | none => .ok (.obj ms, rest)
    | '[' :: cs =>
      if depth ≤ 1 then .error (.text .tooDeep)
      else do
        let shape := Record.shapeOf name fields.length
        let (ms, rest) ← readPlaces src fuel (depth - 1) shape fields 0 cs
        match skipSpace rest with
        | [] => .error (.text .endInList)
        | ']' :: rest => .ok (object ms, rest)
        | ',' :: rest =>
          match skipSpace rest with
          | ']' :: _ => .error (.text .trailingComma)
          | _ => .error (.text .trailingCharacters)
        | _ => .error (.text .trailingCharacters)
    | cs => refuseText src fuel ("struct " ++ name) cs

/-- Reads the fields of a record up to the closing brace. `first` says that none was read yet. -/
def readFields (src : Source) :
    (fuel depth : Nat) → List (String × Form × Bool) → (first : Bool) → Members → List Char →
      Except FormFault (Members × List Char)
  | 0, _, _, _, _, _ => .error (.text .tooDeep)
  | fuel + 1, depth, fields, first, read, cs => do
    let cs ← match skipSpace cs, first with
      | [], _ => .error (.text .endInObject)
      | '}' :: rest, _ => return (read, rest)
      | '"' :: rest, true => .ok rest
      | _, true => .error (.text .keyNotString)
      | ',' :: rest, false =>
        match skipSpace rest with
        | [] => .error (.text .endInValue)
        | '"' :: rest => .ok rest
        | '}' :: _ => .error (.text .trailingComma)
        | _ => .error (.text .keyNotString)
      | _, false => .error (.text .noCommaOrBrace)
    let (name, rest) ← asText (readString src fuel cs)
    let form := fieldForm? name fields
    if form.isSome ∧ (Table.lookup name read).isSome then
      throw (.content (.duplicateField name))
    match skipSpace rest, form with
    | [], _ => .error (.text .endInObject)
    | ':' :: rest, some form => do
      let (v, rest) ← readForm src fuel depth form rest
      readFields src fuel depth fields false (Table.insert name v read) rest
    | ':' :: rest, none => do
      let rest ← asText (skipValue src fuel rest)
      readFields src fuel depth fields false read rest
    | _, _ => .error (.text .noColon)

/-- Reads a record given by position, up to but without the closing bracket. `place` is that of the
next field among all fields. -/
def readPlaces (src : Source) :
    (fuel depth : Nat) → (shape : String) → List (String × Form × Bool) → (place : Nat) →
      List Char → Except FormFault (Members × List Char)
  | 0, _, _, _, _, _ => .error (.text .tooDeep)
  | _ + 1, _, _, [], _, cs => .ok ([], cs)
  | fuel + 1, depth, shape, (name, form, needed) :: fields, place, cs => do
    let next ← match skipSpace cs, place with
      | [], _ => .error (.text .endInList)
      | ']' :: _, _ => .ok none
      | cs, 0 => .ok (some cs)
      | ',' :: rest, _ =>
        match skipSpace rest with
        | [] => .error (.text .endInValue)
        | ']' :: _ => .error (.text .trailingComma)
        | rest => .ok (some rest)
      | _, _ => .error (.text .noCommaOrBracket)
    match next with
    | none =>
      if needed then .error (.content (.tooShort place shape))
      else readPlaces src fuel depth shape fields (place + 1) cs
    | some cs => do
      let (v, rest) ← readForm src fuel depth form cs
      let (ms, rest) ← readPlaces src fuel depth shape fields (place + 1) rest
      .ok ((name, v) :: ms, rest)

end

/-- Reads a whole text as a value of a form. -/
def parseForm (src : Source) (form : Form) (cs : List Char) : Except FormFault Json := do
  let (v, rest) ← readForm src (4 * cs.length + 16) depthLimit form cs
  asText (finish (v, rest))

end Dialogue.Json
