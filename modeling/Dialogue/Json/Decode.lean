import Dialogue.Json.Printer
import Dialogue.Text.Quoted

/-!
# Decoding values into records

A decoder turns a value into a domain type or says why the value does not fit. Records are built
with `Record`, one field after another in the order in which they are declared; a record is read
from an object by the names of its fields, or from an array by their positions.

Which fault of a record is reported is fixed as follows. In an object the fields that stand there
are examined in the order of their names; only when all of them fit is the first missing field, in
the order of declaration, reported. In an array the items are examined one after another.
-/

namespace Dialogue.Json

/-- Why a value does not fit. -/
inductive DecodeFault where
  | missingField (name : String)
  | duplicateField (name : String)
  /-- Something of the wrong kind stands where `expected` should. -/
  | wrongType (found expected : String)
  | outOfRange (value : Int) (expected : String)
  | unknownVariant (name : String) (known : List String)
  /-- An array that ends before the record is complete. The field that lacks its item stands at this
  place, counted from zero. -/
  | tooShort (place : Nat) (expected : String)
  /-- An array that goes on after the record is complete. -/
  | tooLong (length : Nat)
  /-- An object of no or several members where one alternative should be named. -/
  | notOneMember
  /-- A text whose own format is broken, with the wording of that format. -/
  | badText (reason : String)
deriving DecidableEq, Repr

/-- Alternatives, as they are listed in a fault. -/
def listAlternatives (names : List String) : String :=
  let marked := names.map fun n => "`" ++ n ++ "`"
  match marked with
  | [] => "nothing"
  | [a] => a
  | [a, b] => a ++ " or " ++ b
  | _ => "one of " ++ ", ".intercalate marked

/-- The wording of a fault. -/
def DecodeFault.message : DecodeFault → String
  | .missingField name => "missing field `" ++ name ++ "`"
  | .duplicateField name => "duplicate field `" ++ name ++ "`"
  | .wrongType found expected => "invalid type: " ++ found ++ ", expected " ++ expected
  | .outOfRange value expected =>
    "invalid value: integer `" ++ String.ofList (intChars value) ++ "`, expected " ++ expected
  | .unknownVariant name known =>
    "unknown variant `" ++ name ++ "`, expected " ++ listAlternatives known
  | .tooShort place expected => "invalid length " ++ toString place ++ ", expected " ++ expected
  | .tooLong length =>
    "invalid length " ++ toString length ++ ", expected fewer elements in array"
  | .notOneMember => "invalid value: map, expected map with a single key"
  | .badText reason => reason

/-- A decoder of `α`. -/
abbrev Decoder (α : Type) := Json → Except DecodeFault α

/-- How a number is called in a fault. -/
def describeNumber : Number → String
  | .int n => "integer `" ++ String.ofList (intChars n) ++ "`"
  | .float x => "floating point `" ++ String.ofList (floatChars x) ++ "`"

/-- How a value is called in a fault. -/
def describe : Json → String
  | .null => "null"
  | .bool b => "boolean `" ++ toString b ++ "`"
  | .num n => describeNumber n
  | .str s => "string " ++ Text.quoted s
  | .arr _ => "sequence"
  | .obj _ => "map"

namespace Decoder

/-- Refuses a value. -/
def refuse {α : Type} (expected : String) (v : Json) : Except DecodeFault α :=
  .error (.wrongType v.describe expected)

/-- Any value. -/
def any : Decoder Json := .ok

/-- A string. -/
def string : Decoder String
  | .str s => .ok s
  | v => refuse "a string" v

/-- A boolean. -/
def boolean : Decoder Bool
  | .bool b => .ok b
  | v => refuse "a boolean" v

/-- An integer from `low` to `high`, of a type called `expected`. -/
def integer (expected : String) (low high : Int) : Decoder Int
  | .num (.int n) => if low ≤ n ∧ n ≤ high then .ok n else .error (.outOfRange n expected)
  | v => refuse expected v

/-- A word of 32 bits, as a number. -/
def word32 : Decoder UInt32 := fun v =>
  (integer "u32" 0 0xFFFFFFFF v).map fun n => UInt32.ofNat n.toNat

/-- A natural number of 64 bits that counts. -/
def usize : Decoder Nat := fun v => (integer "usize" 0 0xFFFFFFFFFFFFFFFF v).map Int.toNat

/-- An integer of 64 bits. -/
def i64 : Decoder Int := integer "i64" (-0x8000000000000000) 0x7FFFFFFFFFFFFFFF

/-- `null` for none. -/
def nullable {α : Type} (d : Decoder α) : Decoder (Option α)
  | .null => .ok none
  | v => (d v).map some

/-- An array, its items examined in order. -/
def list {α : Type} (d : Decoder α) : Decoder (List α)
  | .arr xs => xs.mapM d
  | v => refuse "a sequence" v

/-- An object with free names. -/
def map : Decoder Members
  | .obj ms => .ok ms
  | v => refuse "a map" v

/-- `null`, the content of an alternative that has none. -/
def unit : Decoder Unit
  | .null => .ok ()
  | v => refuse "unit" v

/-- A string in a format of its own. `expected` is how the format is called. -/
def formatted {α : Type} (expected : String) (read : String → Except String α) : Decoder α
  | .str s => (read s).mapError .badText
  | v => refuse expected v

end Decoder

/-! ## Records -/

/-- Why the fields of an object do not make a record. -/
inductive FieldFault where
  /-- The field of this name does not fit. -/
  | bad (name : String) (fault : DecodeFault)
  | missing (name : String)

namespace FieldFault

/-- Of two faults of one object, the one that is reported: the bad field of the lesser name, a bad
field before a missing one, and of two missing ones the first declared. -/
def first : FieldFault → FieldFault → FieldFault
  | .bad j e, .bad k f => if k < j then .bad k f else .bad j e
  | .bad j e, .missing _ => .bad j e
  | .missing _, .bad k f => .bad k f
  | .missing j, .missing _ => .missing j

/-- The fault of the record. -/
def toDecodeFault : FieldFault → DecodeFault
  | .bad _ fault => fault
  | .missing name => .missingField name

end FieldFault

/-- What is left of an array while a record is read from it, and the place of the next field among
all fields. An array that has ended has places left. -/
structure ItemsLeft where
  items : List Json
  place : Nat

/-- A reader of some fields of a record. `shape` is how the whole record is called. -/
structure Record (α : Type) where
  fromFields : Members → Except FieldFault α
  fromItems : (shape : String) → ItemsLeft → Except DecodeFault (α × ItemsLeft)

namespace Record

/-- No field. -/
def pure {α : Type} (a : α) : Record α where
  fromFields _ := .ok a
  fromItems _ left := .ok (a, left)

/-- Some fields and then others. -/
def seq {α β : Type} (f : Record (α → β)) (r : Record α) : Record β where
  fromFields ms :=
    match f.fromFields ms, r.fromFields ms with
    | .ok g, .ok a => .ok (g a)
    | .error e, .ok _ => .error e
    | .ok _, .error e => .error e
    | .error e, .error e' => .error (e.first e')
  fromItems shape left := do
    let (g, left) ← f.fromItems shape left
    let (a, left) ← r.fromItems shape left
    .ok (g a, left)

instance : Applicative Record where
  pure := Record.pure
  seq f r := f.seq (r ())

/-- One field. `absent` is its value where an object lacks it, `short` where an array ends. -/
def field {α : Type} (name : String) (d : Decoder α) (absent short : Option α) : Record α where
  fromFields ms :=
    match Table.lookup name ms, absent with
    | some v, _ => (d v).mapError (.bad name)
    | none, some a => .ok a
    | none, none => .error (.missing name)
  fromItems shape left :=
    match left.items, short with
    | v :: rest, _ => (d v).map (·, ⟨rest, left.place + 1⟩)
    | [], some a => .ok (a, ⟨[], left.place + 1⟩)
    | [], none => .error (.tooShort left.place shape)

/-- A field that must be there. -/
def required {α : Type} (name : String) (d : Decoder α) : Record α :=
  field name d none none

/-- A field with a value for when it is not there. -/
def withDefault {α : Type} (name : String) (d : Decoder α) (value : α) : Record α :=
  field name d (some value) (some value)

/-- A field that may be missing or `null`. -/
def optional {α : Type} (name : String) (d : Decoder α) : Record (Option α) :=
  withDefault name (Decoder.nullable d) none

/-- A field that may be missing or `null` in an object but has its place in an array. -/
def nullable {α : Type} (name : String) (d : Decoder α) : Record (Option α) :=
  field name (Decoder.nullable d) (some none) none

/-- How a record of `count` fields is called where an array is too short for it. -/
def shapeOf (name : String) (count : Nat) : String :=
  "struct " ++ name ++ " with " ++ toString count ++ (if count = 1 then " element" else " elements")

/-- The decoder of a whole record of the given name and number of fields. -/
def decoder {α : Type} (name : String) (count : Nat) (r : Record α) : Decoder α
  | .obj ms => (r.fromFields ms).mapError FieldFault.toDecodeFault
  | .arr xs => do
    let (a, left) ← r.fromItems (shapeOf name count) ⟨xs, 0⟩
    if left.items.isEmpty then .ok a else .error (.tooLong xs.length)
  | v => Decoder.refuse ("struct " ++ name) v

end Record

/-! ## Alternatives -/

/-- One alternative of a choice: a bare name, or a name with content. -/
inductive Alternative (α : Type) where
  | bare (value : α)
  | carrying (decoder : Decoder α)

/-- A choice of alternatives. A bare one is given by its name alone or by an object that holds
`null` under the name, one with content by an object that holds the content under the name. -/
def choice {α : Type} (alternatives : List (String × Alternative α)) : Decoder α := fun v =>
  let pick (name : String) (content : Option Json) : Except DecodeFault α :=
    match alternatives.find? (·.1 == name), content with
    | none, _ => .error (.unknownVariant name (alternatives.map (·.1)))
    | some (_, .bare a), none => .ok a
    | some (_, .bare a), some w => (Decoder.unit w).map fun _ => a
    | some (_, .carrying d), some w => d w
    | some (_, .carrying _), none => .error (.wrongType "unit variant" "newtype variant")
  match v with
  | .str name => pick name none
  | .obj [(name, w)] => pick name (some w)
  | .obj _ => .error .notOneMember
  | v => Decoder.refuse "string or map" v

end Dialogue.Json
