import Dialogue.Text.Alphanumeric
import Dialogue.Text.Blank
import Dialogue.Text.Utf8

/-!
# Environment files

A file of variables, one `NAME=value` a record. Records are lines, but a quoted value may go over
several lines. A `#` at the start of a line or after a blank starts a comment. Values may be quoted:
in single quotes everything stands for itself, elsewhere a backslash takes away the meaning of a
character, and `$NAME` and `${NAME}` stand for variables set before.

A variable that is set already is left alone. The first record that breaks the rules ends the
reading; the variables before it count.
-/

namespace Dialogue.Program.EnvironmentFile

/-! ## Records -/

/-- Where in a record the reading stands. -/
inductive Place where
  | plain
  | blank
  | escape
  | single
  | singleEscape
  | double
  | doubleEscape
  | comment
deriving DecidableEq, Repr

/-- The place after a character. -/
def Place.next : Place → Char → Place
  | .escape, _ => .plain
  | .double, c => if c = '\\' then .doubleEscape else if c = '"' then .plain else .double
  | .doubleEscape, _ => .double
  | .single, c => if c = '\\' then .singleEscape else if c = '\'' then .plain else .single
  | .singleEscape, _ => .single
  | .comment, _ => .comment
  | place, c =>
    if c = '\\' then .escape
    else if c = '"' then .double
    else if c = '\'' then .single
    else if place = .blank then (if c = '#' then .comment else .plain)
    else if Text.isBlank c ∧ c ≠ '\n' ∧ c ≠ '\r' then .blank
    else .plain

/-- The place at the end of a line, and what stands before a comment of the line. -/
def Place.over : Place → List Char → Place × List Char
  | place, [] => (place, [])
  | place, c :: cs =>
    match place.next c with
    | .comment => (.comment, [])
    | place =>
      let (last, before) := place.over cs
      (last, c :: before)

/-- The characters of the lines of octets, each with its line feed; none for a line that is not
text. -/
def linesOf (octets : List Nat) : List (Option (List Char)) :=
  let pieces := octets.splitOn 0x0A
  let last := pieces.getLast?.getD []
  (pieces.dropLast.map (· ++ [0x0A]) ++ (if last.isEmpty then [] else [last])).map
    Text.Utf8.decode?

/-- A record without the end of its last line. -/
def dropEnd (record : List Char) : List Char :=
  match record.reverse with
  | '\n' :: '\r' :: back => back.reverse
  | '\n' :: back => back.reverse
  | _ => record

/-- The records of lines, up to the first that has no end. `record` is what was read of one. -/
def recordsFrom :
    Place → (record : List Char) → List (Option (List Char)) → List (Option (List Char))
  | .plain, _, [] => []
  | _, _, [] => [none]
  | _, _, none :: _ => [none]
  | place, record, some line :: rest =>
    if (Text.trimStart (record ++ line)).head? = some '#' then
      some [] :: recordsFrom .plain [] rest
    else
      match place.over line with
      | (.plain, _) => some (dropEnd (record ++ line)) :: recordsFrom .plain [] rest
      | (.comment, before) => some (record ++ before) :: recordsFrom .plain [] rest
      | (place, _) => recordsFrom place (record ++ line) rest

/-! ## Values -/

/-- A reference to a variable that is being read. -/
inductive Reference where
  | outside
  /-- After `$`. -/
  | bare (name : List Char)
  /-- After `${`. -/
  | braced (name : List Char)
deriving DecidableEq, Repr

/-- A value as far as it was read. -/
structure Reading where
  out : List Char
  single : Bool
  double : Bool
  escaped : Bool
  /-- A blank has ended the value. -/
  ended : Bool
  reference : Reference

/-- The start of a value. -/
def Reading.start : Reading :=
  ⟨[], false, false, false, false, .outside⟩

namespace Reading

/-- Writes a character. -/
def put (r : Reading) (c : Char) : Reading :=
  { r with out := r.out ++ [c] }

/-- Writes the value of a variable in the place of its reference. -/
def putValue (find : List Char → List Char) (r : Reading) (name : List Char) : Reading :=
  { r with out := r.out ++ find name, reference := .outside }

/-- Reads a character after a backslash. -/
def escape (r : Reading) (c : Char) : Option Reading :=
  let r := { r with escaped := false }
  if c = 'n' then some (r.put '\n')
  else if ['\\', '\'', '"', '$', ' '].contains c then some (r.put c)
  else none

/-- Reads a character outside references, escapes and single quotes. -/
def plain (r : Reading) (c : Char) : Reading :=
  if c = '$' then { r with reference := .bare [] }
  else if c = '\\' then { r with escaped := true }
  else if c = '"' then { r with double := !r.double }
  else if r.double then r.put c
  else if c = '\'' then { r with single := true }
  else if c = ' ' ∨ c = '\t' then { r with ended := true }
  else r.put c

/-- Reads a character before the end of the value. -/
def step (find : List Char → List Char) (r : Reading) (c : Char) : Option Reading :=
  if r.escaped then r.escape c
  else if r.single then some (if c = '\'' then { r with single := false } else r.put c)
  else
    match r.reference with
    | .outside => some (r.plain c)
    | .bare name =>
      if Text.isAlphanumeric c then some { r with reference := .bare (name ++ [c]) }
      else if c = '{' ∧ name.isEmpty then some { r with reference := .braced [] }
      else
        let r := r.putValue find name
        some (if c = '$' then { r with reference := .bare [] } else r.put c)
    | .braced name =>
      some (if c = '}' then r.putValue find name
        else { r with reference := .braced (name ++ [c]) })

/-- The whole value, if nothing is left open. -/
def finish (find : List Char → List Char) (r : Reading) : Option (List Char) :=
  if r.single ∨ r.double then none
  else
    match r.reference with
    | .braced _ => none
    | .bare name => some (r.out ++ find name)
    | .outside => some r.out

/-- Reads the rest of a value. After its end only blanks and a comment may follow. -/
def run (find : List Char → List Char) : Reading → List Char → Option (List Char)
  | r, [] => r.finish find
  | r, c :: cs =>
    if r.ended then
      if c = ' ' ∨ c = '\t' then run find r cs
      else if c = '#' then r.finish find
      else none
    else
      match r.step find c with
      | some r => run find r cs
      | none => none

end Reading

/-! ## Variables -/

/-- Reads the name at the front. -/
def readName (cs : List Char) : Option (List Char × List Char) :=
  let name := cs.takeWhile fun c => c.isAlphanum || c == '_' || c == '.'
  match name with
  | c :: _ => if c.isAlpha ∨ c = '_' then some (name, cs.drop name.length) else none
  | [] => none

/-- Reads an equals sign, with blanks around it. -/
def readEquals (cs : List Char) : Option (List Char) :=
  match Text.trimStart cs with
  | '=' :: rest => some (Text.trimStart rest)
  | _ => none

/-- Reads a name and the equals sign after it. The word `export` may stand before them. -/
def readHead (cs : List Char) : Option (List Char × List Char) := do
  let (name, rest) ← readName cs
  match readEquals rest with
  | some value => some (name, value)
  | none =>
    if name = "export".toList then do
      let (name, rest) ← readName (Text.trimStart rest)
      some (name, ← readEquals rest)
    else none

/-- What is known of variables while a file is read. -/
structure Scope where
  /-- The variables that are set. -/
  set : List (String × String)
  /-- What the file says of variables, the last word first. -/
  said : List (String × String)

namespace Scope

/-- The value of a name among variables that are set, each of which stands there as its name, an
equals sign and its value. A name with an equals sign of its own covers the first part of a
value. -/
def findSet? (set : List (String × String)) (name : List Char) : Option (List Char) :=
  if name.isEmpty then none
  else
    set.findSome? fun (known, value) =>
      let entry := known.toList ++ '=' :: value.toList
      let front := name ++ ['=']
      if front.isPrefixOf entry then some (entry.drop front.length) else none

/-- The value of a variable in a reference: that which is set, else that of the file. -/
def find (s : Scope) (name : List Char) : List Char :=
  match findSet? s.set name with
  | some value => value
  | none => ((s.said.find? (·.1.toList == name)).map (·.2.toList)).getD []

/-- Sets a variable unless it is set. -/
def put (s : Scope) (name value : String) : Scope :=
  let said := (name, value) :: s.said
  if s.set.any (·.1 == name) then { s with said } else ⟨s.set ++ [(name, value)], said⟩

/-- Reads a record; none if it breaks the rules. -/
def readRecord (s : Scope) (record : List Char) : Option Scope :=
  let cs := Text.trimStart (Text.trimEnd record)
  if cs.isEmpty ∨ cs.head? = some '#' then some s
  else do
    let (name, rest) ← readHead cs
    let value ← if rest.head? = some '#' then some [] else Reading.run s.find .start rest
    some (s.put (String.ofList name) (String.ofList value))

/-- Reads records up to the first that breaks the rules. -/
def readRecords (s : Scope) : List (Option (List Char)) → Scope
  | [] => s
  | none :: _ => s
  | some record :: rest =>
    match s.readRecord record with
    | some s => s.readRecords rest
    | none => s

end Scope

/-- Leaves out a byte order mark. -/
def withoutMark : List Nat → List Nat
  | 0xEF :: 0xBB :: 0xBF :: rest => rest
  | octets => octets

/-- The variables that are set after a file was read. -/
def load (set : List (String × String)) (file : List Nat) : List (String × String) :=
  ((Scope.mk set []).readRecords (recordsFrom .plain [] (linesOf (withoutMark file)))).set

end Dialogue.Program.EnvironmentFile
