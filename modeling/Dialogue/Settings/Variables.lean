import Dialogue.Table
import Dialogue.Text.Blank
import Dialogue.Text.Utf8

/-!
# Variables

Settings are read from variables. The case of the letters A to Z in a name does not matter, and of
several variables of one name the last one counts. A value is trimmed, and a blank value is as good
as none.
-/

namespace Dialogue

/-- Variables by their names in small letters. -/
abbrev Variables := Table String

namespace Variables

/-- A name in small letters; only the letters A to Z have small letters. -/
def fold (name : String) : String :=
  name.map Char.toLower

/-- A name in capitals; only the letters a to z have capitals. -/
def capitals (name : String) : String :=
  name.map Char.toUpper

/-- The variables of a list of names and values. -/
def ofList (entries : List (String × String)) : Variables :=
  Table.ofList (entries.map fun (name, value) => (fold name, value))

/-- The trimmed value of a name, unless it is blank. -/
def value? (vars : Variables) (name : String) : Option String :=
  ((Table.lookup (fold name) vars).map Text.trimmed).filter (· ≠ "")

/-- The entries of a process environment whose name and value are text. -/
def textual (entries : List (List Nat × List Nat)) : List (String × String) :=
  entries.filterMap fun (name, value) => do
    let name ← Text.Utf8.decode? name
    let value ← Text.Utf8.decode? value
    some (String.ofList name, String.ofList value)

end Variables

end Dialogue
