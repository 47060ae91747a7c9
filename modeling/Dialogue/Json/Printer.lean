import Dialogue.Json.Basic
import Dialogue.Number.Shortest

/-!
# JSON text

The compact text of a value: no blanks, the members of an object in the order they stand in the
value, and in strings only the escapes that JSON demands. Floating point numbers are written with
the fewest digits and always with a point or an exponent, so that they are never read as integers.
-/

namespace Dialogue.Json

/-- Floating point numbers are positional from `0.00001` up to sixteen digits before the point. -/
def positional : PositionalRange :=
  ⟨-5, 15⟩

/-- An integer in decimal. -/
def intChars (n : Int) : List Char :=
  if n < 0 then '-' :: Nat.toDigits 10 n.natAbs else Nat.toDigits 10 n.natAbs

/-- A floating point number. -/
def floatChars (x : Binary64) : List Char :=
  let digits := x.shortest.chars positional
  if x.negative then '-' :: digits else digits

/-- A number. -/
def numberChars : Number → List Char
  | .int n => intChars n
  | .float x => floatChars x

/-- A hexadecimal digit, lower case. -/
def hexDigit (n : Nat) : Char :=
  Nat.digitChar n

/-- One character as it stands inside a string. -/
def escapeChar (c : Char) : List Char :=
  if c = '"' then ['\\', '"']
  else if c = '\\' then ['\\', '\\']
  else if c = '\x08' then ['\\', 'b']
  else if c = '\x0c' then ['\\', 'f']
  else if c = '\n' then ['\\', 'n']
  else if c = '\r' then ['\\', 'r']
  else if c = '\t' then ['\\', 't']
  else if c.toNat < 0x20 then
    ['\\', 'u', '0', '0', hexDigit (c.toNat / 16), hexDigit (c.toNat % 16)]
  else [c]

/-- A string between double quotes. -/
def stringChars (s : String) : List Char :=
  '"' :: s.toList.flatMap escapeChar ++ ['"']

mutual

/-- The text of a value. -/
def chars : Json → List Char
  | .null => ['n', 'u', 'l', 'l']
  | .bool true => ['t', 'r', 'u', 'e']
  | .bool false => ['f', 'a', 'l', 's', 'e']
  | .num n => numberChars n
  | .str s => stringChars s
  | .arr [] => ['[', ']']
  | .arr (x :: xs) => '[' :: chars x ++ itemChars xs ++ [']']
  | .obj [] => ['{', '}']
  | .obj ((k, v) :: ms) => '{' :: stringChars k ++ ':' :: chars v ++ memberChars ms ++ ['}']

/-- The items after the first one, each after a comma. -/
def itemChars : List Json → List Char
  | [] => []
  | x :: xs => ',' :: chars x ++ itemChars xs

/-- The members after the first one, each after a comma. -/
def memberChars : List (String × Json) → List Char
  | [] => []
  | (k, v) :: ms => ',' :: stringChars k ++ ':' :: chars v ++ memberChars ms

end

/-- The compact text of a value. -/
def render (v : Json) : String :=
  String.ofList v.chars

end Dialogue.Json
