/-!
# UTF-8

The octets of a character, and two readings of octets as text: the strict one refuses text that is
not well formed, the lossy one puts U+FFFD for each maximal ill-formed part.
-/

namespace Dialogue.Text.Utf8

/-- The replacement character. -/
def replacement : Char := '\uFFFD'

/-- The octets of one character, as numbers. -/
def octetsOf (c : Char) : List Nat :=
  let n := c.toNat
  if n < 0x80 then [n]
  else if n < 0x800 then [0xC0 + n / 0x40, 0x80 + n % 0x40]
  else if n < 0x10000 then [0xE0 + n / 0x1000, 0x80 + n / 0x40 % 0x40, 0x80 + n % 0x40]
  else [0xF0 + n / 0x40000, 0x80 + n / 0x1000 % 0x40, 0x80 + n / 0x40 % 0x40, 0x80 + n % 0x40]

/-- An octet that continues a character. -/
def isTail (b : Nat) : Bool :=
  0x80 ≤ b && b ≤ 0xBF

/-- Which second octets may follow a first octet of a sequence of three or four. -/
def secondFits (first second : Nat) : Bool :=
  if first == 0xE0 then 0xA0 ≤ second && second ≤ 0xBF
  else if first == 0xED then 0x80 ≤ second && second ≤ 0x9F
  else if first == 0xF0 then 0x90 ≤ second && second ≤ 0xBF
  else if first == 0xF4 then 0x80 ≤ second && second ≤ 0x8F
  else isTail second

/-- How many octets the sequence opened by `first` has, 0 for an octet that opens none. -/
def sequenceLength (first : Nat) : Nat :=
  if first < 0x80 then 1
  else if 0xC2 ≤ first && first ≤ 0xDF then 2
  else if 0xE0 ≤ first && first ≤ 0xEF then 3
  else if 0xF0 ≤ first && first ≤ 0xF4 then 4
  else 0

/-- What stands at the front of octets: a character, or an ill-formed part; and its length. -/
structure Front where
  char : Option Char
  length : Nat

/-- The front of `first :: rest`. An ill-formed part is the longest piece that could have begun a
character, at least one octet. -/
def front (first : Nat) (rest : List Nat) : Front :=
  match sequenceLength first, rest with
  | 1, _ => ⟨some (Char.ofNat first), 1⟩
  | 2, b :: _ =>
    if isTail b then ⟨some (Char.ofNat ((first - 0xC0) * 0x40 + (b - 0x80))), 2⟩ else ⟨none, 1⟩
  | 3, b :: c :: _ =>
    if !secondFits first b then ⟨none, 1⟩
    else if isTail c then
      ⟨some (Char.ofNat ((first - 0xE0) * 0x1000 + (b - 0x80) * 0x40 + (c - 0x80))), 3⟩
    else ⟨none, 2⟩
  | 4, b :: c :: d :: _ =>
    if !secondFits first b then ⟨none, 1⟩
    else if !isTail c then ⟨none, 2⟩
    else if isTail d then
      ⟨some (Char.ofNat ((first - 0xF0) * 0x40000 + (b - 0x80) * 0x1000 + (c - 0x80) * 0x40 +
        (d - 0x80))), 4⟩
    else ⟨none, 3⟩
  | 3, [b] => ⟨none, if secondFits first b then 2 else 1⟩
  | 4, [b] => ⟨none, if secondFits first b then 2 else 1⟩
  | 4, [b, c] => ⟨none, if !secondFits first b then 1 else if isTail c then 3 else 2⟩
  | _, _ => ⟨none, 1⟩

/-- The fronts of octets one after another; `fuel` bounds their number. -/
def fronts : Nat → List Nat → List (Option Char)
  | 0, _ => []
  | _, [] => []
  | fuel + 1, b :: rest =>
    let f := front b rest
    f.char :: fronts fuel (rest.drop (f.length - 1))

/-- The characters of well-formed octets. -/
def decode? (octets : List Nat) : Option (List Char) :=
  (fronts octets.length octets).mapM id

/-- The characters of any octets, U+FFFD for each ill-formed part. -/
def decodeLossy (octets : List Nat) : List Char :=
  (fronts octets.length octets).map (·.getD replacement)

/-- The octets of a text. -/
def encode (cs : List Char) : List Nat :=
  cs.flatMap octetsOf

example : decode? (encode "aé日😀".toList) = some "aé日😀".toList := by decide
example : decodeLossy [0x20, 0xFF, 0x62] = [' ', replacement, 'b'] := by decide
example : decodeLossy [0xE2, 0x82, 0x41] = [replacement, 'A'] := by decide
example : decode? [0xED, 0xA0, 0x80] = none := by decide

end Dialogue.Text.Utf8
