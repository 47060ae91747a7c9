/-!
# Punycode

The encoding of RFC 3492, which writes a label of a host name with the letters, digits and the
hyphen of ASCII. The characters outside ASCII are taken in ascending order; each is written as the
distance from the one before, as a number of variable length whose digits have thresholds that
follow a bias. Reading goes the same way and refuses distances of more than 32 bits.
-/

namespace Dialogue.Text.Punycode

/-- A digit in base 36: `a` to `z` and then `0` to `9`. -/
def digitChar (d : Nat) : Char :=
  if d < 26 then Char.ofNat ('a'.toNat + d) else Char.ofNat ('0'.toNat + d - 26)

/-- The threshold of the digit at a place, counted in steps of 36. -/
def threshold (place bias : Nat) : Nat :=
  if place ≤ bias then 1 else if bias + 26 ≤ place then 26 else place - bias

/-- Divides by 35 until at most 455 is left, at most `fuel` times, and counts 36 for each time. -/
def damp : (fuel delta count : Nat) → Nat × Nat
  | 0, delta, count => (delta, count)
  | fuel + 1, delta, count =>
    if 455 < delta then damp fuel (delta / 35) (count + 36) else (delta, count)

/-- The bias after a distance was written and `written` characters are there. -/
def adapt (delta written : Nat) (isFirst : Bool) : Nat :=
  let delta := if isFirst then delta / 700 else delta / 2
  let (delta, count) := damp 64 (delta + delta / written) 0
  count + 36 * delta / (delta + 38)

/-- A distance as digits; `fuel` bounds their number. -/
def distanceChars (bias : Nat) : (fuel place distance : Nat) → List Char
  | 0, _, _ => []
  | fuel + 1, place, distance =>
    let t := threshold place bias
    if distance < t then [digitChar distance]
    else digitChar (t + (distance - t) % (36 - t)) ::
      distanceChars bias fuel (place + 36) ((distance - t) / (36 - t))

/-- How far the encoding has come. -/
structure Progress where
  out : List Char
  delta : Nat
  bias : Nat
  written : Nat

/-- Goes over one character of the label on the way to those of code point `m`. -/
def visit (plain m : Nat) (p : Progress) (c : Char) : Progress :=
  if c.toNat < m then { p with delta := p.delta + 1 }
  else if c.toNat = m then
    { out := p.out ++ distanceChars p.bias 64 36 p.delta
      delta := 0
      bias := adapt p.delta (p.written + 1) (p.written == plain)
      written := p.written + 1 }
  else p

/-- Writes the characters of each code point in ascending order. -/
def writeAll (label : List Char) (plain : Nat) : List Nat → (next : Nat) → Progress → Progress
  | [], _, p => p
  | m :: rest, next, p =>
    let p := { p with delta := p.delta + (m - next) * (p.written + 1) }
    let p := label.foldl (visit plain m) p
    writeAll label plain rest (m + 1) { p with delta := p.delta + 1 }

/-- Puts a number at its place among ascending ones, once. -/
def insertOnce (n : Nat) : List Nat → List Nat
  | [] => [n]
  | m :: rest =>
    if n < m then n :: m :: rest
    else if n = m then m :: rest
    else m :: insertOnce n rest

/-- The encoding of a label. -/
def encode (label : List Char) : List Char :=
  let plain := label.filter (·.toNat < 0x80)
  let others := (label.filter (0x80 ≤ ·.toNat)).foldr (fun c ms => insertOnce c.toNat ms) []
  let written := writeAll label plain.length others 0x80 ⟨[], 0, 72, plain.length⟩
  plain ++ (if plain.isEmpty then [] else ['-']) ++ written.out

/-! ## Reading -/

/-- The greatest number of 32 bits. -/
def limit : Nat := 0xFFFFFFFF

/-- The value of a digit. -/
def digitValue? (c : Char) : Option Nat :=
  if 'a' ≤ c ∧ c ≤ 'z' then some (c.toNat - 'a'.toNat)
  else if 'A' ≤ c ∧ c ≤ 'Z' then some (c.toNat - 'A'.toNat)
  else if '0' ≤ c ∧ c ≤ '9' then some (c.toNat - '0'.toNat + 26)
  else none

/-- Adds the distance at the front of digits to a number. -/
def readDistance (bias : Nat) :
    (place weight sum : Nat) → List Char → Option (Nat × List Char)
  | _, _, _, [] => none
  | place, weight, sum, c :: cs => do
    let d ← digitValue? c
    let sum := sum + d * weight
    let t := threshold place bias
    if limit < sum then none
    else if d < t then some (sum, cs)
    else if limit < weight * (36 - t) then none
    else readDistance bias (place + 36) (weight * (36 - t)) sum cs

/-- Puts the characters of all distances among those that are there; `fuel` bounds their number.
`next` is the code point and `position` the place at which the counting goes on. -/
def insertAll : (fuel next position bias : Nat) → (out : List Char) → List Char →
    Option (List Char)
  | _, _, _, _, out, [] => some out
  | 0, _, _, _, _, _ => none
  | fuel + 1, next, position, bias, out, cs => do
    let (sum, rest) ← readDistance bias 36 1 position cs
    let written := out.length + 1
    let next := next + sum / written
    let here := sum % written
    if h : next.isValidChar then
      insertAll fuel next (here + 1) (adapt (sum - position) written (position == 0))
        (out.take here ++ Char.ofNatAux next h :: out.drop here) rest
    else none

/-- The label of an encoding. -/
def decode? (cs : List Char) : Option (List Char) :=
  let after := (cs.reverse.takeWhile (· != '-')).reverse
  let before := cs.take (cs.length - after.length - 1)
  if before.isEmpty then insertAll cs.length 0x80 0 72 [] cs
  else if before.all (·.toNat < 0x80) then insertAll cs.length 0x80 0 72 before after
  else none

example : encode "bücher".toList = "bcher-kva".toList := by decide
example : encode "例え".toList = "r8jz45g".toList := by decide
example : decode? "bcher-kva".toList = some "bücher".toList := by decide
example : decode? "r8jz45g".toList = some "例え".toList := by decide
example : decode? "-kva".toList = none := by decide

end Dialogue.Text.Punycode
