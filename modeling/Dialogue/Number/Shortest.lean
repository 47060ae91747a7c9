import Dialogue.Number.Binary

/-!
# Shortest decimal text

The decimal that stands for a binary number is the one with the fewest digits among those that read
back as the number, and of these the nearest to it; a tie goes to the even last digit. It is found
in exact arithmetic: for one digit, two digits, and so on, the two neighbours of the number on the
grid of decimals with that many digits are tested against the interval of reals that round to the
number.
-/

namespace Dialogue

/-- A decimal, `digits * 10 ^ exponent`. -/
structure Decimal where
  digits : Nat
  exponent : Int
deriving DecidableEq, Repr

/-- A number and the interval of reals that round to it, all over one denominator. The ends belong
to the interval when `closed`. -/
structure RoundingInterval where
  low : Nat
  value : Nat
  high : Nat
  denominator : Nat
  closed : Bool

namespace RoundingInterval

/-- The interval of a positive number: half a unit to each side, a quarter below when the number is
the least of its exponent. -/
def of (x : Binary64) : RoundingInterval :=
  let below := if x.significand = 0x10000000000000 ∧ -1074 < x.exponent then 1 else 2
  let scale : Nat × Nat :=
    if 0 ≤ x.exponent then (Nat.pow 2 x.exponent.toNat, 4)
    else (1, 4 * Nat.pow 2 (-x.exponent).toNat)
  { low := (4 * x.significand - below) * scale.1
    value := 4 * x.significand * scale.1
    high := (4 * x.significand + 2) * scale.1
    denominator := scale.2
    closed := x.significand % 2 == 0 }

/-- Whether `n / den` lies in the interval. -/
def holds (i : RoundingInterval) (n den : Nat) : Bool :=
  let x := n * i.denominator
  if i.closed then i.low * den ≤ x && x ≤ i.high * den
  else i.low * den < x && x < i.high * den

/-- The exponent of the leading decimal digit. -/
def leadingExponent (i : RoundingInterval) : Int :=
  if i.denominator ≤ i.value then
    ((Nat.toDigits 10 (i.value / i.denominator)).length : Int) - 1
  else
    let places := (Nat.toDigits 10 (i.denominator / i.value)).length
    if i.denominator ≤ i.value * Nat.pow 10 (places - 1) then -((places - 1 : Nat) : Int)
    else -(places : Int)

/-- `n * 10 ^ exponent` as a fraction. -/
def decimalRatio (n : Nat) (exponent : Int) : Nat × Nat :=
  if 0 ≤ exponent then (n * Nat.pow 10 exponent.toNat, 1) else (n, Nat.pow 10 (-exponent).toNat)

/-- Of the two neighbours of the number among the multiples of `10 ^ exponent`, those in the
interval, and of these the nearer one. -/
def nearest? (i : RoundingInterval) (exponent : Int) : Option Decimal :=
  let (unit, per) := decimalRatio 1 exponent
  let q := i.value * per / (i.denominator * unit)
  let r := i.value * per % (i.denominator * unit)
  let fits (n : Nat) : Bool :=
    let (a, b) := decimalRatio n exponent
    i.holds a b
  match fits q, fits (q + 1) with
  | false, false => none
  | true, false => some ⟨q, exponent⟩
  | false, true => some ⟨q + 1, exponent⟩
  | true, true =>
    if 2 * r < i.denominator * unit ∨ (2 * r = i.denominator * unit ∧ q % 2 = 0) then
      some ⟨q, exponent⟩
    else some ⟨q + 1, exponent⟩

/-- The first hit on the grids of `count`, `count + 1`, … digits, `fuel` grids in all. -/
def search (i : RoundingInterval) (leading : Int) : Nat → Nat → Option Decimal
  | 0, _ => none
  | fuel + 1, count =>
    match i.nearest? (leading - count + 1) with
    | some d => some d
    | none => search i leading fuel (count + 1)

end RoundingInterval

namespace Decimal

/-- The same decimal with no trailing zero digit, for at most `fuel` zeros. -/
def trimZeros : Nat → Decimal → Decimal
  | 0, d => d
  | fuel + 1, d =>
    if d.digits % 10 = 0 ∧ d.digits ≠ 0 then trimZeros fuel ⟨d.digits / 10, d.exponent + 1⟩ else d

end Decimal

namespace Binary64

/-- The shortest decimal that reads back as the magnitude of `x`. Seventeen digits always do. -/
def shortest (x : Binary64) : Decimal :=
  if x.isZero then ⟨0, 0⟩
  else
    let i := RoundingInterval.of x
    ((i.search i.leadingExponent 18 1).getD ⟨0, 0⟩).trimZeros 20

end Binary64

/-- When decimals are written positionally: the exponent of the leading digit lies in
`[least, most]`. Otherwise the exponent is written after an `e`. -/
structure PositionalRange where
  least : Int
  most : Int

/-- Zeros, `n` of them. -/
def zeros (n : Nat) : List Char :=
  List.replicate n '0'

/-- A decimal as text. The positional form always has a point with a digit on both sides; the form
with an exponent has a point only between digits. -/
def Decimal.chars (range : PositionalRange) (d : Decimal) : List Char :=
  let ds := Nat.toDigits 10 d.digits
  let leading : Int := d.exponent + ds.length - 1
  if leading < range.least ∨ range.most < leading then
    let exponent := 'e' :: (toString leading).toList
    match ds with
    | [c] => c :: exponent
    | c :: rest => c :: '.' :: rest ++ exponent
    | [] => exponent
  else if 0 ≤ d.exponent then ds ++ zeros d.exponent.toNat ++ ['.', '0']
  else if 0 ≤ leading then
    ds.take (leading.toNat + 1) ++ '.' :: ds.drop (leading.toNat + 1)
  else ['0', '.'] ++ zeros (-leading - 1).toNat ++ ds

end Dialogue
