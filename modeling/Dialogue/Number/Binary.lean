/-!
# Binary floating point numbers

A finite binary floating point number is a sign and a dyadic magnitude. All arithmetic goes through
one exact step: the operation is carried out on fractions of natural numbers, and `roundRatio`
takes the fraction to the nearest number of a format, a tie to the even neighbour.

Main statement: `roundHalfEven_exact` (a fraction that is whole is kept).
-/

namespace Dialogue

/-- A binary format: at most `precision` bits of significand, and the range of the exponent that
stands beside the significand when that is read as a natural number. -/
structure BinaryFormat where
  precision : Nat
  minExponent : Int
  maxExponent : Int
deriving DecidableEq, Repr

namespace BinaryFormat

/-- The format of 64 bits. -/
def double : BinaryFormat := ⟨53, -1074, 971⟩

/-- The format of 32 bits. -/
def single : BinaryFormat := ⟨24, -149, 104⟩

end BinaryFormat

/-- A finite number of the format of 64 bits, `significand * 2 ^ exponent` with a sign. Zero has a
sign as well. -/
structure Binary64 where
  negative : Bool
  significand : Nat
  exponent : Int
deriving DecidableEq, Repr, Inhabited

/-- `num / den` to the nearest natural number, a half to the even neighbour. -/
def roundHalfEven (num den : Nat) : Nat :=
  let q := num / den
  let r := num % den
  if 2 * r < den then q
  else if den < 2 * r then q + 1
  else if q % 2 = 0 then q
  else q + 1

/-- A fraction that is whole is kept. -/
theorem roundHalfEven_exact (q den : Nat) (h : 0 < den) : roundHalfEven (q * den) den = q := by
  simp [roundHalfEven, Nat.mul_div_cancel _ h, h]

/-- `num / den / 2 ^ exponent` as a fraction. -/
def scaleDown (num den : Nat) (exponent : Int) : Nat × Nat :=
  if 0 ≤ exponent then (num, den * Nat.pow 2 exponent.toNat)
  else (num * Nat.pow 2 (-exponent).toNat, den)

namespace BinaryFormat

/-- The exponent at which `num / den` has exactly `precision` bits before the point, or the least
exponent of the format when that is larger. -/
def exponentFor (f : BinaryFormat) (num den : Nat) : Int :=
  let guess : Int := (num.log2 : Int) - (den.log2 : Int) - (f.precision - 1 : Nat)
  let (n, d) := scaleDown num den guess
  let exact := if n / d < Nat.pow 2 (f.precision - 1) then guess - 1 else guess
  max exact f.minExponent

/-- The significand and exponent nearest to `num / den`, none when it is beyond the largest number
of the format. -/
def roundRatio (f : BinaryFormat) (num den : Nat) : Option (Nat × Int) :=
  if num = 0 then some (0, f.minExponent)
  else
    let e := f.exponentFor num den
    let (n, d) := scaleDown num den e
    let s := roundHalfEven n d
    let (s, e) := if s = Nat.pow 2 f.precision then (Nat.pow 2 (f.precision - 1), e + 1) else (s, e)
    if f.maxExponent < e then none else some (s, e)

end BinaryFormat

namespace Binary64

/-- The magnitude as a fraction of natural numbers. -/
def ratio (x : Binary64) : Nat × Nat :=
  if 0 ≤ x.exponent then (x.significand * Nat.pow 2 x.exponent.toNat, 1)
  else (x.significand, Nat.pow 2 (-x.exponent).toNat)

/-- The number nearest to a fraction, with a sign; none when it is too large. -/
def ofRatio? (negative : Bool) (num den : Nat) : Option Binary64 :=
  (BinaryFormat.double.roundRatio num den).map fun (s, e) => ⟨negative, s, e⟩

/-- Zero with a sign. -/
def zero (negative : Bool) : Binary64 :=
  ⟨negative, 0, BinaryFormat.double.minExponent⟩

/-- Zero of either sign. -/
def isZero (x : Binary64) : Bool :=
  x.significand == 0

/-- The number nearest to a natural number below `2 ^ 1024`. -/
def ofNat (n : Nat) : Binary64 :=
  (ofRatio? false n 1).getD (zero false)

/-- The number nearest to an integer of magnitude below `2 ^ 1024`. -/
def ofInt (n : Int) : Binary64 :=
  { ofNat n.natAbs with negative := decide (n < 0) }

/-- The same magnitude with a given sign. -/
def withSign (x : Binary64) (negative : Bool) : Binary64 :=
  { x with negative }

/-- The rounded product, none when it is too large. -/
def mul? (x y : Binary64) : Option Binary64 :=
  ofRatio? (x.negative ^^ y.negative) (x.ratio.1 * y.ratio.1) (x.ratio.2 * y.ratio.2)

/-- The rounded quotient by a number that is not zero, none when it is too large. -/
def div? (x y : Binary64) : Option Binary64 :=
  ofRatio? (x.negative ^^ y.negative) (x.ratio.1 * y.ratio.2) (x.ratio.2 * y.ratio.1)

/-- The power `10 ^ n`, rounded. -/
def pow10 (n : Nat) : Binary64 :=
  ofNat (Nat.pow 10 n)

/-- The nearest number of the format of 32 bits, none when it is too large for that format. -/
def toSingle? (x : Binary64) : Option Binary64 :=
  (BinaryFormat.single.roundRatio x.ratio.1 x.ratio.2).bind fun (s, e) =>
    let (n, d) := (Binary64.mk false s e).ratio
    ofRatio? x.negative n d

end Binary64

end Dialogue
