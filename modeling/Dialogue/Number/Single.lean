import Dialogue.Json.Decode

/-!
# Numbers of 32 bits

A number of the binary format of 32 bits, as a setting may hold it. It is kept as the equal number
of the format of 64 bits, and a number beyond the largest of the format counts as infinite.
-/

namespace Dialogue

/-- A number of 32 bits. -/
inductive Single where
  | finite (value : Binary64)
  | infinite (negative : Bool)
deriving DecidableEq, Repr

namespace Single

/-- The number of 32 bits nearest to an integer. -/
def ofInt (n : Int) : Single :=
  let nearest := (BinaryFormat.single.roundRatio n.natAbs 1).bind fun (s, e) =>
    let (num, den) := (Binary64.mk false s e).ratio
    Binary64.ofRatio? (decide (n < 0)) num den
  match nearest with
  | some x => .finite x
  | none => .infinite (decide (n < 0))

/-- The number of 32 bits nearest to a number. -/
def ofNumber : Number → Single
  | .int n => ofInt n
  | .float x =>
    match x.toSingle? with
    | some y => .finite y
    | none => .infinite x.negative

/-- The number as a value; JSON has no infinite number. -/
def toJson : Single → Json
  | .finite x => .num (.float x)
  | .infinite _ => .null

/-- Reads a number. -/
def decode : Json.Decoder Single
  | .num n => .ok (ofNumber n)
  | v => Json.Decoder.refuse "f32" v

end Single

end Dialogue
