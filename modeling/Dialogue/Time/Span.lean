/-!
# Lengths of time

A length of time in nanoseconds, and its text in the largest unit of which there is at least one:
seconds, milliseconds, microseconds or nanoseconds, with the digits after the point that are needed.
-/

namespace Dialogue.Time

/-- A length of time in nanoseconds. -/
structure Span where
  nanos : Nat
deriving DecidableEq, Repr

namespace Span

/-- Whole seconds. -/
def ofSeconds (n : Nat) : Span :=
  ⟨n * 1000000000⟩

/-- The number of milliseconds after which a timer of whole milliseconds has run this long. -/
def ticks (s : Span) : Nat :=
  (s.nanos + 999999) / 1000000

/-- The digits of a fraction of `places` places, without zeros at the end; nothing for zero. -/
def fractionDigits (places fraction : Nat) : List Char :=
  let ds := Nat.toDigits 10 fraction
  let all := List.replicate (places - ds.length) '0' ++ ds
  (all.reverse.dropWhile (· == '0')).reverse

/-- `n` units with `10 ^ places` parts each. -/
def inUnit (n places : Nat) (unit : String) : String :=
  let whole := toString (n / Nat.pow 10 places)
  match fractionDigits places (n % Nat.pow 10 places) with
  | [] => whole ++ unit
  | ds => whole ++ "." ++ String.ofList ds ++ unit

/-- The text of a length of time. -/
def render (s : Span) : String :=
  if 1000000000 ≤ s.nanos then inUnit s.nanos 9 "s"
  else if 1000000 ≤ s.nanos then inUnit s.nanos 6 "ms"
  else if 1000 ≤ s.nanos then inUnit s.nanos 3 "µs"
  else inUnit s.nanos 0 "ns"

end Span

end Dialogue.Time
