/-!
# Counts

How a user writes a natural number of 64 bits: decimal digits after an optional plus.

Main statement: `readCount_le` (what is read fits 64 bits).
-/

namespace Dialogue

/-- The value of decimal digits, none if another character stands among them. -/
def decimalValue? (ds : List Char) : Option Nat :=
  ds.foldlM (fun n d => if '0' ≤ d ∧ d ≤ '9' then some (n * 10 + (d.toNat - '0'.toNat)) else none) 0

/-- A text without a plus in front. -/
def withoutPlus : List Char → List Char
  | '+' :: rest => rest
  | cs => cs

/-- The number that a text stands for. -/
def readCount (cs : List Char) : Option Nat :=
  if (withoutPlus cs).isEmpty then none
  else (decimalValue? (withoutPlus cs)).filter (· ≤ 0xFFFFFFFFFFFFFFFF)

/-- What is read fits 64 bits. -/
theorem readCount_le {cs : List Char} {n : Nat} (h : readCount cs = some n) :
    n ≤ 0xFFFFFFFFFFFFFFFF := by
  unfold readCount at h
  split at h
  · simp at h
  · simpa using (Option.filter_eq_some_iff.1 h).2

end Dialogue
