import Dialogue.Time.Calendar

/-!
# Instants

An instant is a number of seconds since the start of 1970 in universal time and a number of
nanoseconds after that second. Instants are bounded: they lie in the years -262143 to 262142. The
last second of a minute may be followed by a leap second, whose nanoseconds are counted from a
thousand million on.
-/

namespace Dialogue.Time

/-- The seconds of a day. -/
def daySeconds : Int := 86400

/-- The first second. -/
def minSeconds : Int := Date.number ⟨-262143, 1, 1⟩ * daySeconds

/-- The last second. -/
def maxSeconds : Int := Date.number ⟨262142, 12, 31⟩ * daySeconds + 86399

example : minSeconds = -8334601228800 := by decide
example : maxSeconds = 8210266876799 := by decide

/-- An instant. -/
structure Instant where
  seconds : Int
  nanos : Nat
  /-- The second lies within the bounds. -/
  bounded : minSeconds ≤ seconds ∧ seconds ≤ maxSeconds
  /-- Only the last second of a minute is followed by a leap second. -/
  leap : nanos < 1000000000 ∨ (nanos < 2000000000 ∧ seconds % 60 = 59)
deriving DecidableEq, Repr

namespace Instant

/-- The instant of these numbers, if there is one. -/
def make? (seconds : Int) (nanos : Nat) : Option Instant :=
  if h : (minSeconds ≤ seconds ∧ seconds ≤ maxSeconds) ∧
      (nanos < 1000000000 ∨ (nanos < 2000000000 ∧ seconds % 60 = 59)) then
    some ⟨seconds, nanos, h.1, h.2⟩
  else none

/-- Numbers make the instant that has them, and no other. -/
theorem make?_eq_some_iff {seconds : Int} {nanos : Nat} {i : Instant} :
    make? seconds nanos = some i ↔ i.seconds = seconds ∧ i.nanos = nanos := by
  unfold make?
  constructor
  · intro h
    split at h
    · obtain rfl := Option.some.inj h
      exact ⟨rfl, rfl⟩
    · cases h
  · rintro ⟨rfl, rfl⟩
    rw [dif_pos ⟨i.bounded, i.leap⟩]

/-- The start of 1970. -/
def start : Instant :=
  ⟨0, 0, by decide, .inl (by decide)⟩

/-- The last instant that is not in a leap second. -/
def last : Instant :=
  ⟨maxSeconds, 999999999, by decide, .inl (by decide)⟩

instance : Inhabited Instant := ⟨start⟩

/-- The instant of a whole second, if there is one. -/
def ofSeconds? (seconds : Int) : Option Instant :=
  make? seconds 0

/-- Whether an instant comes no later than another one. -/
def le (a b : Instant) : Bool :=
  a.seconds < b.seconds || (a.seconds == b.seconds && a.nanos ≤ b.nanos)

/-- The instant a number of seconds earlier, if there is one. The way back from within a leap second
starts in the second after it, the way forward in the second before it. -/
def earlier? (a : Instant) (seconds : Int) : Option Instant :=
  if a.nanos < 1000000000 then make? (a.seconds - seconds) a.nanos
  else if seconds = 0 then some a
  else if 0 < seconds then make? (a.seconds + 1 - seconds) (a.nanos - 1000000000)
  else make? (a.seconds - seconds) (a.nanos - 1000000000)

end Instant

end Dialogue.Time
