/-!
# The calendar

Days are counted from 1 January 1970 in the Gregorian calendar, extended to all years.

Main statement: `dayNumber_succ_year` (the next year begins as many days later as the year has).
-/

namespace Dialogue.Time

/-- A year of 366 days. -/
def isLeapYear (year : Int) : Bool :=
  (year % 4 == 0 && year % 100 != 0) || year % 400 == 0

/-- The number of days in a month, 0 for a number that is no month. -/
def daysInMonth (year : Int) (month : Nat) : Nat :=
  match month with
  | 2 => if isLeapYear year then 29 else 28
  | 4 | 6 | 9 | 11 => 30
  | 1 | 3 | 5 | 7 | 8 | 10 | 12 => 31
  | _ => 0

/-- The number of days in a year. -/
def daysInYear (year : Int) : Nat :=
  if isLeapYear year then 366 else 365

/-- The day number of 1 January of a year. -/
def yearStart (year : Int) : Int :=
  365 * (year - 1) + (year - 1) / 4 - (year - 1) / 100 + (year - 1) / 400 - 719162

/-- The days of a year before a month. -/
def daysBeforeMonth (year : Int) (month : Nat) : Nat :=
  (List.range (month - 1)).foldl (fun days m => days + daysInMonth year (m + 1)) 0

/-- A day of the calendar. -/
structure Date where
  year : Int
  month : Nat
  day : Nat
deriving DecidableEq, Repr

/-- The day number of a date. -/
def Date.number (d : Date) : Int :=
  yearStart d.year + (daysBeforeMonth d.year d.month : Int) + ((d.day : Int) - 1)

/-- A date that exists. -/
def Date.exists? (d : Date) : Bool :=
  1 ≤ d.day && d.day ≤ daysInMonth d.year d.month

/-- The month and the day of the month, from a month on, that stand `left` days after the start of
that month. -/
def monthAndDay (year : Int) : (months : Nat) → (month left : Nat) → Nat × Nat
  | 0, month, left => (month, left + 1)
  | months + 1, month, left =>
    if left < daysInMonth year month then (month, left + 1)
    else monthAndDay year months (month + 1) (left - daysInMonth year month)

/-- The date of a day number. The year is estimated from the mean length of a year and then put
right. -/
def Date.ofNumber (n : Int) : Date :=
  let estimate := (400 * n) / 146097 + 1970
  let year :=
    if n < yearStart estimate then estimate - 1
    else if yearStart (estimate + 1) ≤ n then estimate + 1
    else estimate
  let (month, day) := monthAndDay year 11 1 (n - yearStart year).toNat
  ⟨year, month, day⟩

/-- The next year begins as many days later as the year has. -/
theorem dayNumber_succ_year (year : Int) :
    yearStart (year + 1) = yearStart year + (daysInYear year : Int) := by
  unfold yearStart daysInYear isLeapYear
  split
  · next h =>
    simp only [Bool.or_eq_true, Bool.and_eq_true, beq_iff_eq, bne_iff_ne, ne_eq] at h
    omega
  · next h =>
    simp only [Bool.or_eq_true, Bool.and_eq_true, beq_iff_eq, bne_iff_ne, ne_eq] at h
    omega

example : Date.number ⟨1970, 1, 1⟩ = 0 := by decide
example : Date.ofNumber 19782 = ⟨2024, 2, 29⟩ := by decide

end Dialogue.Time
