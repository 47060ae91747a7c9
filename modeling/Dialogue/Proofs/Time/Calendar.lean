import Dialogue.Time.Instant
import Mathlib.Tactic.ByContra

/-!
# Days and dates

Every day has a date, and the date has the number of the day. The year of a day is the one whose
first day does not come after it and whose last day does not come before it; within the year, months
are taken away as long as the day lies behind them.

Main statements: `Date.ofNumber_spec` and `Date.year_ofNumber_bounded` (the days of instants lie in
the years from -262143 to 262142).
-/

namespace Dialogue.Time

/-! ## Years -/

/-- The year that is estimated for a day is at most one off. -/
theorem yearStart_estimate (n : Int) :
    yearStart (400 * n / 146097 + 1970 - 1) ≤ n ∧
      n < yearStart (400 * n / 146097 + 1970 + 1 + 1) := by
  unfold yearStart
  omega

/-- The year of a day. -/
theorem yearStart_year_ofNumber (n : Int) :
    yearStart (Date.ofNumber n).year ≤ n ∧ n < yearStart ((Date.ofNumber n).year + 1) := by
  obtain ⟨hlow, hhigh⟩ := yearStart_estimate n
  simp only [Date.ofNumber]
  split
  · next hearly =>
    rw [Int.sub_add_cancel]
    exact ⟨hlow, hearly⟩
  · next hearly =>
    split
    · next hlate => exact ⟨hlate, hhigh⟩
    · next hlate => exact ⟨Int.not_lt.mp hearly, Int.not_le.mp hlate⟩

/-- Years begin one after another. -/
theorem yearStart_mono {y z : Int} (h : y ≤ z) : yearStart y ≤ yearStart z := by
  unfold yearStart
  omega

/-! ## Months -/

/-- A month begins when the one before it is over. -/
theorem daysBeforeMonth_succ (year : Int) {month : Nat} (h : 1 ≤ month) :
    daysBeforeMonth year (month + 1) = daysBeforeMonth year month + daysInMonth year month := by
  obtain ⟨k, rfl⟩ := Nat.exists_eq_add_of_le' h
  simp only [daysBeforeMonth, Nat.add_sub_cancel, List.range_succ, List.foldl_append,
    List.foldl_cons, List.foldl_nil]

/-- Twelve months make a year. -/
theorem daysBeforeMonth_thirteen (year : Int) : daysBeforeMonth year 13 = daysInYear year := by
  rcases hleap : isLeapYear year with _ | _ <;>
    simp [daysBeforeMonth, daysInYear, daysInMonth, List.range_succ, hleap]

/-- Month after month is taken away: what is found is a day of a month, as many days after the start
of the first month as were left. -/
theorem monthAndDay_spec (year : Int) (months : Nat) (month left : Nat) (hmonth : 1 ≤ month)
    (h : daysBeforeMonth year month + left < daysBeforeMonth year (month + months + 1)) :
    ∃ m d, monthAndDay year months month left = (m, d + 1) ∧ 1 ≤ m ∧ m ≤ month + months ∧
      d < daysInMonth year m ∧
      daysBeforeMonth year m + d = daysBeforeMonth year month + left := by
  induction months generalizing month left with
  | zero =>
    rw [Nat.add_zero, daysBeforeMonth_succ year hmonth] at h
    exact ⟨month, left, rfl, hmonth, Nat.le_refl _, by omega, rfl⟩
  | succ months ih =>
    rw [monthAndDay]
    split
    · next hwithin => exact ⟨month, left, rfl, hmonth, by omega, hwithin, rfl⟩
    · next hbehind =>
      have hsucc := daysBeforeMonth_succ year hmonth
      have hnumber : month + 1 + months + 1 = month + (months + 1) + 1 := by omega
      obtain ⟨m, d, hmd, hlow, hhigh, hlast, hdays⟩ :=
        ih (month + 1) (left - daysInMonth year month) (by omega) (by rw [hnumber]; omega)
      exact ⟨m, d, hmd, hlow, by omega, hlast, by omega⟩

/-! ## Dates -/

/-- **Every day has a date.** It exists and has the number of the day. -/
theorem Date.ofNumber_spec (n : Int) :
    (ofNumber n).number = n ∧ (ofNumber n).exists? = true ∧
      1 ≤ (ofNumber n).month ∧ (ofNumber n).month ≤ 12 := by
  obtain ⟨hlow, hhigh⟩ := yearStart_year_ofNumber n
  rw [dayNumber_succ_year, ← daysBeforeMonth_thirteen] at hhigh
  have hzero : daysBeforeMonth (ofNumber n).year 1 = 0 := rfl
  have hwithin : daysBeforeMonth (ofNumber n).year 1 + (n - yearStart (ofNumber n).year).toNat <
      daysBeforeMonth (ofNumber n).year 13 := by
    omega
  obtain ⟨m, d, hmd, hfirst, hmonth, hlast, hdays⟩ :=
    monthAndDay_spec (ofNumber n).year 11 1 _ (Nat.le_refl 1) hwithin
  have hm : (ofNumber n).month = m := congrArg Prod.fst hmd
  have hd : (ofNumber n).day = d + 1 := congrArg Prod.snd hmd
  refine ⟨?_, ?_, hm ▸ hfirst, hm ▸ hmonth⟩
  · rw [number, hm, hd]
    omega
  · rw [exists?, hm, hd, Bool.and_eq_true, decide_eq_true_eq, decide_eq_true_eq]
    omega

/-- The days of instants lie in the years of instants. -/
theorem Date.year_ofNumber_bounded (t : Instant) :
    -262143 ≤ (ofNumber (t.seconds / daySeconds)).year ∧
      (ofNumber (t.seconds / daySeconds)).year ≤ 262142 := by
  obtain ⟨hlow, hhigh⟩ := yearStart_year_ofNumber (t.seconds / daySeconds)
  obtain ⟨hmin, hmax⟩ := t.bounded
  have hmin' : yearStart (-262143) * daySeconds = minSeconds := by decide
  have hmax' : yearStart 262143 * daySeconds = maxSeconds + 1 := by decide
  unfold daySeconds at *
  constructor
  · by_contra hearly
    have hmono := yearStart_mono (show (ofNumber (t.seconds / 86400)).year + 1 ≤ -262143 by omega)
    omega
  · by_contra hlate
    have hmono := yearStart_mono (show 262143 ≤ (ofNumber (t.seconds / 86400)).year by omega)
    omega

end Dialogue.Time
