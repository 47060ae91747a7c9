import Dialogue.Proofs.Json.ReadBack
import Dialogue.Proofs.Time.Calendar
import Dialogue.Time.Timestamp

/-!
# Timestamps are read as what was written

The parts of a timestamp are written with as many digits as they are read with; only the years with
a sign have more, and there the separator ends them. So what was written is read part after part,
and the parts make the instant they were taken from.

Main statement: `readTimestamp_chars`.
-/

namespace Dialogue.Time

/-! ## Digits -/

/-- Some digits stand for a number. -/
structure Spells (ds : List Char) (n : Nat) : Prop where
  digits : ∀ c ∈ ds, isDigit c = true
  ne_nil : ds ≠ []
  value : digitsValue ds = n

theorem isDigit_of_mem_toDigits {n : Nat} {c : Char} (h : c ∈ Nat.toDigits 10 n) :
    isDigit c = true :=
  Json.isDigit_of_mem_toDigits h

theorem digitsValue_eq (ds : List Char) : digitsValue ds = Nat.ofDigitChars 10 ds 0 := by
  simp only [digitsValue, Nat.ofDigitChars, Nat.mul_comm]

/-- Zeros in front change nothing. -/
theorem digitsValue_zeros_append (k : Nat) (ds : List Char) :
    digitsValue (List.replicate k '0' ++ ds) = digitsValue ds := by
  induction k with
  | zero => rfl
  | succ k ih =>
    rw [← ih]
    rfl

theorem spells_padded (width n : Nat) : Spells (padded width n) n where
  digits c hc := by
    rcases List.mem_append.mp hc with hzero | hdigit
    · rw [List.eq_of_mem_replicate hzero]
      rfl
    · exact isDigit_of_mem_toDigits hdigit
  ne_nil hnil := Nat.toDigits_ne_nil (List.append_eq_nil_iff.mp hnil).2
  value := by
    rw [padded, digitsValue_zeros_append, digitsValue_eq,
      Nat.ofDigitChars_toDigits (by decide) (by decide)]

/-- A number that has no more digits than is asked for is written with as many. -/
theorem length_padded {width n : Nat} (hwidth : 0 < width) (h : n < 10 ^ width) :
    (padded width n).length = width := by
  have hle : (Nat.toDigits 10 n).length ≤ width :=
    (Nat.length_toDigits_le_iff (by decide) hwidth).mpr h
  rw [padded, List.length_append, List.length_replicate]
  omega

section

variable {ds rest : List Char} {n : Nat}

/-- Digits are read up to their end, if no digit follows or no more digits are read. -/
theorem Spells.readDigits_append (h : Spells ds n) {width : Nat} (hwidth : ds.length ≤ width)
    (hend : ds.length = width ∨ ∀ c ∈ rest.head?, isDigit c = false)
    (hn : n < 0x8000000000000000) : readDigits width (ds ++ rest) = .ok (n, rest) := by
  have hrest : (rest.take (width - ds.length)).takeWhile isDigit = [] := by
    rcases hend with rfl | hhead
    · rw [Nat.sub_self, List.take_zero, List.takeWhile_nil]
    · rcases width - ds.length with _ | k
      · rw [List.take_zero, List.takeWhile_nil]
      · rcases rest with _ | ⟨c, rest⟩
        · rfl
        · rw [List.take_succ_cons, List.takeWhile_cons_of_neg]
          simp [hhead c rfl]
  have htake : ((ds ++ rest).take width).takeWhile isDigit = ds := by
    rw [List.take_append, List.take_of_length_le hwidth, List.takeWhile_append_of_pos h.digits,
      hrest, List.append_nil]
  have hne : (ds ++ rest).isEmpty = false := by simp [h.ne_nil]
  have hds : ds.isEmpty = false := by simp [h.ne_nil]
  unfold readDigits
  simp only [htake, hne, hds, h.value, Bool.false_eq_true, if_false, if_neg (Nat.not_le.mpr hn),
    List.drop_left]

/-- No blank stands before digits. -/
theorem Spells.trimStart_append (h : Spells ds n) (rest : List Char) :
    Text.trimStart (ds ++ rest) = ds ++ rest := by
  obtain ⟨d, ds, rfl⟩ := List.exists_cons_of_ne_nil h.ne_nil
  have hblank : Text.isBlank d = false :=
    Json.not_blank_of_isDigit (h.digits d (List.mem_cons_self ..))
  rw [Text.trimStart, List.cons_append, List.dropWhile_cons_of_neg (by simp [hblank])]

end

/-- A part of two digits is read. -/
theorem readInRange_padded {low high n : Nat} (hlow : low ≤ n) (hhigh : n ≤ high)
    (h : n < 100) (rest : List Char) :
    readInRange low high (padded 2 n ++ rest) = .ok (n, rest) := by
  have hlength : (padded 2 n).length = 2 := length_padded (by decide) h
  have hread : readDigits 2 (padded 2 n ++ rest) = .ok (n, rest) :=
    (spells_padded 2 n).readDigits_append (Nat.le_of_eq hlength) (.inl hlength) (by omega)
  rw [readInRange, (spells_padded 2 n).trimStart_append, hread]
  exact if_pos ⟨hlow, hhigh⟩

/-! ## Parts -/

section

variable {ds rest : List Char} {n : Nat} {year : Int}

/-- Four digits are a year: the first of them is no sign. -/
theorem readYear_digits (h : Spells ds n) (hlength : ds.length = 4) (hyear : (n : Int) = year)
    (hbound : -0x80000000 ≤ year ∧ year < 0x80000000) (rest : List Char) :
    readYear (ds ++ rest) = .ok (year, rest) := by
  have hread : readDigits 4 (ds ++ rest) = .ok (n, rest) :=
    h.readDigits_append (Nat.le_of_eq hlength) (.inl hlength) (by omega)
  have htrim := h.trimStart_append rest
  obtain ⟨d, ds, rfl⟩ := List.exists_cons_of_ne_nil h.ne_nil
  have hdigit : isDigit d = true := h.digits d (List.mem_cons_self ..)
  rw [List.cons_append] at hread htrim ⊢
  rw [readYear, htrim]
  split
  · next heq =>
    cases heq
    cases hdigit
  · next heq =>
    cases heq
    cases hdigit
  · simp only [hread, Json.ok_bind, hyear, if_pos hbound]

/-- Digits after a sign are a year, however many they are, if none follows. -/
theorem readYear_minus (h : Spells ds n) (hyear : -(n : Int) = year)
    (hbound : -0x80000000 ≤ year ∧ year < 0x80000000)
    (hrest : ∀ c ∈ rest.head?, isDigit c = false) :
    readYear ('-' :: (ds ++ rest)) = .ok (year, rest) := by
  have hread : readDigits (ds ++ rest).length (ds ++ rest) = .ok (n, rest) :=
    h.readDigits_append (by simp) (.inr hrest) (by omega)
  have htrim : Text.trimStart ('-' :: (ds ++ rest)) = '-' :: (ds ++ rest) := rfl
  rw [readYear, htrim]
  simp only [hread, Json.ok_bind, hyear, if_pos hbound]

theorem readYear_plus (h : Spells ds n) (hyear : (n : Int) = year)
    (hbound : -0x80000000 ≤ year ∧ year < 0x80000000)
    (hrest : ∀ c ∈ rest.head?, isDigit c = false) :
    readYear ('+' :: (ds ++ rest)) = .ok (year, rest) := by
  have hread : readDigits (ds ++ rest).length (ds ++ rest) = .ok (n, rest) :=
    h.readDigits_append (by simp) (.inr hrest) (by omega)
  have htrim : Text.trimStart ('+' :: (ds ++ rest)) = '+' :: (ds ++ rest) := rfl
  rw [readYear, htrim]
  simp only [hread, Json.ok_bind, hyear, if_pos hbound]

end

/-- A year is read up to the separator. -/
theorem readYear_yearChars {year : Int} (hlow : -262143 ≤ year) (hhigh : year ≤ 262142)
    (rest : List Char) : readYear (yearChars year ++ '-' :: rest) = .ok (year, '-' :: rest) := by
  have hbound : -0x80000000 ≤ year ∧ year < 0x80000000 := by omega
  have hseparator : ∀ c ∈ ('-' :: rest).head?, isDigit c = false := by
    rintro _ ⟨⟩
    rfl
  unfold yearChars
  split
  · have hlength : (padded 4 year.toNat).length = 4 := length_padded (by decide) (by omega)
    exact readYear_digits (spells_padded 4 _) hlength (by omega) hbound _
  · split
    · exact readYear_minus (spells_padded 4 _) (by omega) hbound hseparator
    · exact readYear_plus (spells_padded 4 _) (by omega) hbound hseparator

/-- A point and so many digits, as many as are left out being zeros. -/
theorem readFraction_padded {width n : Nat} (hpos : 0 < width) (hwidth : width ≤ 9)
    (hn : n < 10 ^ width) (rest : List Char) (hrest : ∀ c ∈ rest.head?, isDigit c = false) :
    readFraction ('.' :: (padded width n ++ rest)) = .ok (n * 10 ^ (9 - width), rest) := by
  have hlength : (padded width n).length = width := length_padded hpos hn
  have hbound : n < 10 ^ 9 := Nat.lt_of_lt_of_le hn (Nat.pow_le_pow_right (by decide) hwidth)
  have hread : readDigits 9 (padded width n ++ rest) = .ok (n, rest) :=
    (spells_padded width n).readDigits_append (by omega) (.inr hrest) (by omega)
  have hdrop : rest.dropWhile isDigit = rest := by
    rcases rest with _ | ⟨c, rest⟩
    · rfl
    · rw [List.dropWhile_cons_of_neg (by simp [hrest c rfl])]
  have hplaces : (padded width n ++ rest).length - rest.length = width := by
    rw [List.length_append, hlength, Nat.add_sub_cancel]
  simp only [readFraction, hread, Json.ok_bind, hplaces, hdrop, Nat.pow_eq]

/-- What stands after the second is read up to the end. -/
theorem readFraction_fractionChars {nanos : Nat} (h : nanos < 1000000000) :
    readFraction (fractionChars nanos ++ ['Z']) = .ok (nanos, ['Z']) := by
  have hend : ∀ c ∈ (['Z'] : List Char).head?, isDigit c = false := by
    rintro _ ⟨⟩
    rfl
  unfold fractionChars
  split
  · next hzero =>
    subst hzero
    rfl
  · split
    · rw [List.cons_append, readFraction_padded (by decide) (by decide) (by omega) _ hend]
      congr 2
      omega
    · split
      · rw [List.cons_append, readFraction_padded (by decide) (by decide) (by omega) _ hend]
        congr 2
        omega
      · rw [List.cons_append, readFraction_padded (by decide) (by decide) h _ hend]
        congr 2
        omega

theorem daysInMonth_le (year : Int) (month : Nat) : daysInMonth year month ≤ 31 := by
  unfold daysInMonth
  split
  · split <;> decide
  all_goals decide

/-- A date that exists is read. -/
theorem readDate_chars {d : Date} (hlow : -262143 ≤ d.year) (hhigh : d.year ≤ 262142)
    (hexists : d.exists? = true) (hmonth : 1 ≤ d.month ∧ d.month ≤ 12) (rest : List Char) :
    readDate true (yearChars d.year ++ '-' :: (padded 2 d.month ++ '-' :: (padded 2 d.day ++ rest)))
      = .ok (d, rest) := by
  have hday : 1 ≤ d.day ∧ d.day ≤ 31 := by
    have hle := daysInMonth_le d.year d.month
    simp only [Date.exists?, Bool.and_eq_true, decide_eq_true_eq] at hexists
    omega
  have hseparator (cs : List Char) : readSeparator '-' (Text.trimStart ('-' :: cs)) = .ok cs := rfl
  simp only [readDate, readYear_yearChars hlow hhigh, Json.ok_bind, if_true, hseparator,
    readInRange_padded hmonth.1 hmonth.2 (by omega), readInRange_padded hday.1 hday.2 (by omega)]

/-- A time of day is read. -/
theorem readTime_chars (d : Date) {hour minute second nanos : Nat} (hhour : hour ≤ 23)
    (hminute : minute ≤ 59) (hsecond : second ≤ 60) (hnanos : nanos < 1000000000) :
    readTime true d (padded 2 hour ++ ':' :: (padded 2 minute ++ ':' :: (padded 2 second ++
      (fractionChars nanos ++ ['Z'])))) = .ok (⟨d, hour, minute, second, nanos⟩, ['Z']) := by
  have hseparator (cs : List Char) : readSeparator ':' (Text.trimStart (':' :: cs)) = .ok cs := rfl
  simp only [readTime, Json.ok_bind, if_true, hseparator, readFraction_fractionChars hnanos,
    readInRange_padded (Nat.zero_le _) hhour (by omega),
    readInRange_padded (Nat.zero_le _) hminute (by omega),
    readInRange_padded (Nat.zero_le _) hsecond (by omega)]

/-! ## Whole timestamps -/

/-- The parts of an instant in universal time. -/
def Instant.parts (t : Instant) : LocalTime :=
  let inDay := (t.seconds % daySeconds).toNat
  let leap := 1000000000 ≤ t.nanos
  ⟨Date.ofNumber (t.seconds / daySeconds), inDay / 3600, inDay / 60 % 60,
    inDay % 60 + (if leap then 1 else 0), if leap then t.nanos - 1000000000 else t.nanos⟩

/-- The time of day of an instant, in seconds. A leap second does not count. -/
theorem parts_seconds (t : Instant) :
    let second := if t.parts.second = 60 then 59 else t.parts.second
    let leap := if t.parts.second = 60 then 1000000000 else 0
    ((t.parts.hour * 3600 + t.parts.minute * 60 + second : Nat) : Int) = t.seconds % daySeconds ∧
      t.parts.nanos + leap = t.nanos := by
  have hleap := t.leap
  simp only [Instant.parts, daySeconds]
  by_cases hnanos : 1000000000 ≤ t.nanos
  · have hsecond : (t.seconds % 86400).toNat % 60 + 1 = 60 := by omega
    simp only [if_pos hnanos, hsecond, if_true]
    omega
  · have hsecond : ¬ (t.seconds % 86400).toNat % 60 + 0 = 60 := by omega
    simp only [if_neg hnanos, if_neg hsecond]
    omega

/-- The parts of an instant make the instant. -/
theorem instant_parts (t : Instant) : t.parts.instant 0 = .ok t := by
  obtain ⟨hnumber, hexists, -, -⟩ := Date.ofNumber_spec (t.seconds / daySeconds)
  obtain ⟨hlow, hhigh⟩ := Date.year_ofNumber_bounded t
  obtain ⟨hseconds, hnanos⟩ := parts_seconds t
  have hdate : ¬ ((!t.parts.date.exists?) = true ∨ t.parts.date.year < -262143 ∨
      262142 < t.parts.date.year) := by
    simp only [Instant.parts, hexists, Bool.not_true, Bool.false_eq_true, false_or]
    omega
  have hday : t.seconds / daySeconds * daySeconds + t.seconds % daySeconds = t.seconds := by
    simp only [daySeconds]
    omega
  have hparts : t.parts.date.number = t.seconds / daySeconds := hnumber
  unfold LocalTime.instant
  rw [if_neg hdate, if_neg (by decide), hparts]
  by_cases hsixty : t.parts.second = 60
  · simp only [if_pos hsixty] at hseconds hnanos ⊢
    rw [hseconds, hnanos, hday, Int.sub_zero, Instant.make?_eq_some_iff.mpr ⟨rfl, rfl⟩]
  · simp only [if_neg hsixty] at hseconds hnanos ⊢
    rw [hseconds, hnanos, hday, Int.sub_zero, Instant.make?_eq_some_iff.mpr ⟨rfl, rfl⟩]

/-- A timestamp is made of the parts of its instant. -/
theorem chars_eq (t : Instant) :
    t.chars = yearChars t.parts.date.year ++ '-' :: (padded 2 t.parts.date.month ++
      '-' :: (padded 2 t.parts.date.day ++ 'T' :: (padded 2 t.parts.hour ++
        ':' :: (padded 2 t.parts.minute ++ ':' :: (padded 2 t.parts.second ++
          (fractionChars t.parts.nanos ++ ['Z'])))))) := by
  simp only [Instant.chars, Instant.parts, List.append_assoc, List.cons_append]

/-- **Timestamps are read back.** Whatever the instant, its timestamp is read as the instant. -/
theorem readTimestamp_chars (t : Instant) : readTimestamp t.chars = .ok t := by
  obtain ⟨-, hexists, hmonth⟩ := Date.ofNumber_spec (t.seconds / daySeconds)
  obtain ⟨hlow, hhigh⟩ := Date.year_ofNumber_bounded t
  have hnanos : t.parts.nanos < 1000000000 := by
    have hleap := t.leap
    simp only [Instant.parts]
    split <;> omega
  have hsecond : t.parts.second ≤ 60 := by
    simp only [Instant.parts]
    split <;> omega
  have hminute : t.parts.minute ≤ 59 := by
    simp only [Instant.parts]
    omega
  have hhour : t.parts.hour ≤ 23 := by
    simp only [Instant.parts, daySeconds]
    omega
  have hdate (rest : List Char) := readDate_chars (d := t.parts.date) hlow hhigh hexists hmonth rest
  have htime := readTime_chars t.parts.date hhour hminute hsecond hnanos
  have htrim : Text.trimStart ['Z'] = ['Z'] := rfl
  have hoffset : readOffset ['Z'] = .ok (0, []) := rfl
  rw [chars_eq]
  simp only [readTimestamp, hdate, Json.ok_bind, true_or, if_true, htime, htrim, hoffset]
  exact instant_parts t

end Dialogue.Time
