import Dialogue.Json.Lexeme
import Dialogue.Json.Printer
import Dialogue.Text.Blank
import Mathlib.Tactic.IntervalCases

/-!
# Reading back numbers and strings

Integers of 64 bits and strings, each written as text and then read off the front of a longer text.
A number is read as far as it goes, so what follows it must not go on like a number; a string ends
at its own quote.

Main statements: `readNumber_toDigits` and `readString_escaped`.
-/

namespace Dialogue.Json

/-- After something that was read, reading goes on with it. -/
@[simp]
theorem ok_bind {ε α β : Type} (a : α) (f : α → Except ε β) : (Except.ok a >>= f) = f a :=
  rfl

/-! ## Integers -/

/-- The text does not begin with what could belong to a number. -/
def EndsNumber (cs : List Char) : Prop :=
  ∀ c ∈ cs.head?, isDigit c = false ∧ c ≠ '.' ∧ c ≠ 'e' ∧ c ≠ 'E'

theorem endsNumber_nil : EndsNumber [] := by
  simp [EndsNumber]

theorem endsNumber_cons {c : Char} (cs : List Char) (hdigit : isDigit c = false) (hpoint : c ≠ '.')
    (he : c ≠ 'e') (hE : c ≠ 'E') : EndsNumber (c :: cs) := by
  rintro _ ⟨⟩
  exact ⟨hdigit, hpoint, he, hE⟩

/-- What may follow an item or a member does not belong to a number. -/
theorem endsNumber_mark {c : Char} (cs : List Char) (hc : c ∈ [',', ']', '}']) :
    EndsNumber (c :: cs) := by
  simp only [List.mem_cons, List.not_mem_nil, or_false] at hc
  rcases hc with rfl | rfl | rfl <;>
    exact endsNumber_cons _ (by decide) (by decide) (by decide) (by decide)

/-- The text does not begin with a digit. -/
def EndsDigits (cs : List Char) : Prop :=
  ∀ c ∈ cs.head?, isDigit c = false

theorem EndsNumber.endsDigits {cs : List Char} (h : EndsNumber cs) : EndsDigits cs :=
  fun c hc => (h c hc).1

/-- Digits are taken up to something else. -/
theorem takeWhile_digits {ds rest : List Char} (hds : ∀ d ∈ ds, isDigit d = true)
    (hrest : EndsDigits rest) :
    (ds ++ rest).takeWhile isDigit = ds ∧ (ds ++ rest).dropWhile isDigit = rest := by
  rw [List.takeWhile_append_of_pos hds, List.dropWhile_append_of_pos hds]
  rcases rest with _ | ⟨c, rest⟩
  · simp
  · have hc : ¬ isDigit c = true := by simp [hrest c rfl]
    rw [List.takeWhile_cons_of_neg hc, List.dropWhile_cons_of_neg hc, List.append_nil]
    exact ⟨rfl, rfl⟩

/-- Digits only make a number larger. -/
theorem le_ofDigitChars (ds : List Char) (acc : Nat) : acc ≤ Nat.ofDigitChars 10 ds acc := by
  induction ds generalizing acc with
  | nil => simp
  | cons d ds ih =>
    rw [Nat.ofDigitChars_cons]
    have := ih (10 * acc + (d.toNat - '0'.toNat))
    omega

/-- Digits are all taken if the number they make is not too large. -/
theorem takeDigits_of_le {most : Nat} {ds : List Char} {acc : Nat}
    (h : Nat.ofDigitChars 10 ds acc ≤ most) :
    takeDigits most ds acc = (Nat.ofDigitChars 10 ds acc, ds.length, 0) := by
  induction ds generalizing acc with
  | nil => simp [takeDigits]
  | cons d ds ih =>
    have hnext : acc * 10 + digitValue d = 10 * acc + (d.toNat - '0'.toNat) := by
      rw [digitValue, Nat.mul_comm]
    rw [Nat.ofDigitChars_cons] at h
    have hle := Nat.le_trans (le_ofDigitChars ds _) h
    rw [takeDigits]
    simp only [hnext, if_neg (Nat.not_lt.mpr hle), ih h, Nat.ofDigitChars_cons, List.length_cons]

theorem isDigit_of_mem_toDigits {n : Nat} {c : Char} (h : c ∈ Nat.toDigits 10 n) :
    isDigit c = true := by
  have hdigit := Nat.isDigit_of_mem_toDigits (by decide) (by decide) h
  simpa [isDigit, Char.isDigit, Char.le_def] using hdigit

/-- A positive number is not written with a zero in front. -/
theorem head?_toDigits_ne_zero {n : Nat} (h : 0 < n) : (Nat.toDigits 10 n).head? ≠ some '0' := by
  induction n using Nat.strongRecOn with
  | ind n ih =>
    rw [Nat.toDigits_eq_if (by decide)]
    split
    · next hlt =>
      interval_cases n <;> decide
    · next hge =>
      have hpos : 0 < n / 10 := Nat.div_pos (Nat.not_lt.mp hge) (by decide)
      have hfront := ih _ (Nat.div_lt_self h (by decide)) hpos
      rcases hds : Nat.toDigits 10 (n / 10) with _ | ⟨d, ds⟩
      · exact absurd hds Nat.toDigits_ne_nil
      · simpa [hds] using hfront

/-- The digits of an integer that fits are read as the integer. -/
theorem readNumber_toDigits (negative : Bool) {n : Nat} (hn : n ≤ maxInteger) {rest : List Char}
    (hrest : EndsNumber rest) :
    readNumber negative (Nat.toDigits 10 n ++ rest) = .ok (integerOrFloat negative n, rest) := by
  have hdigits : ∀ c ∈ Nat.toDigits 10 n, isDigit c = true := fun _ => isDigit_of_mem_toDigits
  obtain ⟨htake, hdrop⟩ := takeWhile_digits hdigits hrest.endsDigits
  have hnonempty : (Nat.toDigits 10 n).isEmpty = false := by
    rw [List.isEmpty_eq_false_iff]
    exact Nat.toDigits_ne_nil
  have hzero : ¬ ((Nat.toDigits 10 n).head? = some '0' ∧ 1 < (Nat.toDigits 10 n).length) := by
    rintro ⟨hhead, hlength⟩
    rcases Nat.eq_zero_or_pos n with rfl | hpos
    · rw [Nat.toDigits_zero] at hlength
      exact absurd hlength (by decide)
    · exact head?_toDigits_ne_zero hpos hhead
  have hvalue : takeDigits maxInteger (Nat.toDigits 10 n) 0 =
      (n, (Nat.toDigits 10 n).length, 0) := by
    have hn' : Nat.ofDigitChars 10 (Nat.toDigits 10 n) 0 = n := Nat.ofDigitChars_ten_toDigits
    rw [takeDigits_of_le (hn'.symm ▸ hn), hn']
  unfold readNumber
  simp only [htake, hdrop, hnonempty, hvalue, if_neg hzero]
  split
  · next h => cases h
  · split
    · exact absurd rfl (hrest _ rfl).2.1
    · exact absurd rfl (hrest _ rfl).2.2.1
    · exact absurd rfl (hrest _ rfl).2.2.2
    · rfl

/-! ## Strings -/

theorem hexValue?_hexDigit {n : Nat} (h : n < 16) : hexValue? (hexDigit n) = some n := by
  interval_cases n <;> decide

/-- The number of a control character is read back from its two digits. -/
theorem readHex4_hexDigit {n : Nat} (h : n < 0x20) (cs : List Char) :
    readHex4 .characters ('0' :: '0' :: hexDigit (n / 16) :: hexDigit (n % 16) :: cs) =
      .ok (n, cs) := by
  have hzero : hexValue? '0' = some 0 := by decide
  have hhigh : hexValue? (hexDigit (n / 16)) = some (n / 16) := hexValue?_hexDigit (by omega)
  have hlow : hexValue? (hexDigit (n % 16)) = some (n % 16) := hexValue?_hexDigit (by omega)
  simp only [readHex4, hzero, hhigh, hlow]
  congr 2
  omega

/-- A character stands in a string as it is, or as an escape that is read back as the character. -/
theorem escapeChar_cases (c : Char) :
    (escapeChar c = [c] ∧ c ≠ '"' ∧ c ≠ '\\' ∧ ¬ c.toNat < 0x20) ∨
      ∃ escape, escapeChar c = '\\' :: escape ∧
        ∀ cs, readEscape .characters (escape ++ cs) = .ok (c, cs) := by
  unfold escapeChar
  split
  · next h => exact .inr ⟨['"'], rfl, fun _ => by rw [h]; rfl⟩
  split
  · next h => exact .inr ⟨['\\'], rfl, fun _ => by rw [h]; rfl⟩
  split
  · next h => exact .inr ⟨['b'], rfl, fun _ => by rw [h]; rfl⟩
  split
  · next h => exact .inr ⟨['f'], rfl, fun _ => by rw [h]; rfl⟩
  split
  · next h => exact .inr ⟨['n'], rfl, fun _ => by rw [h]; rfl⟩
  split
  · next h => exact .inr ⟨['r'], rfl, fun _ => by rw [h]; rfl⟩
  split
  · next h => exact .inr ⟨['t'], rfl, fun _ => by rw [h]; rfl⟩
  split
  · next h =>
    -- A control character is no half of a surrogate pair.
    refine .inr ⟨_, rfl, fun cs => ?_⟩
    have hlow : ¬ (0xDC00 ≤ c.toNat ∧ c.toNat ≤ 0xDFFF) := by omega
    have hhigh : ¬ (0xD800 ≤ c.toNat ∧ c.toNat ≤ 0xDBFF) := by omega
    simp [readEscape, readHex4_hexDigit h, hlow, hhigh, Char.ofNat_toNat]
  · next hquote hbackslash _ _ _ _ _ hcontrol => exact .inl ⟨rfl, hquote, hbackslash, hcontrol⟩

theorem readElements_escapeChar (fuel : Nat) (c : Char) (cs : List Char) :
    readElements .characters (fuel + 1) (escapeChar c ++ cs) =
      (readElements .characters fuel cs).map fun p => (c :: p.1, p.2) := by
  rcases escapeChar_cases c with ⟨hc, hquote, hbackslash, hcontrol⟩ | ⟨escape, hc, hescape⟩
  · rw [hc, List.singleton_append, readElements, if_neg hcontrol]
    · rcases readElements .characters fuel cs with e | ⟨es, rest⟩ <;> rfl
    · exact hquote
    · exact hbackslash
  · rw [hc, List.cons_append, readElements, hescape]
    simp only [ok_bind]
    rcases readElements .characters fuel cs with e | ⟨es, rest⟩ <;> rfl

/-- The characters of a string are read back. -/
theorem readElements_escaped {cs : List Char} {fuel : Nat} (h : cs.length < fuel)
    (rest : List Char) :
    readElements .characters fuel (cs.flatMap escapeChar ++ '"' :: rest) = .ok (cs, rest) := by
  induction cs generalizing fuel with
  | nil =>
    obtain ⟨fuel, rfl⟩ := Nat.exists_eq_add_of_lt h
    simp [readElements]
  | cons c cs ih =>
    obtain ⟨fuel, rfl⟩ : ∃ f, fuel = f + 1 := ⟨fuel - 1, by simp at h; omega⟩
    rw [List.flatMap_cons, List.append_assoc, readElements_escapeChar,
      ih (by simpa using h)]
    rfl

/-- A string is read back, from after its opening quote. -/
theorem readString_escaped {s : String} {fuel : Nat} (h : s.toList.length < fuel)
    (rest : List Char) :
    readString .characters fuel (s.toList.flatMap escapeChar ++ '"' :: rest) = .ok (s, rest) := by
  unfold readString
  rw [readElements_escaped h]
  simp [Source.characters]

end Dialogue.Json
