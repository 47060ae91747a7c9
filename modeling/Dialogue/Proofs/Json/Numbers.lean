import Dialogue.Proofs.Json.Grammar

/-!
# Which texts spell numbers

A number is read as far as the grammar of numbers goes. Every number of that grammar is read, unless
it is too large, and its value does not depend on what follows it. There is one function for each
part of a number, and `Reads` says of such a function which texts it takes off the front.

Main statements: `reads_signed` and `IsNumber.readSigned_eq`.
-/

namespace Dialogue.Json

/-- A number that was read, and what is left; there is none if it is too large. -/
def leaving : Option Number → List Char → Except TextFault (Number × List Char)
  | some n, rest => .ok (n, rest)
  | none, _ => .error .numberTooLarge

/-- The texts that `read` takes off the front of longer ones are those of `Is`. Up to what cannot
belong to a number, such a text gives one number, or is one that is too large. -/
structure Reads (read : List Char → Except TextFault (Number × List Char))
    (Is : List Char → Prop) : Prop where
  complete {front : List Char} : Is front →
    ∃ x, ∀ rest, EndsNumber rest → read (front ++ rest) = leaving x rest
  sound {cs rest : List Char} {n : Number} : read cs = .ok (n, rest) →
    ∃ front, Is front ∧ cs = front ++ rest ∧
      ∀ rest', EndsNumber rest' → read (front ++ rest') = .ok (n, rest')

variable {cs ds rest : List Char} {negative : Bool} {n : Number} {significand : Nat}
  {exponent : Int}

theorem leaving_eq_ok_iff {x : Option Number} :
    leaving x cs = .ok (n, rest) ↔ x = some n ∧ cs = rest := by
  cases x <;> simp [leaving]

theorem finishFloat_eq (negative : Bool) (significand : Nat) (exponent : Int) (rest : List Char) :
    finishFloat negative significand exponent rest =
      leaving ((floatOfParts negative significand exponent).map .float) rest := by
  unfold finishFloat
  split
  · next h => rw [h]; rfl
  · next h => rw [h]; rfl

/-! ## Digits -/

/-- A text that begins with a digit begins with all the digits up to something else. -/
theorem exists_digits (h : ¬ (cs.takeWhile isDigit).isEmpty = true) :
    ∃ ds rest, IsDigits ds ∧ EndsDigits rest ∧ cs = ds ++ rest := by
  refine ⟨cs.takeWhile isDigit, cs.dropWhile isDigit, ⟨by simpa using h, fun d hd => ?_⟩,
    fun c hc => ?_, List.takeWhile_append_dropWhile.symm⟩
  · exact List.all_eq_true.mp List.all_takeWhile d hd
  · have hhead := List.head?_dropWhile_not isDigit cs
    rw [Option.mem_def.mp hc] at hhead
    simpa using hhead

/-! ## Exponents -/

/-- A sign of an exponent, or none. -/
def IsSide (side : List Char) : Prop :=
  side = [] ∨ side = ['+'] ∨ side = ['-']

/-- An exponent after its mark. -/
def IsPower (cs : List Char) : Prop :=
  ∃ side ds, IsSide side ∧ IsDigits ds ∧ cs = side ++ ds

/-- An exponent with its mark, or none. -/
def IsExponent (cs : List Char) : Prop :=
  cs = [] ∨ ∃ mark power, (mark = 'e' ∨ mark = 'E') ∧ IsPower power ∧ cs = mark :: power

/-- The text does not begin with a sign. -/
def EndsSide (cs : List Char) : Prop :=
  ∀ c ∈ cs.head?, c ≠ '+' ∧ c ≠ '-'

theorem IsDigits.endsSide (hds : IsDigits ds) (rest : List Char) : EndsSide (ds ++ rest) := by
  obtain ⟨d, ds, rfl⟩ := List.exists_cons_of_ne_nil hds.1
  rintro _ ⟨⟩
  have hd := hds.2 d (List.mem_cons_self ..)
  constructor
  · rintro rfl
    exact absurd hd (by decide)
  · rintro rfl
    exact absurd hd (by decide)

theorem exists_side (cs : List Char) :
    ∃ side ds, IsSide side ∧ cs = side ++ ds ∧ (side = [] → EndsSide ds) := by
  rcases cs with _ | ⟨c, cs⟩
  · exact ⟨[], [], .inl rfl, rfl, fun _ => nofun⟩
  by_cases hplus : c = '+'
  · exact ⟨['+'], cs, .inr (.inl rfl), by rw [hplus]; rfl, nofun⟩
  by_cases hminus : c = '-'
  · exact ⟨['-'], cs, .inr (.inr rfl), by rw [hminus]; rfl, nofun⟩
  · refine ⟨[], c :: cs, .inl rfl, rfl, ?_⟩
    rintro - _ ⟨⟩
    exact ⟨hplus, hminus⟩

/-- Reads the digits of an exponent, after its sign. -/
def readPower (negative : Bool) (significand : Nat) (exponent : Int) (below : Bool)
    (cs : List Char) : Except TextFault (Number × List Char) :=
  let ds := cs.takeWhile isDigit
  let rest := cs.dropWhile isDigit
  if ds.isEmpty then .error (if cs.isEmpty then .endInValue else .badNumber)
  else
    let (e, _, left) := takeDigits maxExponent ds 0
    if left = 0 then
      finishFloat negative significand (if below then exponent - e else exponent + e) rest
    else if significand ≠ 0 ∧ !below then .error .numberTooLarge
    else .ok (.float (Binary64.zero negative), rest)

theorem readExponent_append {side : List Char} (hside : IsSide side)
    (hcs : side = [] → EndsSide cs) :
    readExponent negative significand exponent (side ++ cs) =
      readPower negative significand exponent (side == ['-']) cs := by
  rcases hside with rfl | rfl | rfl
  · unfold readExponent
    split
    next heq =>
    split at heq
    · exact absurd rfl (hcs rfl _ (by simp_all)).1
    · exact absurd rfl (hcs rfl _ (by simp_all)).2
    · cases heq
      rfl
  · rfl
  · rfl

/-- What the digits of an exponent make of a number. -/
def powerOf (negative : Bool) (significand : Nat) (exponent : Int) (below : Bool)
    (ds : List Char) : Option Number :=
  let (e, _, left) := takeDigits maxExponent ds 0
  if left = 0 then
    (floatOfParts negative significand (if below then exponent - e else exponent + e)).map .float
  else if significand ≠ 0 ∧ !below then none
  else some (.float (Binary64.zero negative))

theorem readPower_digits {below : Bool} (hds : IsDigits ds) (hrest : EndsDigits rest) :
    readPower negative significand exponent below (ds ++ rest) =
      leaving (powerOf negative significand exponent below ds) rest := by
  obtain ⟨htake, hdrop⟩ := takeWhile_digits hds.2 hrest
  have hne : ¬ ds.isEmpty = true := by simpa using hds.1
  simp only [readPower, htake, hdrop, if_neg hne, finishFloat_eq, powerOf]
  split
  · rfl
  · split <;> rfl

theorem reads_exponent (negative : Bool) (significand : Nat) (exponent : Int) :
    Reads (readExponent negative significand exponent) IsPower where
  complete := by
    rintro _ ⟨side, ds, hside, hds, rfl⟩
    refine ⟨powerOf negative significand exponent (side == ['-']) ds, fun rest hrest => ?_⟩
    rw [List.append_assoc, readExponent_append hside fun _ => hds.endsSide rest,
      readPower_digits hds hrest.endsDigits]
  sound := by
    -- What is left may begin with a mark or a point, so the number is read once more in front of
    -- texts that do not.
    intro cs rest n h
    obtain ⟨side, cs, hside, rfl, hends⟩ := exists_side cs
    rw [readExponent_append hside hends] at h
    by_cases hne : (cs.takeWhile isDigit).isEmpty = true
    · rw [readPower, if_pos hne] at h
      cases h
    · obtain ⟨ds, rest₀, hds, hrest₀, rfl⟩ := exists_digits hne
      rw [readPower_digits hds hrest₀] at h
      obtain ⟨hpower, rfl⟩ := leaving_eq_ok_iff.mp h
      refine ⟨side ++ ds, ⟨side, ds, hside, hds, rfl⟩, by simp, fun rest' hrest' => ?_⟩
      rw [List.append_assoc, readExponent_append hside fun _ => hds.endsSide rest',
        readPower_digits hds hrest'.endsDigits, hpower]
      rfl

theorem IsExponent.endsDigits (h : IsExponent cs) (hrest : EndsDigits rest) :
    EndsDigits (cs ++ rest) := by
  rcases h with rfl | ⟨mark, power, rfl | rfl, -, rfl⟩
  · exact hrest
  · rintro _ ⟨⟩
    decide
  · rintro _ ⟨⟩
    decide

/-! ## Fractions -/

theorem readAfterFraction_of_ends (h : ∀ c ∈ cs.head?, c ≠ 'e' ∧ c ≠ 'E') :
    readAfterFraction negative significand exponent cs =
      leaving ((floatOfParts negative significand exponent).map .float) cs := by
  unfold readAfterFraction
  split
  · exact absurd rfl (h _ rfl).1
  · exact absurd rfl (h _ rfl).2
  · exact finishFloat_eq ..

theorem reads_afterFraction (negative : Bool) (significand : Nat) (exponent : Int) :
    Reads (readAfterFraction negative significand exponent) IsExponent where
  complete := by
    rintro _ (rfl | ⟨mark, power, hmark, hpower, rfl⟩)
    · exact ⟨_, fun rest hrest => readAfterFraction_of_ends fun c hc => (hrest c hc).2.2⟩
    · obtain ⟨x, hx⟩ := (reads_exponent negative significand exponent).complete hpower
      rcases hmark with rfl | rfl
      · exact ⟨x, hx⟩
      · exact ⟨x, hx⟩
  sound := by
    intro cs rest n h
    unfold readAfterFraction at h
    split at h
    · obtain ⟨power, hpower, rfl, hread⟩ := (reads_exponent ..).sound h
      exact ⟨_, .inr ⟨'e', power, .inl rfl, hpower, rfl⟩, rfl, hread⟩
    · obtain ⟨power, hpower, rfl, hread⟩ := (reads_exponent ..).sound h
      exact ⟨_, .inr ⟨'E', power, .inr rfl, hpower, rfl⟩, rfl, hread⟩
    · rw [finishFloat_eq] at h
      obtain ⟨hfloat, rfl⟩ := leaving_eq_ok_iff.mp h
      refine ⟨[], .inl rfl, rfl, fun rest' hrest' => ?_⟩
      rw [List.nil_append, readAfterFraction_of_ends fun c hc => (hrest' c hc).2.2, hfloat]
      rfl

/-- A fraction after its point, and an exponent or none. -/
def IsFractional (cs : List Char) : Prop :=
  ∃ ds exponent, IsDigits ds ∧ IsExponent exponent ∧ cs = ds ++ exponent

theorem readFraction_digits (hds : IsDigits ds) (hrest : EndsDigits rest) :
    readFraction negative significand exponent (ds ++ rest) =
      readAfterFraction negative (takeDigits maxInteger ds significand).1
        (exponent - (takeDigits maxInteger ds significand).2.1) rest := by
  obtain ⟨htake, hdrop⟩ := takeWhile_digits hds.2 hrest
  have hne : ¬ ds.isEmpty = true := by simpa using hds.1
  simp only [readFraction, htake, hdrop, if_neg hne]

theorem reads_fraction (negative : Bool) (significand : Nat) (exponent : Int) :
    Reads (readFraction negative significand exponent) IsFractional where
  complete := by
    rintro _ ⟨ds, exponent', hds, hexponent, rfl⟩
    obtain ⟨x, hx⟩ := (reads_afterFraction negative (takeDigits maxInteger ds significand).1
      (exponent - (takeDigits maxInteger ds significand).2.1)).complete hexponent
    refine ⟨x, fun rest hrest => ?_⟩
    rw [List.append_assoc, readFraction_digits hds (hexponent.endsDigits hrest.endsDigits),
      hx rest hrest]
  sound := by
    intro cs rest n h
    by_cases hne : (cs.takeWhile isDigit).isEmpty = true
    · rw [readFraction, if_pos hne] at h
      cases h
    · obtain ⟨ds, rest₀, hds, hrest₀, rfl⟩ := exists_digits hne
      rw [readFraction_digits hds hrest₀] at h
      obtain ⟨exponent', hexponent, rfl, hread⟩ := (reads_afterFraction ..).sound h
      refine ⟨ds ++ exponent', ⟨ds, exponent', hds, hexponent, rfl⟩, by simp,
        fun rest' hrest' => ?_⟩
      rw [List.append_assoc, readFraction_digits hds (hexponent.endsDigits hrest'.endsDigits),
        hread rest' hrest']

/-! ## Integers -/

/-- A fraction with its point, or none. -/
def IsFraction (cs : List Char) : Prop :=
  cs = [] ∨ ∃ ds, IsDigits ds ∧ cs = '.' :: ds

/-- What follows the digits of an integer: perhaps a fraction and an exponent. -/
def IsTail (cs : List Char) : Prop :=
  ∃ fraction exponent, IsFraction fraction ∧ IsExponent exponent ∧ cs = fraction ++ exponent

/-- A number without a sign. -/
def IsUnsigned (cs : List Char) : Prop :=
  ∃ integer tail, IsDigits integer ∧ (integer.head? = some '0' → integer = ['0']) ∧
    IsTail tail ∧ cs = integer ++ tail

theorem IsExponent.isTail (h : IsExponent cs) : IsTail cs :=
  ⟨[], cs, .inl rfl, h, rfl⟩

theorem IsFractional.isTail (h : IsFractional cs) : IsTail ('.' :: cs) := by
  obtain ⟨ds, exponent, hds, hexponent, rfl⟩ := h
  exact ⟨'.' :: ds, exponent, .inr ⟨ds, hds, rfl⟩, hexponent, rfl⟩

theorem IsTail.endsDigits (h : IsTail cs) (hrest : EndsDigits rest) : EndsDigits (cs ++ rest) := by
  obtain ⟨fraction, exponent, rfl | ⟨ds, -, rfl⟩, hexponent, rfl⟩ := h
  · exact hexponent.endsDigits hrest
  · rintro _ ⟨⟩
    decide

/-- Reads what follows the digits of an integer, of which `left` were not taken into `n`. -/
def readTail (negative : Bool) (n left : Nat) (cs : List Char) :
    Except TextFault (Number × List Char) :=
  match cs with
  | '.' :: cs => readFraction negative n left cs
  | 'e' :: cs => readExponent negative n left cs
  | 'E' :: cs => readExponent negative n left cs
  | _ =>
    if left = 0 then .ok (integerOrFloat negative n, cs)
    else finishFloat negative n left cs

/-- The number of an integer that nothing follows. -/
def integerOf (negative : Bool) (n left : Nat) : Option Number :=
  if left = 0 then some (integerOrFloat negative n)
  else (floatOfParts negative n left).map .float

theorem leaving_integerOf (negative : Bool) (n left : Nat) (cs : List Char) :
    leaving (integerOf negative n left) cs =
      if left = 0 then .ok (integerOrFloat negative n, cs) else finishFloat negative n left cs := by
  unfold integerOf
  split
  · rfl
  · exact (finishFloat_eq ..).symm

theorem readTail_of_ends {m left : Nat} (h : EndsNumber cs) :
    readTail negative m left cs = leaving (integerOf negative m left) cs := by
  rw [leaving_integerOf]
  unfold readTail
  split
  · exact absurd rfl (h _ rfl).2.1
  · exact absurd rfl (h _ rfl).2.2.1
  · exact absurd rfl (h _ rfl).2.2.2
  · rfl

theorem reads_tail (negative : Bool) (m left : Nat) :
    Reads (readTail negative m left) IsTail where
  complete := by
    rintro _ ⟨_, _, rfl | ⟨ds, hds, rfl⟩, hexponent, rfl⟩
    · obtain rfl | ⟨mark, power, hmark, hpower, rfl⟩ := hexponent
      · exact ⟨_, fun rest hrest => readTail_of_ends hrest⟩
      · obtain ⟨x, hx⟩ := (reads_exponent negative m left).complete hpower
        rcases hmark with rfl | rfl
        · exact ⟨x, hx⟩
        · exact ⟨x, hx⟩
    · exact (reads_fraction negative m left).complete ⟨ds, _, hds, hexponent, rfl⟩
  sound := by
    intro cs rest n h
    unfold readTail at h
    split at h
    · obtain ⟨front, hfront, rfl, hread⟩ := (reads_fraction ..).sound h
      exact ⟨'.' :: front, hfront.isTail, rfl, hread⟩
    · obtain ⟨power, hpower, rfl, hread⟩ := (reads_exponent ..).sound h
      exact ⟨'e' :: power, IsExponent.isTail (.inr ⟨'e', power, .inl rfl, hpower, rfl⟩), rfl, hread⟩
    · obtain ⟨power, hpower, rfl, hread⟩ := (reads_exponent ..).sound h
      exact ⟨'E' :: power, IsExponent.isTail (.inr ⟨'E', power, .inr rfl, hpower, rfl⟩), rfl, hread⟩
    · rw [← leaving_integerOf] at h
      obtain ⟨hinteger, rfl⟩ := leaving_eq_ok_iff.mp h
      refine ⟨[], IsExponent.isTail (.inl rfl), rfl, fun rest' hrest' => ?_⟩
      rw [List.nil_append, readTail_of_ends hrest', hinteger]
      rfl

/-- Only a zero that stands alone begins an integer with a zero. -/
theorem head?_zero_iff (hds : IsDigits ds) :
    ¬ (ds.head? = some '0' ∧ 1 < ds.length) ↔ (ds.head? = some '0' → ds = ['0']) := by
  obtain ⟨d, ds, rfl⟩ := List.exists_cons_of_ne_nil hds.1
  rcases ds with _ | ⟨e, ds⟩ <;> simp

theorem readNumber_digits (hds : IsDigits ds) (hzero : ds.head? = some '0' → ds = ['0'])
    (hrest : EndsDigits rest) :
    readNumber negative (ds ++ rest) =
      readTail negative (takeDigits maxInteger ds 0).1 (takeDigits maxInteger ds 0).2.2 rest := by
  obtain ⟨htake, hdrop⟩ := takeWhile_digits hds.2 hrest
  have hne : ¬ ds.isEmpty = true := by simpa using hds.1
  simp only [readNumber, htake, hdrop, if_neg hne, if_neg ((head?_zero_iff hds).mpr hzero)]
  rfl

theorem reads_number (negative : Bool) : Reads (readNumber negative) IsUnsigned where
  complete := by
    rintro _ ⟨ds, tail, hds, hzero, htail, rfl⟩
    obtain ⟨x, hx⟩ := (reads_tail negative (takeDigits maxInteger ds 0).1
      (takeDigits maxInteger ds 0).2.2).complete htail
    refine ⟨x, fun rest hrest => ?_⟩
    rw [List.append_assoc, readNumber_digits hds hzero (htail.endsDigits hrest.endsDigits),
      hx rest hrest]
  sound := by
    intro cs rest n h
    by_cases hne : (cs.takeWhile isDigit).isEmpty = true
    · rw [readNumber, if_pos hne] at h
      cases h
    obtain ⟨ds, rest₀, hds, hrest₀, rfl⟩ := exists_digits hne
    -- A zero that other digits follow is refused before anything else is looked at.
    by_cases hzero : ds.head? = some '0' ∧ 1 < ds.length
    · rw [readNumber, (takeWhile_digits hds.2 hrest₀).1, if_neg (by simpa using hds.1),
        if_pos hzero] at h
      cases h
    have hzero' := (head?_zero_iff hds).mp hzero
    rw [readNumber_digits hds hzero' hrest₀] at h
    obtain ⟨tail, htail, rfl, hread⟩ := (reads_tail ..).sound h
    refine ⟨ds ++ tail, ⟨ds, tail, hds, hzero', htail, rfl⟩, by simp, fun rest' hrest' => ?_⟩
    rw [List.append_assoc, readNumber_digits hds hzero' (htail.endsDigits hrest'.endsDigits),
      hread rest' hrest']

/-! ## Numbers -/

/-- Reads a number with its sign. -/
def readSigned : List Char → Except TextFault (Number × List Char)
  | '-' :: cs => readNumber true cs
  | cs => readNumber false cs

theorem IsUnsigned.isNumber {sign : List Char} (h : IsUnsigned cs)
    (hsign : sign = [] ∨ sign = ['-']) : IsNumber (sign ++ cs) := by
  obtain ⟨integer, _, hinteger, hzero, ⟨fraction, exponent, hfraction, hexponent, rfl⟩, rfl⟩ := h
  refine .mk hsign hinteger hzero hfraction (hexponent.imp_right ?_)
  rintro ⟨mark, _, hmark, ⟨side, ds, hside, hds, rfl⟩, rfl⟩
  exact ⟨mark, side, ds, hmark, hside, hds, rfl⟩

theorem IsNumber.exists_unsigned (h : IsNumber cs) :
    ∃ sign unsigned, (sign = [] ∨ sign = ['-']) ∧ IsUnsigned unsigned ∧ cs = sign ++ unsigned := by
  obtain ⟨hsign, hinteger, hzero, hfraction, hexponent⟩ := h
  refine ⟨_, _, hsign, ⟨_, _, hinteger, hzero, ⟨_, _, hfraction, hexponent.imp_right ?_, rfl⟩,
    rfl⟩, rfl⟩
  rintro ⟨mark, side, ds, hmark, hside, hds, rfl⟩
  exact ⟨mark, _, hmark, ⟨side, ds, hside, hds, rfl⟩, rfl⟩

theorem IsUnsigned.exists_digit (h : IsUnsigned cs) :
    ∃ d ds, cs = d :: ds ∧ isDigit d = true := by
  obtain ⟨integer, tail, hinteger, -, -, rfl⟩ := h
  obtain ⟨d, ds, rfl⟩ := List.exists_cons_of_ne_nil hinteger.1
  exact ⟨d, ds ++ tail, rfl, hinteger.2 d (List.mem_cons_self ..)⟩

/-- Anything but a sign in front leaves a number without a sign. -/
theorem readSigned_of_ne (h : cs.head? ≠ some '-') : readSigned cs = readNumber false cs := by
  unfold readSigned
  split
  · exact absurd rfl h
  · rfl

theorem IsUnsigned.readSigned_append (h : IsUnsigned cs) (rest : List Char) :
    readSigned (cs ++ rest) = readNumber false (cs ++ rest) := by
  obtain ⟨d, ds, rfl, hd⟩ := h.exists_digit
  refine readSigned_of_ne fun hhead => ?_
  cases Option.some.inj hhead
  exact absurd hd (by decide)

theorem reads_signed : Reads readSigned IsNumber where
  complete := by
    intro front hfront
    obtain ⟨_, unsigned, rfl | rfl, hunsigned, rfl⟩ := hfront.exists_unsigned
    · obtain ⟨x, hx⟩ := (reads_number false).complete hunsigned
      exact ⟨x, fun rest hrest => (hunsigned.readSigned_append rest).trans (hx rest hrest)⟩
    · exact (reads_number true).complete hunsigned
  sound := by
    intro cs rest n h
    by_cases hsign : cs.head? = some '-'
    · obtain ⟨cs, rfl⟩ := List.head?_eq_some_iff.mp hsign
      obtain ⟨front, hfront, rfl, hread⟩ := (reads_number true).sound h
      exact ⟨'-' :: front, hfront.isNumber (.inr rfl), rfl, hread⟩
    · rw [readSigned_of_ne hsign] at h
      obtain ⟨front, hfront, rfl, hread⟩ := (reads_number false).sound h
      exact ⟨front, hfront.isNumber (.inl rfl), rfl, fun rest' hrest' =>
        (hfront.readSigned_append rest').trans (hread rest' hrest')⟩

/-- **A number of the grammar is read**, unless it is too large. -/
theorem IsNumber.readSigned_eq (h : IsNumber cs) :
    (∃ n, readSigned cs = .ok (n, [])) ∨ readSigned cs = .error .numberTooLarge := by
  obtain ⟨x, hx⟩ := reads_signed.complete h
  have hread := hx [] endsNumber_nil
  rw [List.append_nil] at hread
  cases x with
  | none => exact .inr hread
  | some n => exact .inl ⟨n, hread⟩

/-- The text of a number that is not too large. -/
def SpellsNumber (cs : List Char) (n : Number) : Prop :=
  IsNumber cs ∧ readSigned cs = .ok (n, [])

theorem SpellsNumber.readSigned_append (h : SpellsNumber cs n) (hrest : EndsNumber rest) :
    readSigned (cs ++ rest) = .ok (n, rest) := by
  obtain ⟨x, hx⟩ := reads_signed.complete h.1
  have hread := hx [] endsNumber_nil
  rw [List.append_nil, h.2] at hread
  rw [hx rest hrest, (leaving_eq_ok_iff.mp hread.symm).1]
  rfl

theorem readSigned_sound (h : readSigned cs = .ok (n, rest)) :
    ∃ front, SpellsNumber front n ∧ cs = front ++ rest := by
  obtain ⟨front, hfront, rfl, hread⟩ := reads_signed.sound h
  have hspells := hread [] endsNumber_nil
  rw [List.append_nil] at hspells
  exact ⟨front, ⟨hfront, hspells⟩, rfl⟩

end Dialogue.Json
