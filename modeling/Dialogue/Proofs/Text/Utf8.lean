import Dialogue.Text.Utf8
import Mathlib.Data.List.Basic

/-!
# UTF-8 read and written

The strict reading of octets is the inverse of writing them: octets are text exactly if they are the
octets of some characters, and then these are the characters that are read.

Main statement: `decode?_eq_some_iff`. It comes from two lemmas about the front of octets:
`front_octetsOf` (the octets of a character are read as that character) and `octetsOf_of_front`
(nothing else is).
-/

namespace Dialogue.Text.Utf8

/-! ## First octets -/

theorem sequenceLength_eq_one_iff {a : Nat} : sequenceLength a = 1 ↔ a < 0x80 := by
  unfold sequenceLength
  grind

theorem sequenceLength_eq_two_iff {a : Nat} : sequenceLength a = 2 ↔ 0xC2 ≤ a ∧ a ≤ 0xDF := by
  unfold sequenceLength
  grind

theorem sequenceLength_eq_three_iff {a : Nat} : sequenceLength a = 3 ↔ 0xE0 ≤ a ∧ a ≤ 0xEF := by
  unfold sequenceLength
  grind

theorem sequenceLength_eq_four_iff {a : Nat} : sequenceLength a = 4 ↔ 0xF0 ≤ a ∧ a ≤ 0xF4 := by
  unfold sequenceLength
  grind

theorem isTail_iff {b : Nat} : isTail b = true ↔ 0x80 ≤ b ∧ b ≤ 0xBF := by
  simp [isTail]

/-- The second octets of a sequence of three or four that are not overlong, not surrogates and not
past the last character. -/
theorem secondFits_iff {first second : Nat} :
    secondFits first second = true ↔ 0x80 ≤ second ∧ second ≤ 0xBF ∧
      (first = 0xE0 → 0xA0 ≤ second) ∧ (first = 0xED → second ≤ 0x9F) ∧
      (first = 0xF0 → 0x90 ≤ second) ∧ (first = 0xF4 → second ≤ 0x8F) := by
  unfold secondFits
  grind [isTail_iff]

/-! ## One character -/

theorem toNat_ofNat {n : Nat} (h : n.isValidChar) : (Char.ofNat n).toNat = n := by
  rw [Char.ofNat, dif_pos h]
  rfl

/-- The octets of a character are read as that character, whatever follows. -/
theorem front_octetsOf (c : Char) (rest : List Nat) :
    ∃ b tl, octetsOf c = b :: tl ∧ front b (tl ++ rest) = ⟨some c, tl.length + 1⟩ := by
  have hvalid : c.toNat < 0xD800 ∨ 0xDFFF < c.toNat ∧ c.toNat < 0x110000 := c.valid
  have hc : Char.ofNat c.toNat = c := Char.ofNat_toNat c
  generalize hn : c.toNat = n at hvalid hc
  unfold octetsOf
  rw [hn]
  by_cases h1 : n < 0x80
  · have hlen : sequenceLength n = 1 := sequenceLength_eq_one_iff.mpr h1
    refine ⟨n, [], if_pos h1, ?_⟩
    simp only [front, hlen, hc, List.length_nil]
  · by_cases h2 : n < 0x800
    · have hlen : sequenceLength (0xC0 + n / 0x40) = 2 :=
        sequenceLength_eq_two_iff.mpr (by omega)
      have htail : isTail (0x80 + n % 0x40) = true := isTail_iff.mpr (by omega)
      have hvalue : Char.ofNat (n / 0x40 * 0x40 + n % 0x40) = c :=
        (congrArg Char.ofNat (by omega)).trans hc
      refine ⟨_, _, by rw [if_neg h1, if_pos h2], ?_⟩
      simp [front, hlen, htail, hvalue]
    · by_cases h3 : n < 0x10000
      · have hlen : sequenceLength (0xE0 + n / 0x1000) = 3 :=
          sequenceLength_eq_three_iff.mpr (by omega)
        have hsecond : secondFits (0xE0 + n / 0x1000) (0x80 + n / 0x40 % 0x40) = true :=
          secondFits_iff.mpr (by omega)
        have htail : isTail (0x80 + n % 0x40) = true := isTail_iff.mpr (by omega)
        have hvalue : Char.ofNat (n / 0x1000 * 0x1000 + n / 0x40 % 0x40 * 0x40 + n % 0x40) = c :=
          (congrArg Char.ofNat (by omega)).trans hc
        refine ⟨_, _, by rw [if_neg h1, if_neg h2, if_pos h3], ?_⟩
        simp [front, hlen, hsecond, htail, hvalue]
      · have hlen : sequenceLength (0xF0 + n / 0x40000) = 4 :=
          sequenceLength_eq_four_iff.mpr (by omega)
        have hsecond : secondFits (0xF0 + n / 0x40000) (0x80 + n / 0x1000 % 0x40) = true :=
          secondFits_iff.mpr (by omega)
        have hthird : isTail (0x80 + n / 0x40 % 0x40) = true := isTail_iff.mpr (by omega)
        have htail : isTail (0x80 + n % 0x40) = true := isTail_iff.mpr (by omega)
        have hvalue : Char.ofNat (n / 0x40000 * 0x40000 + n / 0x1000 % 0x40 * 0x1000 +
            n / 0x40 % 0x40 * 0x40 + n % 0x40) = c :=
          (congrArg Char.ofNat (by omega)).trans hc
        refine ⟨_, _, by rw [if_neg h1, if_neg h2, if_neg h3], ?_⟩
        simp [front, hlen, hsecond, hthird, htail, hvalue]

/-- The octets of the character of a number, by the size of the number. -/
theorem octetsOf_eq {n : Nat} (h : n.isValidChar) {octets : List Nat}
    (ho : (if n < 0x80 then [n]
      else if n < 0x800 then [0xC0 + n / 0x40, 0x80 + n % 0x40]
      else if n < 0x10000 then [0xE0 + n / 0x1000, 0x80 + n / 0x40 % 0x40, 0x80 + n % 0x40]
      else [0xF0 + n / 0x40000, 0x80 + n / 0x1000 % 0x40, 0x80 + n / 0x40 % 0x40,
        0x80 + n % 0x40]) = octets) : octetsOf (Char.ofNat n) = octets := by
  unfold octetsOf
  rw [toNat_ofNat h]
  exact ho

theorem octetsOf_of_one {b : Nat} (h : sequenceLength b = 1) : octetsOf (Char.ofNat b) = [b] := by
  have hb := sequenceLength_eq_one_iff.mp h
  exact octetsOf_eq (.inl (by omega)) (if_pos hb)

theorem octetsOf_of_two {b b₂ : Nat} (h : sequenceLength b = 2) (h₂ : isTail b₂ = true) :
    octetsOf (Char.ofNat ((b - 0xC0) * 0x40 + (b₂ - 0x80))) = [b, b₂] := by
  have hb := sequenceLength_eq_two_iff.mp h
  have hb₂ := isTail_iff.mp h₂
  refine octetsOf_eq (.inl (by omega)) ?_
  rw [if_neg (by omega), if_pos (by omega)]
  simp only [List.cons.injEq, and_true]
  omega

theorem octetsOf_of_three {b b₂ b₃ : Nat} (h : sequenceLength b = 3)
    (h₂ : secondFits b b₂ = true) (h₃ : isTail b₃ = true) :
    octetsOf (Char.ofNat ((b - 0xE0) * 0x1000 + (b₂ - 0x80) * 0x40 + (b₃ - 0x80))) =
      [b, b₂, b₃] := by
  have hb := sequenceLength_eq_three_iff.mp h
  have hb₂ := secondFits_iff.mp h₂
  have hb₃ := isTail_iff.mp h₃
  refine octetsOf_eq ?_ ?_
  · unfold Nat.isValidChar
    omega
  · rw [if_neg (by omega), if_neg (by omega), if_pos (by omega)]
    simp only [List.cons.injEq, and_true]
    omega

theorem octetsOf_of_four {b b₂ b₃ b₄ : Nat} (h : sequenceLength b = 4)
    (h₂ : secondFits b b₂ = true) (h₃ : isTail b₃ = true) (h₄ : isTail b₄ = true) :
    octetsOf (Char.ofNat ((b - 0xF0) * 0x40000 + (b₂ - 0x80) * 0x1000 + (b₃ - 0x80) * 0x40 +
      (b₄ - 0x80))) = [b, b₂, b₃, b₄] := by
  have hb := sequenceLength_eq_four_iff.mp h
  have hb₂ := secondFits_iff.mp h₂
  have hb₃ := isTail_iff.mp h₃
  have hb₄ := isTail_iff.mp h₄
  refine octetsOf_eq ?_ ?_
  · unfold Nat.isValidChar
    omega
  · rw [if_neg (by omega), if_neg (by omega), if_neg (by omega)]
    simp only [List.cons.injEq, and_true]
    omega

/-- What is read as a character begins with its octets. -/
theorem octetsOf_of_front {b : Nat} {rest : List Nat} {c : Char}
    (h : (front b rest).char = some c) :
    ∃ tl, octetsOf c = b :: tl ∧ tl ++ rest.drop ((front b rest).length - 1) = rest := by
  unfold front at h ⊢
  -- One case for each number of octets; where a check fails, no character is read.
  split at h
  · next hlen =>
    obtain rfl := Option.some.inj h
    exact ⟨[], octetsOf_of_one hlen, rfl⟩
  · next b₂ _ hlen =>
    split at h
    · next h₂ =>
      obtain rfl := Option.some.inj h
      exact ⟨[b₂], octetsOf_of_two hlen h₂, by simp [h₂]⟩
    · cases h
  · next b₂ b₃ _ hlen =>
    split at h
    · cases h
    · next h₂ =>
      simp only [Bool.not_eq_true', Bool.not_eq_false] at h₂
      split at h
      · next h₃ =>
        obtain rfl := Option.some.inj h
        exact ⟨[b₂, b₃], octetsOf_of_three hlen h₂ h₃, by simp [h₂, h₃]⟩
      · cases h
  · next b₂ b₃ b₄ _ hlen =>
    split at h
    · cases h
    · next h₂ =>
      simp only [Bool.not_eq_true', Bool.not_eq_false] at h₂
      split at h
      · cases h
      · next h₃ =>
        simp only [Bool.not_eq_true', Bool.not_eq_false] at h₃
        split at h
        · next h₄ =>
          obtain rfl := Option.some.inj h
          exact ⟨[b₂, b₃, b₄], octetsOf_of_four hlen h₂ h₃ h₄, by simp [h₂, h₃, h₄]⟩
        · cases h
  all_goals cases h

/-! ## Texts -/

theorem fronts_encode (cs : List Char) {fuel : Nat} (h : (encode cs).length ≤ fuel) :
    fronts fuel (encode cs) = cs.map some := by
  induction cs generalizing fuel with
  | nil => cases fuel <;> rfl
  | cons c cs ih =>
    obtain ⟨b, tl, hc, hfront⟩ := front_octetsOf c (encode cs)
    have hcons : encode (c :: cs) = b :: (tl ++ encode cs) := by
      rw [encode, List.flatMap_cons, hc]
      rfl
    rw [hcons, List.length_cons, List.length_append] at h
    obtain ⟨fuel, rfl⟩ : ∃ n, fuel = n + 1 := ⟨fuel - 1, by omega⟩
    rw [hcons, fronts, hfront]
    simp only [Nat.add_sub_cancel, List.drop_left, List.map_cons]
    rw [ih (by omega)]

theorem encode_of_fronts {fuel : Nat} {octets : List Nat} {cs : List Char}
    (hfuel : octets.length ≤ fuel) (h : (fronts fuel octets).mapM id = some cs) :
    encode cs = octets := by
  induction fuel generalizing octets cs with
  | zero =>
    obtain rfl : octets = [] := List.eq_nil_of_length_eq_zero (by omega)
    cases h
    rfl
  | succ fuel ih =>
    rcases octets with _ | ⟨b, rest⟩
    · cases h
      rfl
    · rw [fronts, List.mapM_cons] at h
      obtain ⟨c, hc, h⟩ := Option.bind_eq_some_iff.mp h
      obtain ⟨cs', hcs', h⟩ := Option.bind_eq_some_iff.mp h
      obtain rfl := Option.some.inj h
      obtain ⟨tl, htl, hrest⟩ := octetsOf_of_front hc
      have hlength : (rest.drop ((front b rest).length - 1)).length ≤ fuel := by
        rw [List.length_drop]
        simp only [List.length_cons] at hfuel
        omega
      rw [encode, List.flatMap_cons, htl, ← encode, ih hlength hcs', List.cons_append, hrest]

/-- **Reading and writing.** Octets are read as characters exactly if they are the octets of these
characters. -/
theorem decode?_eq_some_iff {octets : List Nat} {cs : List Char} :
    decode? octets = some cs ↔ encode cs = octets := by
  constructor
  · exact encode_of_fronts (Nat.le_refl _)
  · rintro rfl
    rw [decode?, fronts_encode cs (Nat.le_refl _)]
    induction cs with
    | nil => rfl
    | cons c cs ih =>
      rw [List.map_cons, List.mapM_cons, ih]
      rfl

/-- The octets of characters are read as these characters, also where ill-formed ones are let
pass. -/
theorem decodeLossy_encode (cs : List Char) : decodeLossy (encode cs) = cs := by
  rw [decodeLossy, fronts_encode cs (Nat.le_refl _), List.map_map]
  exact List.map_id cs

/-- Octets that cannot be read are those of no characters. -/
theorem decode?_eq_none_iff {octets : List Nat} :
    decode? octets = none ↔ ∀ cs, encode cs ≠ octets := by
  rw [Option.eq_none_iff_forall_ne_some]
  exact forall_congr' fun cs => not_congr decode?_eq_some_iff

end Dialogue.Text.Utf8
