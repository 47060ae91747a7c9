import Dialogue.Proofs.Json.Lexemes
import Dialogue.Proofs.Json.Records

/-!
# Which texts spell strings

What stands between the quotes of a string spells its characters, each by itself or by an escape.
The escape of a character beyond the first 65536 has two halves; one half alone spells nothing.

Main statements: `readString_sound` and `SpellsChars.readString`, of texts given as characters.
-/

namespace Dialogue.Json

/-! ## Escapes -/

/-- Four hexadecimal digits and the number that they write. -/
inductive WritesHex : List Char → Nat → Prop where
  | mk {a b c d : Char} {i j k l : Nat} : hexValue? a = some i → hexValue? b = some j →
      hexValue? c = some k → hexValue? d = some l →
      WritesHex [a, b, c, d] (((i * 16 + j) * 16 + k) * 16 + l)

/-- The letters of escapes, and the characters that they stand for. -/
def shortEscapes : List (Char × Char) :=
  [('"', '"'), ('\\', '\\'), ('/', '/'), ('b', '\x08'), ('f', '\x0c'), ('n', '\n'), ('r', '\r'),
    ('t', '\t')]

/-- What follows the backslash of an escape, and the character that the escape stands for. -/
inductive Escapes : List Char → Char → Prop where
  | short {letter c : Char} : (letter, c) ∈ shortEscapes → Escapes [letter] c
  | code {digits : List Char} {n : Nat} : WritesHex digits n → n < 0xD800 ∨ 0xDFFF < n →
      Escapes ('u' :: digits) (Char.ofNat n)
  | pair {digits digits' : List Char} {high low : Nat} : WritesHex digits high →
      0xD800 ≤ high → high ≤ 0xDBFF → WritesHex digits' low → 0xDC00 ≤ low → low ≤ 0xDFFF →
      Escapes ('u' :: (digits ++ '\\' :: 'u' :: digits'))
        (Char.ofNat ((high - 0xD800) * 0x400 + (low - 0xDC00) + 0x10000))

variable {cs rest : List Char} {c : Char} {n fuel : Nat}

theorem readHex4_eq_ok_iff :
    readHex4 .characters cs = .ok (n, rest) ↔
      ∃ digits, WritesHex digits n ∧ cs = digits ++ rest := by
  constructor
  · intro h
    unfold readHex4 at h
    split at h
    · split at h
      · next ha hb hc hd =>
        cases h
        exact ⟨_, .mk ha hb hc hd, rfl⟩
      · cases h
    · split at h <;> cases h
  · rintro ⟨_, ⟨ha, hb, hc, hd⟩, rfl⟩
    simp only [readHex4, List.cons_append, List.nil_append, ha, hb, hc, hd]

theorem readLowSurrogate_eq_ok_iff {high : Nat} :
    readLowSurrogate .characters high cs = .ok (c, rest) ↔
      ∃ digits low, WritesHex digits low ∧ 0xDC00 ≤ low ∧ low ≤ 0xDFFF ∧
        cs = '\\' :: 'u' :: (digits ++ rest) ∧
        c = Char.ofNat ((high - 0xD800) * 0x400 + (low - 0xDC00) + 0x10000) := by
  constructor
  · intro h
    unfold readLowSurrogate at h
    split at h
    · cases h
    · cases h
    · obtain ⟨⟨low, rest'⟩, hhex, hpair⟩ := bind_eq_ok_iff.mp h
      obtain ⟨digits, hdigits, rfl⟩ := readHex4_eq_ok_iff.mp hhex
      dsimp only at hpair
      split at hpair
      · next hlow =>
        obtain ⟨hc, rfl⟩ := Prod.mk.inj (Except.ok.inj hpair)
        exact ⟨digits, low, hdigits, hlow.1, hlow.2, rfl, hc.symm⟩
      · cases hpair
    · cases h
  · rintro ⟨digits, low, hdigits, hleast, hmost, rfl, hc⟩
    rw [readLowSurrogate]
    refine bind_eq_ok_iff.mpr ⟨_, readHex4_eq_ok_iff.mpr ⟨digits, hdigits, rfl⟩, ?_⟩
    dsimp only
    rw [if_pos ⟨hleast, hmost⟩, ← hc]

/-- An escape is read as the character that it stands for. -/
theorem readEscape_eq_ok_iff :
    readEscape .characters cs = .ok (c, rest) ↔ ∃ e, Escapes e c ∧ cs = e ++ rest := by
  constructor
  · intro h
    unfold readEscape at h
    split at h
    · cases h
    iterate 8
      cases h
      exact ⟨_, .short (by decide), rfl⟩
    · obtain ⟨⟨n, rest'⟩, hhex, hcode⟩ := bind_eq_ok_iff.mp h
      obtain ⟨digits, hdigits, rfl⟩ := readHex4_eq_ok_iff.mp hhex
      dsimp only at hcode
      split at hcode
      · cases hcode
      · next hlow =>
        split at hcode
        · next hhigh =>
          obtain ⟨digits', low, hdigits', hleast, hmost, rfl, hc⟩ :=
            readLowSurrogate_eq_ok_iff.mp hcode
          rw [hc]
          exact ⟨_, .pair hdigits hhigh.1 hhigh.2 hdigits' hleast hmost, by simp⟩
        · next hhigh =>
          cases hcode
          exact ⟨_, .code hdigits (by omega), rfl⟩
    · cases h
  · rintro ⟨_, hescape, rfl⟩
    cases hescape with
    | @short letter c hmem =>
      simp only [shortEscapes, List.mem_cons, Prod.mk.injEq, List.not_mem_nil, or_false] at hmem
      rcases hmem with ⟨rfl, rfl⟩ | ⟨rfl, rfl⟩ | ⟨rfl, rfl⟩ | ⟨rfl, rfl⟩ | ⟨rfl, rfl⟩ |
        ⟨rfl, rfl⟩ | ⟨rfl, rfl⟩ | ⟨rfl, rfl⟩ <;> rfl
    | code hdigits hrange =>
      rw [List.cons_append, readEscape]
      refine bind_eq_ok_iff.mpr ⟨_, readHex4_eq_ok_iff.mpr ⟨_, hdigits, rfl⟩, ?_⟩
      dsimp only
      rw [if_neg (by omega), if_neg (by omega)]
    | pair hdigits hleast hmost hdigits' hleast' hmost' =>
      rw [List.cons_append, readEscape, List.append_assoc]
      refine bind_eq_ok_iff.mpr ⟨_, readHex4_eq_ok_iff.mpr ⟨_, hdigits, rfl⟩, ?_⟩
      dsimp only
      rw [if_neg (by omega), if_pos ⟨hleast, hmost⟩]
      exact readLowSurrogate_eq_ok_iff.mpr ⟨_, _, hdigits', hleast', hmost', rfl, rfl⟩

/-! ## Strings -/

/-- What stands between the quotes of a string, and the characters that it spells. -/
inductive SpellsChars : List Char → List Char → Prop where
  | nil : SpellsChars [] []
  | plain {c : Char} {cs ds : List Char} : 0x20 ≤ c.toNat → c ≠ '"' → c ≠ '\\' →
      SpellsChars cs ds → SpellsChars (c :: cs) (c :: ds)
  | escape {e : List Char} {c : Char} {cs ds : List Char} : Escapes e c → SpellsChars cs ds →
      SpellsChars ('\\' :: (e ++ cs)) (c :: ds)

theorem readElements_sound {ds : List Char}
    (h : readElements .characters fuel cs = .ok (ds, rest)) :
    ∃ content, SpellsChars content ds ∧ cs = content ++ '"' :: rest := by
  induction fuel generalizing cs ds with
  | zero => cases cs <;> cases h
  | succ fuel ih =>
    unfold readElements at h
    split at h
    · cases h
    · next hzero _ => cases hzero
    · cases h
      exact ⟨[], .nil, rfl⟩
    · next heq =>
      obtain rfl := Nat.succ.inj heq
      obtain ⟨⟨c, rest'⟩, hescape, hmore⟩ := bind_eq_ok_iff.mp h
      obtain ⟨⟨es, rest''⟩, helements, hdone⟩ := bind_eq_ok_iff.mp hmore
      cases hdone
      obtain ⟨e, hescapes, rfl⟩ := readEscape_eq_ok_iff.mp hescape
      obtain ⟨content, hcontent, rfl⟩ := ih helements
      exact ⟨_, .escape hescapes hcontent, by simp⟩
    · next hquote hslash heq =>
      obtain rfl := Nat.succ.inj heq
      split at h
      · cases h
      · next hcontrol =>
        obtain ⟨⟨es, rest'⟩, helements, hdone⟩ := bind_eq_ok_iff.mp h
        cases hdone
        obtain ⟨content, hcontent, rfl⟩ := ih helements
        exact ⟨_, .plain (Nat.le_of_not_lt hcontrol) hquote hslash hcontent, rfl⟩

theorem SpellsChars.readElements {ds : List Char} (h : SpellsChars cs ds)
    (hfuel : cs.length < fuel) (rest : List Char) :
    readElements .characters fuel (cs ++ '"' :: rest) = .ok (ds, rest) := by
  induction h generalizing fuel with
  | nil =>
    obtain ⟨fuel, rfl⟩ := Nat.exists_eq_add_of_le' (Nat.zero_lt_of_lt hfuel)
    rfl
  | plain hprintable hquote hslash _ ih =>
    obtain ⟨fuel, rfl⟩ := Nat.exists_eq_add_of_le' (Nat.zero_lt_of_lt hfuel)
    rw [List.cons_append, Json.readElements, if_neg (Nat.not_lt.mpr hprintable),
      ih (Nat.lt_of_succ_lt_succ hfuel)]
    · rfl
    · exact hquote
    · exact hslash
  | @escape e c cs ds hescapes _ ih =>
    obtain ⟨fuel, rfl⟩ := Nat.exists_eq_add_of_le' (Nat.zero_lt_of_lt hfuel)
    rw [List.length_cons, List.length_append] at hfuel
    rw [List.cons_append, List.append_assoc, Json.readElements,
      readEscape_eq_ok_iff.mpr ⟨e, hescapes, rfl⟩]
    simp only [ok_bind]
    rw [ih (by omega)]
    rfl

/-- What was read as a string spells it, up to the closing quote. -/
theorem readString_sound {s : String} (h : readString .characters fuel cs = .ok (s, rest)) :
    ∃ content, SpellsChars content s.toList ∧ cs = content ++ '"' :: rest := by
  unfold readString at h
  obtain ⟨⟨es, rest'⟩, helements, h⟩ := bind_eq_ok_iff.mp h
  cases h
  rw [String.toList_ofList]
  exact readElements_sound helements

/-- What spells a string is read as the string, up to the closing quote. -/
theorem SpellsChars.readString {s : String} (h : SpellsChars cs s.toList) (hfuel : cs.length < fuel)
    (rest : List Char) : readString .characters fuel (cs ++ '"' :: rest) = .ok (s, rest) := by
  unfold Json.readString
  rw [h.readElements hfuel]
  simp [Source.characters]

end Dialogue.Json
