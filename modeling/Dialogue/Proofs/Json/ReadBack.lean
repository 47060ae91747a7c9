import Dialogue.Json.Parser
import Dialogue.Proofs.Json.Lexemes

/-!
# Reading back what is printed

A value whose numbers are integers of 64 bits and that is not nested too deep is read back from its
text, member for member and character for character. The text may stand in front of other text, as
the items of an array do; `ReadsBack` says so of one value, and there is one lemma for each kind of
value, so that the theorem is an induction over the value.

Main statements: `parse_render` (the whole text of a value is read as the value), and
`Integral.trim_render_ne_nil` (the text is not blank).
-/

namespace Dialogue.Json

/-- A value that its text keeps: at most `depth` arrays and objects stand inside one another, every
number is an integer of 64 bits with or without a sign, and the members of objects stand in the
order of their names. -/
inductive Integral : (depth : Nat) → Json → Prop where
  | null {depth : Nat} : Integral depth .null
  | bool {depth : Nat} (b : Bool) : Integral depth (.bool b)
  | int {depth : Nat} {n : Int} : -0x8000000000000000 ≤ n → n ≤ 0xFFFFFFFFFFFFFFFF →
      Integral depth (.num (.int n))
  | str {depth : Nat} (s : String) : Integral depth (.str s)
  | arr {depth : Nat} {xs : List Json} : (∀ x ∈ xs, Integral depth x) →
      Integral (depth + 1) (.arr xs)
  | obj {depth : Nat} {ms : Members} : Table.Ascending ms →
      (∀ m ∈ ms, Integral depth m.2) → Integral (depth + 1) (.obj ms)

/-! ## Where a value begins -/

theorem isBlank_of_isSpace {c : Char} (h : isSpace c = true) : Text.isBlank c = true := by
  simp only [isSpace, Bool.or_eq_true, beq_iff_eq] at h
  rcases h with ((rfl | rfl) | rfl) | rfl <;> decide

theorem skipSpace_of_not_blank {c : Char} (cs : List Char) (h : Text.isBlank c = false) :
    skipSpace (c :: cs) = c :: cs := by
  have hspace : ¬ isSpace c = true := fun hspace => by
    simp [isBlank_of_isSpace hspace] at h
  rw [skipSpace, List.dropWhile_cons_of_neg hspace]

theorem toNat_of_isDigit {c : Char} (h : isDigit c = true) : 0x30 ≤ c.toNat ∧ c.toNat ≤ 0x39 := by
  simp only [isDigit, Bool.and_eq_true, decide_eq_true_eq, Char.le_def, UInt32.le_iff_toNat_le] at h
  exact h

theorem not_blank_of_isDigit {c : Char} (h : isDigit c = true) : Text.isBlank c = false := by
  have hbounds := toNat_of_isDigit h
  simp [Text.isBlank]
  omega

/-- A text that begins as a value does: not with a blank, and not with the end of an array. -/
def BeginsValue (cs : List Char) : Prop :=
  ∃ c rest, cs = c :: rest ∧ Text.isBlank c = false ∧ c ≠ ']'

theorem exists_digit (n : Nat) :
    ∃ c cs, Nat.toDigits 10 n = c :: cs ∧ isDigit c = true := by
  rcases hds : Nat.toDigits 10 n with _ | ⟨c, cs⟩
  · exact absurd hds Nat.toDigits_ne_nil
  · exact ⟨c, cs, rfl, isDigit_of_mem_toDigits (hds ▸ List.mem_cons_self ..)⟩

/-- The text of a value begins as a value does. -/
theorem Integral.beginsValue {depth : Nat} {v : Json} (h : v.Integral depth) :
    BeginsValue v.chars := by
  cases h with
  | null => exact ⟨_, _, rfl, by decide, by decide⟩
  | bool b => cases b <;> exact ⟨_, _, rfl, by decide, by decide⟩
  | str s => exact ⟨_, _, rfl, by decide, by decide⟩
  | @arr _ xs _ => cases xs <;> exact ⟨_, _, rfl, by decide, by decide⟩
  | @obj _ ms _ _ =>
    rcases ms with _ | ⟨⟨k, v⟩, ms⟩ <;> exact ⟨_, _, rfl, by decide, by decide⟩
  | @int _ n _ _ =>
    change BeginsValue (intChars n)
    unfold intChars
    split
    · exact ⟨_, _, rfl, by decide, by decide⟩
    · obtain ⟨c, cs, hds, hdigit⟩ := exists_digit n.natAbs
      refine ⟨c, cs, hds, not_blank_of_isDigit hdigit, ?_⟩
      rintro rfl
      exact absurd hdigit (by decide)

/-! ## Kinds of values -/

/-- The text of the value is read as the value where it stands in front of other text, with fuel for
two steps on each of its characters. -/
def ReadsBack (depth : Nat) (v : Json) : Prop :=
  ∀ ⦃fuel : Nat⦄ ⦃rest : List Char⦄, 2 * v.chars.length ≤ fuel → EndsNumber rest →
    readValue .characters fuel depth (v.chars ++ rest) = .ok (v, rest)

section

variable {depth fuel : Nat} {rest : List Char}

theorem readsBack_null : ReadsBack depth .null := by
  intro fuel rest hfuel _
  obtain ⟨fuel, rfl⟩ := Nat.exists_eq_add_of_le' (Nat.le_trans (by decide : 1 ≤ 2 * 4) hfuel)
  rfl

theorem readsBack_bool (b : Bool) : ReadsBack depth (.bool b) := by
  intro fuel rest hfuel _
  cases b with
  | false =>
    obtain ⟨fuel, rfl⟩ := Nat.exists_eq_add_of_le' (Nat.le_trans (by decide : 1 ≤ 2 * 5) hfuel)
    rfl
  | true =>
    obtain ⟨fuel, rfl⟩ := Nat.exists_eq_add_of_le' (Nat.le_trans (by decide : 1 ≤ 2 * 4) hfuel)
    rfl

/-- A digit begins a number without a sign. -/
theorem readValue_of_isDigit {src : Source} {c : Char} (cs : List Char) (h : isDigit c = true) :
    readValue src (fuel + 1) depth (c :: cs) =
      readNumber false (c :: cs) >>= fun p => .ok (.num p.1, p.2) := by
  have hne (d : Char) (hd : isDigit d = false) : c ≠ d := by
    rintro rfl
    exact Bool.noConfusion (h.symm.trans hd)
  rw [readValue, skipSpace_of_not_blank _ (not_blank_of_isDigit h)]
  split
  · next heq => cases heq
  iterate 7 next heq => exact absurd (List.cons.inj heq).1 (hne _ (by decide))
  · next heq =>
    obtain ⟨rfl, rfl⟩ := List.cons.inj heq
    rw [if_pos h]

theorem readsBack_int {n : Int} (hlow : -0x8000000000000000 ≤ n) (hhigh : n ≤ 0xFFFFFFFFFFFFFFFF) :
    ReadsBack depth (.num (.int n)) := by
  intro fuel rest hfuel hrest
  have hdigits (negative : Bool) := readNumber_toDigits negative
    (show n.natAbs ≤ maxInteger by unfold maxInteger; omega) hrest
  change 2 * (intChars n).length ≤ fuel at hfuel
  change readValue .characters fuel depth (intChars n ++ rest) = _
  unfold intChars at hfuel ⊢
  split at hfuel
  · next hneg =>
    rw [if_pos hneg]
    obtain ⟨fuel, rfl⟩ := Nat.exists_eq_add_of_le' (show 1 ≤ fuel by simp at hfuel; omega)
    have hvalue : integerOrFloat true n.natAbs = .int n := by
      have hsize : 0 < n.natAbs ∧ n.natAbs ≤ 0x8000000000000000 := by omega
      simp only [integerOrFloat, Bool.not_true, Bool.false_eq_true, if_false, if_pos hsize]
      congr 1
      omega
    rw [List.cons_append, readValue, skipSpace_of_not_blank _ (by decide)]
    simp only [hdigits true, hvalue, ok_bind]
  · next hneg =>
    rw [if_neg hneg]
    obtain ⟨c, cs, hds, hdigit⟩ := exists_digit n.natAbs
    obtain ⟨fuel, rfl⟩ := Nat.exists_eq_add_of_le' (show 1 ≤ fuel by simp [hds] at hfuel; omega)
    have hvalue : integerOrFloat false n.natAbs = .int n := by
      simp only [integerOrFloat, Bool.not_false, if_true]
      congr 1
      omega
    have hread := hdigits false
    rw [hds, List.cons_append] at hread ⊢
    rw [readValue_of_isDigit _ hdigit, hread, hvalue, ok_bind]

theorem length_le_length_flatMap_escapeChar (cs : List Char) :
    cs.length ≤ (cs.flatMap escapeChar).length := by
  induction cs with
  | nil => simp
  | cons c cs ih =>
    have hc : 1 ≤ (escapeChar c).length := by
      rcases escapeChar_cases c with ⟨h, -⟩ | ⟨_, h, -⟩ <;> simp [h]
    rw [List.flatMap_cons, List.length_append, List.length_cons]
    omega

theorem readsBack_str (s : String) : ReadsBack depth (.str s) := by
  intro fuel rest hfuel _
  change 2 * (stringChars s).length ≤ fuel at hfuel
  have hlength := length_le_length_flatMap_escapeChar s.toList
  simp only [stringChars, List.cons_append, List.length_cons, List.length_append,
    List.length_nil] at hfuel
  obtain ⟨fuel, rfl⟩ := Nat.exists_eq_add_of_le' (show 1 ≤ fuel by omega)
  change readValue .characters (fuel + 1) depth (stringChars s ++ rest) = _
  rw [stringChars, List.cons_append, List.cons_append, List.append_assoc, readValue,
    skipSpace_of_not_blank _ (by decide)]
  simp only [List.singleton_append, readString_escaped (show s.toList.length < fuel by omega),
    ok_bind]

/-! ## Arrays -/

/-- The items of an array are read back, up to the closing bracket. -/
theorem readItems_chars (fuel : Nat) (rest : List Char) {x : Json} {xs : List Json}
    (hreads : ∀ y ∈ x :: xs, y.ReadsBack depth)
    (hbegins : ∀ y ∈ xs, BeginsValue y.chars)
    (hfuel : 2 * (x.chars ++ itemChars xs).length + 1 ≤ fuel) :
    readItems .characters fuel depth (x.chars ++ (itemChars xs ++ ']' :: rest)) =
      .ok (x :: xs, rest) := by
  induction xs generalizing x fuel with
  | nil =>
    obtain ⟨fuel, rfl⟩ := Nat.exists_eq_add_of_le' (Nat.le_trans (Nat.le_add_left _ _) hfuel)
    have hends : EndsNumber (']' :: rest) := endsNumber_mark _ (by decide)
    simp only [itemChars, List.append_nil, List.nil_append] at hfuel ⊢
    rw [readItems, hreads x (List.mem_cons_self ..) (by omega) hends]
    simp (disch := decide) only [ok_bind, skipSpace_of_not_blank]
  | cons y ys ih =>
    obtain ⟨fuel, rfl⟩ := Nat.exists_eq_add_of_le' (Nat.le_trans (Nat.le_add_left _ _) hfuel)
    simp only [itemChars, List.cons_append, List.append_assoc, List.length_append,
      List.length_cons] at hfuel ⊢
    have hends : EndsNumber (',' :: (y.chars ++ (itemChars ys ++ ']' :: rest))) :=
      endsNumber_mark _ (by decide)
    have hrec := ih fuel (x := y) (fun z hz => hreads z (List.mem_cons_of_mem _ hz))
      (fun z hz => hbegins z (List.mem_cons_of_mem _ hz)) (by rw [List.length_append]; omega)
    rw [readItems, hreads x (List.mem_cons_self ..) (by omega) hends]
    simp (disch := decide) only [ok_bind, skipSpace_of_not_blank]
    -- What comes after the comma is the next item and not the end of the array.
    obtain ⟨c, cs, hy, hblank, hbracket⟩ := hbegins y (List.mem_cons_self ..)
    rw [hy, List.cons_append] at hrec ⊢
    rw [skipSpace_of_not_blank _ hblank]
    split
    · next heq => exact absurd (List.cons.inj heq).1 hbracket
    · rw [hrec, ok_bind]

theorem readsBack_arr {xs : List Json} (hreads : ∀ x ∈ xs, x.ReadsBack depth)
    (hbegins : ∀ x ∈ xs, BeginsValue x.chars) (hdepth : 0 < depth) :
    ReadsBack (depth + 1) (.arr xs) := by
  intro fuel rest hfuel _
  have hdeep : ¬ depth + 1 ≤ 1 := by omega
  cases xs with
  | nil =>
    obtain ⟨fuel, rfl⟩ := Nat.exists_eq_add_of_le' (Nat.le_trans (by decide : 1 ≤ 2 * 2) hfuel)
    simp only [chars, List.cons_append, List.nil_append]
    rw [readValue, skipSpace_of_not_blank _ (by decide)]
    simp (disch := decide) only [if_neg hdeep, skipSpace_of_not_blank]
  | cons x xs =>
    simp only [chars, List.cons_append, List.append_assoc, List.nil_append, List.length_cons,
      List.length_append, List.length_nil] at hfuel ⊢
    obtain ⟨fuel, rfl⟩ := Nat.exists_eq_add_of_le' (show 1 ≤ fuel by omega)
    have hitems := readItems_chars fuel rest hreads
      (fun y hy => hbegins y (List.mem_cons_of_mem _ hy)) (by rw [List.length_append]; omega)
    rw [readValue, skipSpace_of_not_blank _ (by decide)]
    simp only [if_neg hdeep]
    obtain ⟨c, cs, hx, hblank, hbracket⟩ := hbegins x (List.mem_cons_self ..)
    rw [hx, List.cons_append] at hitems ⊢
    rw [skipSpace_of_not_blank _ hblank]
    split
    · next heq => cases heq
    · next heq => exact absurd (List.cons.inj heq).1 hbracket
    · rw [Nat.add_sub_cancel, hitems, ok_bind]

/-! ## Objects -/

/-- The members of an object are read back, from after the quote that opens the first name up to the
closing brace. -/
theorem readMembers_chars (fuel : Nat) (rest : List Char) {k : String} {v : Json} {ms : Members}
    (hreads : ∀ m ∈ (k, v) :: ms, m.2.ReadsBack depth)
    (hfuel : 2 * (stringChars k ++ v.chars ++ memberChars ms).length ≤ fuel) :
    readMembers .characters fuel depth (k.toList.flatMap escapeChar ++
        '"' :: ':' :: (v.chars ++ (memberChars ms ++ '}' :: rest))) =
      .ok ((k, v) :: ms, rest) := by
  have hlength (k : String) := length_le_length_flatMap_escapeChar k.toList
  induction ms generalizing k v fuel with
  | nil =>
    simp only [memberChars, stringChars, List.cons_append, List.length_cons, List.length_append,
      List.length_nil, List.nil_append] at hfuel ⊢
    obtain ⟨fuel, rfl⟩ := Nat.exists_eq_add_of_le' (show 1 ≤ fuel by omega)
    have hends : EndsNumber ('}' :: rest) := endsNumber_mark _ (by decide)
    rw [readMembers, readString_escaped (by have := hlength k; omega)]
    simp (disch := decide) only [ok_bind, skipSpace_of_not_blank]
    rw [hreads (k, v) (List.mem_cons_self ..) (by simp only; omega) hends]
    simp (disch := decide) only [ok_bind, skipSpace_of_not_blank]
  | cons m ms ih =>
    obtain ⟨j, u⟩ := m
    obtain ⟨fuel, rfl⟩ := Nat.exists_eq_add_of_le'
      (show 1 ≤ fuel by simp [stringChars] at hfuel; omega)
    have hrec := ih fuel (k := j) (v := u) fun m hm => hreads m (List.mem_cons_of_mem _ hm)
    simp only [memberChars, stringChars, List.cons_append, List.append_assoc, List.length_cons,
      List.length_append, List.nil_append] at hfuel hrec ⊢
    have hends (cs : List Char) : EndsNumber (',' :: cs) := endsNumber_mark _ (by decide)
    rw [readMembers, readString_escaped (by have := hlength k; omega)]
    simp (disch := decide) only [ok_bind, skipSpace_of_not_blank]
    rw [hreads (k, v) (List.mem_cons_self ..) (by simp only; omega) (hends _)]
    simp (disch := decide) only [ok_bind, skipSpace_of_not_blank]
    rw [hrec (by omega), ok_bind]

theorem readsBack_obj {ms : Members} (hascending : Table.Ascending ms)
    (hreads : ∀ m ∈ ms, m.2.ReadsBack depth) (hdepth : 0 < depth) :
    ReadsBack (depth + 1) (.obj ms) := by
  intro fuel rest hfuel _
  have hdeep : ¬ depth + 1 ≤ 1 := by omega
  rcases ms with _ | ⟨⟨k, v⟩, ms⟩
  · obtain ⟨fuel, rfl⟩ := Nat.exists_eq_add_of_le' (Nat.le_trans (by decide : 1 ≤ 2 * 2) hfuel)
    simp only [chars, List.cons_append, List.nil_append]
    rw [readValue, skipSpace_of_not_blank _ (by decide)]
    simp (disch := decide) only [if_neg hdeep, skipSpace_of_not_blank]
  · obtain ⟨fuel, rfl⟩ := Nat.exists_eq_add_of_le' (show 1 ≤ fuel by simp [chars] at hfuel; omega)
    have hmembers := readMembers_chars fuel rest hreads (by
      simp only [chars, List.cons_append, List.length_cons, List.length_append] at hfuel ⊢
      omega)
    simp only [chars, stringChars, List.cons_append, List.append_assoc, List.nil_append]
    rw [readValue, skipSpace_of_not_blank _ (by decide)]
    simp (disch := decide) only [if_neg hdeep, skipSpace_of_not_blank]
    rw [Nat.add_sub_cancel, hmembers, ok_bind]
    simp only [object, Table.ofList_of_ascending hascending]

end

/-! ## All values -/

/-- A value is read back wherever its arrays and objects may still be opened. -/
theorem Integral.readsBack {depth limit : Nat} {v : Json} (h : v.Integral depth)
    (hlimit : depth < limit) : v.ReadsBack limit := by
  induction h generalizing limit with
  | null => exact readsBack_null
  | bool b => exact readsBack_bool b
  | int hlow hhigh => exact readsBack_int hlow hhigh
  | str s => exact readsBack_str s
  | arr hxs ih =>
    obtain ⟨limit, rfl⟩ := Nat.exists_eq_add_of_le' (Nat.zero_lt_of_lt hlimit)
    have hlt := Nat.lt_of_succ_lt_succ hlimit
    exact readsBack_arr (fun x hx => ih x hx hlt) (fun x hx => (hxs x hx).beginsValue)
      (Nat.zero_lt_of_lt hlt)
  | obj hascending hms ih =>
    obtain ⟨limit, rfl⟩ := Nat.exists_eq_add_of_le' (Nat.zero_lt_of_lt hlimit)
    have hlt := Nat.lt_of_succ_lt_succ hlimit
    exact readsBack_obj hascending (fun m hm => ih m hm hlt) (Nat.zero_lt_of_lt hlt)

/-- **A value is read back from its text**, if its numbers are integers of 64 bits and it does not
nest deeper than a text may. -/
theorem parse_render {v : Json} (h : v.Integral 127) : parse v.render.toList = .ok v := by
  have hread := h.readsBack (show 127 < depthLimit by decide)
    (Nat.le_succ (2 * v.chars.length)) endsNumber_nil
  rw [List.append_nil] at hread
  rw [render, String.toList_ofList, parse, parseFrom, hread]
  rfl

/-- The text of a value is not blank. -/
theorem Integral.trim_render_ne_nil {depth : Nat} {v : Json} (h : v.Integral depth) :
    Text.trim v.render.toList ≠ [] := by
  obtain ⟨c, cs, hv, hblank, -⟩ := h.beginsValue
  rw [render, String.toList_ofList, hv, Ne, Text.trim_eq_nil_iff]
  exact fun hall => Bool.noConfusion (hblank.symm.trans (hall c (List.mem_cons_self ..)))

end Dialogue.Json
