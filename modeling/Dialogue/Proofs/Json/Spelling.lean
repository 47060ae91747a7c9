import Dialogue.Proofs.Json.Numbers
import Dialogue.Proofs.Json.Strings
import Mathlib.Data.List.DropRight

/-!
# Which texts spell values

`Spells` is the grammar of JSON together with the value of each text, and with a bound on how many
arrays and objects stand inside one another. It lacks two kinds of texts that the grammar `IsText`
has: a number that is too large, and an escape of half a surrogate pair, spell nothing.

Main statements: `parse_eq_ok_iff`, a text is read as a value exactly if it spells the value, and
`Spells.isText`. One direction of the former is an induction over the fuel of the readers, the other
one over `Spells`.
-/

namespace Dialogue.Json

/-! ## Spelling -/

/-- The text of a name, with blanks before and after it. -/
def SpellsName (cs : List Char) (name : String) : Prop :=
  ∃ before content after, (∀ c ∈ before, isSpace c = true) ∧ SpellsChars content name.toList ∧
    (∀ c ∈ after, isSpace c = true) ∧ cs = before ++ '"' :: (content ++ '"' :: after)

/-- A member of an object, and the texts of its name and its value. -/
structure WrittenMember where
  label : List Char
  name : String
  text : List Char
  value : Json

/-- The text of a member. -/
def WrittenMember.chars (m : WrittenMember) : List Char :=
  m.label ++ ':' :: m.text

/-- The member without its texts. -/
def WrittenMember.member (m : WrittenMember) : String × Json :=
  (m.name, m.value)

/-- The text of a value, with blanks before and after it, in which at most `depth` arrays and
objects stand inside one another. -/
inductive Spells : (depth : Nat) → List Char → Json → Prop where
  | blank {depth : Nat} {before cs after : List Char} {v : Json} :
      (∀ c ∈ before, isSpace c = true) → Spells depth cs v → (∀ c ∈ after, isSpace c = true) →
      Spells depth (before ++ (cs ++ after)) v
  | null {depth : Nat} : Spells depth "null".toList .null
  | bool {depth : Nat} (b : Bool) : Spells depth (toString b).toList (.bool b)
  | number {depth : Nat} {cs : List Char} {n : Number} : SpellsNumber cs n →
      Spells depth cs (.num n)
  | string {depth : Nat} {cs : List Char} {s : String} : SpellsChars cs s.toList →
      Spells depth ('"' :: (cs ++ ['"'])) (.str s)
  | emptyList {depth : Nat} {ws : List Char} : (∀ c ∈ ws, isSpace c = true) →
      Spells (depth + 1) ('[' :: (ws ++ [']'])) (.arr [])
  | list {depth : Nat} {items : List (List Char × Json)} : items ≠ [] →
      (∀ item ∈ items, Spells depth item.1 item.2) →
      Spells (depth + 1) ('[' :: ([','].intercalate (items.map (·.1)) ++ [']']))
        (.arr (items.map (·.2)))
  | emptyObject {depth : Nat} {ws : List Char} : (∀ c ∈ ws, isSpace c = true) →
      Spells (depth + 1) ('{' :: (ws ++ ['}'])) (.obj [])
  | object {depth : Nat} {members : List WrittenMember} : members ≠ [] →
      (∀ m ∈ members, SpellsName m.label m.name) → (∀ m ∈ members, Spells depth m.text m.value) →
      Spells (depth + 1) ('{' :: ([','].intercalate (members.map WrittenMember.chars) ++ ['}']))
        (object (members.map WrittenMember.member))

variable {fuel depth : Nat} {cs cs' rest : List Char} {v : Json}

/-! ## Blanks and literals -/

theorem skipSpace_append {ws : List Char} (hws : ∀ c ∈ ws, isSpace c = true) (cs : List Char) :
    skipSpace (ws ++ cs) = skipSpace cs :=
  List.dropWhile_append_of_pos hws

/-- Every text begins with blanks, perhaps with none. -/
theorem exists_blanks (cs : List Char) :
    ∃ ws, (∀ c ∈ ws, isSpace c = true) ∧ cs = ws ++ skipSpace cs :=
  ⟨cs.takeWhile isSpace, fun c hc => List.all_eq_true.mp List.all_takeWhile c hc,
    List.takeWhile_append_dropWhile.symm⟩

/-- What stands after the blanks that a text begins with. -/
theorem exists_blanks_of_skipSpace (h : skipSpace cs = cs') :
    ∃ ws, (∀ c ∈ ws, isSpace c = true) ∧ cs = ws ++ cs' :=
  h ▸ exists_blanks cs

theorem readValue_congr {src : Source} (h : skipSpace cs = skipSpace cs') :
    readValue src fuel depth cs = readValue src fuel depth cs' := by
  cases fuel with
  | zero => rfl
  | succ fuel => rw [readValue, readValue, h]

theorem readItems_congr {src : Source} (h : skipSpace cs = skipSpace cs') :
    readItems src fuel depth cs = readItems src fuel depth cs' := by
  cases fuel with
  | zero => rfl
  | succ fuel => rw [readItems, readItems, readValue_congr h]

@[simp]
theorem skipSpace_skipSpace (cs : List Char) : skipSpace (skipSpace cs) = skipSpace cs :=
  List.dropWhile_idempotent ..

theorem readLiteral_sound {expected : List Char} (h : readLiteral expected cs = .ok rest) :
    cs = expected ++ rest := by
  induction expected generalizing cs with
  | nil => exact Except.ok.inj h
  | cons e es ih =>
    rcases cs with _ | ⟨c, cs⟩
    · cases h
    · rw [readLiteral] at h
      split at h
      · next hc => rw [hc, ih h, List.cons_append]
      · cases h

/-- Blanks may stand before what spells a value. -/
theorem Spells.indent {ws : List Char} (hws : ∀ c ∈ ws, isSpace c = true) (h : Spells depth cs v) :
    Spells depth (ws ++ cs) v := by
  have hspells := h.blank hws (List.forall_mem_nil _)
  rwa [List.append_nil] at hspells

/-- Blanks may stand after what spells a value. -/
theorem Spells.trail {ws : List Char} (h : Spells depth cs v) (hws : ∀ c ∈ ws, isSpace c = true) :
    Spells depth (cs ++ ws) v :=
  h.blank (List.forall_mem_nil _) hws

/-! ## What was read -/

/-- What the readers of values, of items and of members take off the front of a text spells what
they give, as far as this fuel goes. Members are read from after a quote, so that they begin at some
blanks and a quote before. -/
structure ValuesSpelled (fuel : Nat) : Prop where
  value {depth : Nat} {cs rest : List Char} {v : Json} :
    readValue .characters fuel depth cs = .ok (v, rest) →
      ∃ front, Spells (depth - 1) front v ∧ cs = front ++ rest
  items {depth : Nat} {cs rest : List Char} {xs : List Json} :
    readItems .characters fuel depth cs = .ok (xs, rest) →
      ∃ items : List (List Char × Json), items ≠ [] ∧
        (∀ item ∈ items, Spells (depth - 1) item.1 item.2) ∧ xs = items.map (·.2) ∧
        cs = [','].intercalate (items.map (·.1)) ++ ']' :: rest
  members {depth : Nat} {cs cs' rest : List Char} {ms : Members} : skipSpace cs = '"' :: cs' →
    readMembers .characters fuel depth cs' = .ok (ms, rest) →
      ∃ members : List WrittenMember, members ≠ [] ∧
        (∀ m ∈ members, SpellsName m.label m.name) ∧
        (∀ m ∈ members, Spells (depth - 1) m.text m.value) ∧
        ms = members.map WrittenMember.member ∧
        cs = [','].intercalate (members.map WrittenMember.chars) ++ '}' :: rest

theorem ValuesSpelled.value_succ (ih : ValuesSpelled fuel)
    (h : readValue .characters (fuel + 1) depth cs = .ok (v, rest)) :
    ∃ front, Spells (depth - 1) front v ∧ cs = front ++ rest := by
  -- Blanks in front belong to the text of the value.
  obtain ⟨ws, hws, hcs⟩ := exists_blanks cs
  suffices ∃ front, Spells (depth - 1) front v ∧ skipSpace cs = front ++ rest by
    obtain ⟨front, hfront, hskip⟩ := this
    exact ⟨ws ++ front, hfront.indent hws, by rw [List.append_assoc, ← hskip, ← hcs]⟩
  clear hcs
  rw [readValue] at h
  split at h
  · cases h
  · next heq =>
    obtain ⟨rest', hread, ⟨⟩⟩ := bind_eq_ok_iff.mp h
    exact ⟨_, .null, heq.trans (by rw [readLiteral_sound hread]; rfl)⟩
  · next heq =>
    obtain ⟨rest', hread, ⟨⟩⟩ := bind_eq_ok_iff.mp h
    exact ⟨_, .bool true, heq.trans (by rw [readLiteral_sound hread]; rfl)⟩
  · next heq =>
    obtain ⟨rest', hread, ⟨⟩⟩ := bind_eq_ok_iff.mp h
    exact ⟨_, .bool false, heq.trans (by rw [readLiteral_sound hread]; rfl)⟩
  · next heq =>
    obtain ⟨⟨s, rest'⟩, hread, ⟨⟩⟩ := bind_eq_ok_iff.mp h
    obtain ⟨content, hcontent, rfl⟩ := readString_sound hread
    exact ⟨_, .string hcontent, heq.trans (by simp)⟩
  · next cs' heq =>
    obtain ⟨⟨n, rest'⟩, hread, ⟨⟩⟩ := bind_eq_ok_iff.mp h
    obtain ⟨front, hfront, hcs⟩ := readSigned_sound (show readSigned ('-' :: cs') = _ from hread)
    exact ⟨_, .number hfront, heq.trans hcs⟩
  · next cs' heq =>
    split at h
    · cases h
    next hdepth =>
    obtain ⟨depth, rfl⟩ := Nat.exists_eq_add_of_le' (Nat.lt_of_not_le hdepth)
    split at h
    · cases h
    · next hclose =>
      cases h
      obtain ⟨ws', hws', rfl⟩ := exists_blanks_of_skipSpace hclose
      exact ⟨_, .emptyList hws', heq.trans (by simp)⟩
    · obtain ⟨⟨xs, rest'⟩, hread, ⟨⟩⟩ := bind_eq_ok_iff.mp h
      rw [readItems_congr (skipSpace_skipSpace cs')] at hread
      obtain ⟨items, hne, hitems, rfl, rfl⟩ := ih.items hread
      exact ⟨_, .list hne hitems, heq.trans (by simp)⟩
  · next cs' heq =>
    split at h
    · cases h
    next hdepth =>
    obtain ⟨depth, rfl⟩ := Nat.exists_eq_add_of_le' (Nat.lt_of_not_le hdepth)
    split at h
    · cases h
    · next hclose =>
      cases h
      obtain ⟨ws', hws', rfl⟩ := exists_blanks_of_skipSpace hclose
      exact ⟨_, .emptyObject hws', heq.trans (by simp)⟩
    · next hquote =>
      obtain ⟨⟨ms, rest'⟩, hread, ⟨⟩⟩ := bind_eq_ok_iff.mp h
      obtain ⟨members, hne, hnames, hvalues, rfl, rfl⟩ := ih.members hquote hread
      exact ⟨_, .object hne hnames hvalues, heq.trans (by simp)⟩
    · cases h
  · next c cs' _ _ _ _ hsign _ _ heq =>
    split at h
    · obtain ⟨⟨n, rest'⟩, hread, ⟨⟩⟩ := bind_eq_ok_iff.mp h
      have hne : (c :: cs').head? ≠ some '-' := fun hhead => hsign (Option.some.inj hhead)
      obtain ⟨front, hfront, hcs⟩ := readSigned_sound ((readSigned_of_ne hne).trans hread)
      exact ⟨_, .number hfront, heq.trans hcs⟩
    · cases h

theorem ValuesSpelled.items_succ (ih : ValuesSpelled fuel) {xs : List Json}
    (h : readItems .characters (fuel + 1) depth cs = .ok (xs, rest)) :
    ∃ items : List (List Char × Json), items ≠ [] ∧
      (∀ item ∈ items, Spells (depth - 1) item.1 item.2) ∧ xs = items.map (·.2) ∧
      cs = [','].intercalate (items.map (·.1)) ++ ']' :: rest := by
  rw [readItems] at h
  obtain ⟨⟨x, rest₁⟩, hread, hmore⟩ := bind_eq_ok_iff.mp h
  obtain ⟨front, hfront, rfl⟩ := ih.value hread
  dsimp only at hmore
  split at hmore
  · cases hmore
  · next hclose =>
    cases hmore
    obtain ⟨ws, hws, rfl⟩ := exists_blanks_of_skipSpace hclose
    exact ⟨[(front ++ ws, x)], List.cons_ne_nil _ _,
      List.forall_mem_singleton.mpr (hfront.trail hws), rfl, by simp⟩
  · next rest₂ hcomma =>
    obtain ⟨ws, hws, rfl⟩ := exists_blanks_of_skipSpace hcomma
    split at hmore
    · cases hmore
    obtain ⟨⟨xs, rest'⟩, hread, ⟨⟩⟩ := bind_eq_ok_iff.mp hmore
    rw [readItems_congr (skipSpace_skipSpace rest₂)] at hread
    obtain ⟨items, hne, hitems, rfl, rfl⟩ := ih.items hread
    refine ⟨(front ++ ws, x) :: items, List.cons_ne_nil _ _,
      List.forall_mem_cons.mpr ⟨hfront.trail hws, hitems⟩, rfl, ?_⟩
    rw [List.map_cons, List.intercalate_cons_of_ne_nil (by simpa using hne)]
    simp
  · cases hmore

theorem ValuesSpelled.members_succ (ih : ValuesSpelled fuel) {ms : Members}
    (hquote : skipSpace cs = '"' :: cs')
    (h : readMembers .characters (fuel + 1) depth cs' = .ok (ms, rest)) :
    ∃ members : List WrittenMember, members ≠ [] ∧
      (∀ m ∈ members, SpellsName m.label m.name) ∧
      (∀ m ∈ members, Spells (depth - 1) m.text m.value) ∧
      ms = members.map WrittenMember.member ∧
      cs = [','].intercalate (members.map WrittenMember.chars) ++ '}' :: rest := by
  obtain ⟨before, hbefore, rfl⟩ := exists_blanks_of_skipSpace hquote
  rw [readMembers] at h
  obtain ⟨⟨k, rest₁⟩, hread, hmore⟩ := bind_eq_ok_iff.mp h
  obtain ⟨content, hcontent, rfl⟩ := readString_sound hread
  dsimp only at hmore
  split at hmore
  · cases hmore
  · next rest₂ hcolon =>
    obtain ⟨after, hafter, rfl⟩ := exists_blanks_of_skipSpace hcolon
    have hname : SpellsName (before ++ '"' :: (content ++ '"' :: after)) k :=
      ⟨before, content, after, hbefore, hcontent, hafter, rfl⟩
    obtain ⟨⟨v, rest₃⟩, hread, hvalue⟩ := bind_eq_ok_iff.mp hmore
    obtain ⟨front, hfront, rfl⟩ := ih.value hread
    dsimp only at hvalue
    split at hvalue
    · cases hvalue
    · next hclose =>
      cases hvalue
      obtain ⟨ws, hws, rfl⟩ := exists_blanks_of_skipSpace hclose
      exact ⟨[⟨_, k, front ++ ws, v⟩], List.cons_ne_nil _ _, List.forall_mem_singleton.mpr hname,
        List.forall_mem_singleton.mpr (hfront.trail hws), rfl, by simp [WrittenMember.chars]⟩
    · next rest₄ hcomma =>
      obtain ⟨ws, hws, rfl⟩ := exists_blanks_of_skipSpace hcomma
      split at hvalue
      · cases hvalue
      · next hquote' =>
        obtain ⟨⟨ms, rest'⟩, hread, ⟨⟩⟩ := bind_eq_ok_iff.mp hvalue
        obtain ⟨members, hne, hnames, hvalues, rfl, rfl⟩ := ih.members hquote' hread
        refine ⟨⟨_, k, front ++ ws, v⟩ :: members, List.cons_ne_nil _ _,
          List.forall_mem_cons.mpr ⟨hname, hnames⟩,
          List.forall_mem_cons.mpr ⟨hfront.trail hws, hvalues⟩, rfl, ?_⟩
        rw [List.map_cons, List.intercalate_cons_of_ne_nil (by simpa using hne)]
        simp [WrittenMember.chars]
      · cases hvalue
      · cases hvalue
    · cases hvalue
  · cases hmore

/-- The text is read as the value where it stands in front of other text, with fuel for two steps on
each of its characters. Blanks at its end may be left. -/
def ReadAs (depth : Nat) (cs : List Char) (v : Json) : Prop :=
  ∀ ⦃fuel : Nat⦄ ⦃rest : List Char⦄, 2 * cs.length ≤ fuel → EndsNumber rest →
    ∃ rest', readValue .characters fuel depth (cs ++ rest) = .ok (v, rest') ∧
      skipSpace rest' = skipSpace rest

theorem EndsNumber.indent {ws : List Char} (hws : ∀ c ∈ ws, isSpace c = true)
    (h : EndsNumber rest) : EndsNumber (ws ++ rest) := by
  rcases ws with _ | ⟨c, ws⟩
  · exact h
  · have hc := hws c (List.mem_cons_self ..)
    simp only [isSpace, Bool.or_eq_true, beq_iff_eq] at hc
    rcases hc with ((rfl | rfl) | rfl) | rfl <;>
      exact endsNumber_cons _ (by decide) (by decide) (by decide) (by decide)

theorem ReadAs.blank {before after : List Char} (hbefore : ∀ c ∈ before, isSpace c = true)
    (h : ReadAs depth cs v) (hafter : ∀ c ∈ after, isSpace c = true) :
    ReadAs depth (before ++ (cs ++ after)) v := by
  intro fuel rest hfuel hrest
  rw [List.length_append, List.length_append] at hfuel
  obtain ⟨rest', hread, hskip⟩ := h (show 2 * cs.length ≤ fuel by omega) (hrest.indent hafter)
  refine ⟨rest', ?_, hskip.trans (skipSpace_append hafter rest)⟩
  rw [List.append_assoc, List.append_assoc, ← hread]
  exact readValue_congr (skipSpace_append hbefore _)

theorem readAs_null : ReadAs depth "null".toList .null := by
  intro fuel rest hfuel _
  obtain ⟨fuel, rfl⟩ := Nat.exists_eq_add_of_le' (Nat.le_trans (by decide : 1 ≤ 2 * 4) hfuel)
  exact ⟨rest, rfl, rfl⟩

theorem readAs_bool (b : Bool) : ReadAs depth (toString b).toList (.bool b) := by
  intro fuel rest hfuel _
  cases b with
  | false =>
    obtain ⟨fuel, rfl⟩ := Nat.exists_eq_add_of_le' (Nat.le_trans (by decide : 1 ≤ 2 * 5) hfuel)
    exact ⟨rest, rfl, rfl⟩
  | true =>
    obtain ⟨fuel, rfl⟩ := Nat.exists_eq_add_of_le' (Nat.le_trans (by decide : 1 ≤ 2 * 4) hfuel)
    exact ⟨rest, rfl, rfl⟩

theorem readAs_number {n : Number} (h : SpellsNumber cs n) : ReadAs depth cs (.num n) := by
  intro fuel rest hfuel hrest
  have hread := h.readSigned_append hrest
  refine ⟨rest, ?_, rfl⟩
  obtain ⟨_, unsigned, rfl | rfl, hunsigned, rfl⟩ := h.1.exists_unsigned
  · obtain ⟨d, ds, rfl, hd⟩ := hunsigned.exists_digit
    obtain ⟨fuel, rfl⟩ := Nat.exists_eq_add_of_le' (show 1 ≤ fuel by simp at hfuel; omega)
    rw [hunsigned.readSigned_append] at hread
    rw [List.cons_append, readValue_of_isDigit _ hd, ← List.cons_append, hread, ok_bind]
  · obtain ⟨fuel, rfl⟩ := Nat.exists_eq_add_of_le' (show 1 ≤ fuel by simp at hfuel; omega)
    change readNumber true (unsigned ++ rest) = _ at hread
    rw [List.append_assoc, List.singleton_append, readValue, skipSpace_of_not_blank _ (by decide)]
    simp only [hread, ok_bind]

theorem readAs_string {s : String} (h : SpellsChars cs s.toList) :
    ReadAs depth ('"' :: (cs ++ ['"'])) (.str s) := by
  intro fuel rest hfuel _
  simp only [List.length_cons, List.length_append, List.length_nil] at hfuel
  obtain ⟨fuel, rfl⟩ := Nat.exists_eq_add_of_le' (show 1 ≤ fuel by omega)
  refine ⟨rest, ?_, rfl⟩
  rw [List.cons_append, List.append_assoc, readValue, skipSpace_of_not_blank _ (by decide)]
  simp only [List.singleton_append, h.readString (show cs.length < fuel by omega), ok_bind]

/-! ### Arrays -/

/-- After blanks, what is read as a value begins as a value does. -/
theorem beginsValue_of_readValue {src : Source} {p : Json × List Char}
    (h : readValue src fuel depth cs = .ok p) : BeginsValue (skipSpace cs) := by
  cases fuel with
  | zero => cases h
  | succ fuel =>
    rw [readValue] at h
    split at h
    · cases h
    iterate 7 next heq => exact ⟨_, _, heq, by decide, by decide⟩
    · next c cs' _ _ _ _ _ _ _ heq =>
      by_cases hdigit : isDigit c = true
      · refine ⟨c, cs', heq, not_blank_of_isDigit hdigit, ?_⟩
        rintro rfl
        exact absurd hdigit (by decide)
      · rw [if_neg hdigit] at h
        cases h

theorem beginsValue_of_readItems {src : Source} {p : List Json × List Char}
    (h : readItems src fuel depth cs = .ok p) : BeginsValue (skipSpace cs) := by
  cases fuel with
  | zero => cases h
  | succ fuel =>
    rw [readItems] at h
    obtain ⟨_, hread, -⟩ := bind_eq_ok_iff.mp h
    exact beginsValue_of_readValue hread

/-- Items that are each read as their values are read one after another. -/
theorem readItems_of_readAs {items : List (List Char × Json)} (hne : items ≠ [])
    (hreads : ∀ item ∈ items, ReadAs depth item.1 item.2)
    (hfuel : 2 * ([','].intercalate (items.map (·.1))).length + 1 ≤ fuel) (rest : List Char) :
    readItems .characters fuel depth ([','].intercalate (items.map (·.1)) ++ ']' :: rest) =
      .ok (items.map (·.2), rest) := by
  induction items generalizing fuel with
  | nil => exact absurd rfl hne
  | cons item items ih =>
    obtain ⟨hitem, hitems⟩ := List.forall_mem_cons.mp hreads
    obtain ⟨fuel, rfl⟩ := Nat.exists_eq_add_of_le' (Nat.le_trans (Nat.le_add_left _ _) hfuel)
    rcases items with _ | ⟨next, items⟩
    · simp only [List.map_cons, List.map_nil, List.intercalate_singleton] at hfuel ⊢
      obtain ⟨rest', hread, hskip⟩ := hitem (show 2 * item.1.length ≤ fuel by omega)
        (endsNumber_mark rest (c := ']') (by decide))
      rw [readItems, hread]
      simp (disch := decide) only [ok_bind, hskip, skipSpace_of_not_blank]
    · rw [List.map_cons, List.intercalate_cons_of_ne_nil (by simp)] at hfuel ⊢
      simp only [List.length_append, List.length_cons, List.length_nil] at hfuel
      have hmore := ih (List.cons_ne_nil _ _) hitems (show _ ≤ fuel by omega)
      obtain ⟨c, t, hbegins, -, hc⟩ := beginsValue_of_readItems hmore
      rw [← readItems_congr (skipSpace_skipSpace _), hbegins] at hmore
      rw [List.append_assoc, List.append_assoc, List.singleton_append]
      obtain ⟨rest', hread, hskip⟩ := hitem (show 2 * item.1.length ≤ fuel by omega)
        (endsNumber_mark ([','].intercalate ((next :: items).map (·.1)) ++ ']' :: rest) (c := ',')
          (by decide))
      rw [readItems, hread]
      simp (disch := decide) only [ok_bind, hskip, skipSpace_of_not_blank, hbegins]
      split
      · next heq => exact absurd (List.cons.inj heq).1 hc
      · rw [hmore]
        rfl

theorem readAs_emptyList {ws : List Char} (hws : ∀ c ∈ ws, isSpace c = true) (hdepth : 0 < depth) :
    ReadAs (depth + 1) ('[' :: (ws ++ [']'])) (.arr []) := by
  intro fuel rest hfuel _
  have hdeep : ¬ depth + 1 ≤ 1 := by omega
  obtain ⟨fuel, rfl⟩ := Nat.exists_eq_add_of_le' (show 1 ≤ fuel by simp at hfuel; omega)
  refine ⟨rest, ?_, rfl⟩
  rw [List.cons_append, List.append_assoc, readValue, skipSpace_of_not_blank _ (by decide)]
  simp (disch := decide) only [if_neg hdeep, skipSpace_append hws, List.singleton_append,
    skipSpace_of_not_blank]

theorem readAs_list {items : List (List Char × Json)} (hne : items ≠ [])
    (hreads : ∀ item ∈ items, ReadAs depth item.1 item.2) (hdepth : 0 < depth) :
    ReadAs (depth + 1) ('[' :: ([','].intercalate (items.map (·.1)) ++ [']']))
      (.arr (items.map (·.2))) := by
  intro fuel rest hfuel _
  have hdeep : ¬ depth + 1 ≤ 1 := by omega
  simp only [List.length_cons, List.length_append, List.length_nil] at hfuel
  obtain ⟨fuel, rfl⟩ := Nat.exists_eq_add_of_le' (show 1 ≤ fuel by omega)
  have hitems := readItems_of_readAs hne hreads (show _ ≤ fuel by omega) rest
  obtain ⟨c, t, hbegins, -, hc⟩ := beginsValue_of_readItems hitems
  rw [← readItems_congr (skipSpace_skipSpace _), hbegins] at hitems
  refine ⟨rest, ?_, rfl⟩
  rw [List.cons_append, List.append_assoc, List.singleton_append, readValue,
    skipSpace_of_not_blank _ (by decide)]
  simp only [if_neg hdeep, hbegins]
  split
  · next heq => cases heq
  · next heq => exact absurd (List.cons.inj heq).1 hc
  · rw [Nat.add_sub_cancel, hitems, ok_bind]

/-! ### Objects -/

/-- The name and the value of a member are read one after the other. -/
theorem exists_of_member {m : WrittenMember} (hname : SpellsName m.label m.name)
    (hread : ReadAs depth m.text m.value) (hfuel : 2 * m.chars.length ≤ fuel)
    (hrest : EndsNumber rest) :
    ∃ cs' rest₁ rest₂ rest₃, skipSpace (m.chars ++ rest) = '"' :: cs' ∧
      readString .characters fuel cs' = .ok (m.name, rest₁) ∧ skipSpace rest₁ = ':' :: rest₂ ∧
      readValue .characters fuel depth rest₂ = .ok (m.value, rest₃) ∧
      skipSpace rest₃ = skipSpace rest := by
  obtain ⟨before, content, after, hbefore, hcontent, hafter, hlabel⟩ := hname
  simp only [WrittenMember.chars, hlabel, List.length_append, List.length_cons] at hfuel
  obtain ⟨rest₃, hvalue, hskip⟩ := hread (show 2 * m.text.length ≤ fuel by omega) hrest
  have hstring := hcontent.readString (show content.length < fuel by omega)
    (after ++ ':' :: (m.text ++ rest))
  refine ⟨_, _, _, rest₃, ?_, hstring, ?_, hvalue, hskip⟩
  · rw [WrittenMember.chars, hlabel, List.append_assoc, List.append_assoc,
      skipSpace_append hbefore, List.cons_append, skipSpace_of_not_blank _ (by decide)]
    simp
  · rw [skipSpace_append hafter, skipSpace_of_not_blank _ (by decide)]

/-- Members whose values are each read are read one after another. -/
theorem readMembers_of_readAs {members : List WrittenMember} (hne : members ≠ [])
    (hnames : ∀ m ∈ members, SpellsName m.label m.name)
    (hreads : ∀ m ∈ members, ReadAs depth m.text m.value)
    (hfuel : 2 * ([','].intercalate (members.map WrittenMember.chars)).length + 1 ≤ fuel)
    (rest : List Char) :
    ∃ cs', skipSpace ([','].intercalate (members.map WrittenMember.chars) ++ '}' :: rest) =
        '"' :: cs' ∧
      readMembers .characters fuel depth cs' =
        .ok (members.map WrittenMember.member, rest) := by
  induction members generalizing fuel with
  | nil => exact absurd rfl hne
  | cons m members ih =>
    obtain ⟨hname, hnames⟩ := List.forall_mem_cons.mp hnames
    obtain ⟨hread, hreads⟩ := List.forall_mem_cons.mp hreads
    obtain ⟨fuel, rfl⟩ := Nat.exists_eq_add_of_le' (Nat.le_trans (Nat.le_add_left _ _) hfuel)
    rcases members with _ | ⟨next, members⟩
    · simp only [List.map_cons, List.map_nil, List.intercalate_singleton] at hfuel ⊢
      obtain ⟨cs', rest₁, rest₂, rest₃, hbegins, hstring, hcolon, hvalue, hskip⟩ :=
        exists_of_member hname hread (show _ ≤ fuel by omega)
          (endsNumber_mark rest (c := '}') (by decide))
      refine ⟨cs', hbegins, ?_⟩
      rw [readMembers, hstring]
      simp (disch := decide) only [ok_bind, hcolon, hvalue, hskip, skipSpace_of_not_blank]
      rfl
    · rw [List.map_cons, List.intercalate_cons_of_ne_nil (by simp)] at hfuel ⊢
      simp only [List.length_append, List.length_cons, List.length_nil] at hfuel
      obtain ⟨more, hmore, hmembers⟩ := ih (List.cons_ne_nil _ _) hnames hreads
        (show _ ≤ fuel by omega)
      rw [List.append_assoc, List.append_assoc, List.singleton_append]
      obtain ⟨cs', rest₁, rest₂, rest₃, hbegins, hstring, hcolon, hvalue, hskip⟩ :=
        exists_of_member hname hread (show _ ≤ fuel by omega)
          (endsNumber_mark ([','].intercalate ((next :: members).map WrittenMember.chars) ++
            '}' :: rest) (c := ',') (by decide))
      refine ⟨cs', hbegins, ?_⟩
      rw [readMembers, hstring]
      simp (disch := decide) only [ok_bind, hcolon, hvalue, hskip, skipSpace_of_not_blank, hmore,
        hmembers]
      rfl

theorem readAs_emptyObject {ws : List Char} (hws : ∀ c ∈ ws, isSpace c = true)
    (hdepth : 0 < depth) : ReadAs (depth + 1) ('{' :: (ws ++ ['}'])) (.obj []) := by
  intro fuel rest hfuel _
  have hdeep : ¬ depth + 1 ≤ 1 := by omega
  obtain ⟨fuel, rfl⟩ := Nat.exists_eq_add_of_le' (show 1 ≤ fuel by simp at hfuel; omega)
  refine ⟨rest, ?_, rfl⟩
  rw [List.cons_append, List.append_assoc, readValue, skipSpace_of_not_blank _ (by decide)]
  simp (disch := decide) only [if_neg hdeep, skipSpace_append hws, List.singleton_append,
    skipSpace_of_not_blank]

theorem readAs_object {members : List WrittenMember} (hne : members ≠ [])
    (hnames : ∀ m ∈ members, SpellsName m.label m.name)
    (hreads : ∀ m ∈ members, ReadAs depth m.text m.value) (hdepth : 0 < depth) :
    ReadAs (depth + 1) ('{' :: ([','].intercalate (members.map WrittenMember.chars) ++ ['}']))
      (object (members.map WrittenMember.member)) := by
  intro fuel rest hfuel _
  have hdeep : ¬ depth + 1 ≤ 1 := by omega
  simp only [List.length_cons, List.length_append, List.length_nil] at hfuel
  obtain ⟨fuel, rfl⟩ := Nat.exists_eq_add_of_le' (show 1 ≤ fuel by omega)
  obtain ⟨cs', hbegins, hmembers⟩ :=
    readMembers_of_readAs hne hnames hreads (show _ ≤ fuel by omega) rest
  refine ⟨rest, ?_, rfl⟩
  rw [List.cons_append, List.append_assoc, List.singleton_append, readValue,
    skipSpace_of_not_blank _ (by decide)]
  simp only [if_neg hdeep, hbegins, Nat.add_sub_cancel, hmembers, ok_bind]

/-! ## Whole texts -/

/-- What spells a value is read as the value wherever its arrays and objects may be opened. -/
theorem Spells.readAs {limit : Nat} (h : Spells depth cs v) (hlimit : depth < limit) :
    ReadAs limit cs v := by
  induction h generalizing limit with
  | blank hbefore _ hafter ih => exact (ih hlimit).blank hbefore hafter
  | null => exact readAs_null
  | bool b => exact readAs_bool b
  | number h => exact readAs_number h
  | string h => exact readAs_string h
  | emptyList hws =>
    obtain ⟨limit, rfl⟩ := Nat.exists_eq_add_of_le' (Nat.zero_lt_of_lt hlimit)
    exact readAs_emptyList hws (Nat.zero_lt_of_lt (Nat.lt_of_succ_lt_succ hlimit))
  | list hne _ ih =>
    obtain ⟨limit, rfl⟩ := Nat.exists_eq_add_of_le' (Nat.zero_lt_of_lt hlimit)
    have hlt := Nat.lt_of_succ_lt_succ hlimit
    exact readAs_list hne (fun item hitem => ih item hitem hlt) (Nat.zero_lt_of_lt hlt)
  | emptyObject hws =>
    obtain ⟨limit, rfl⟩ := Nat.exists_eq_add_of_le' (Nat.zero_lt_of_lt hlimit)
    exact readAs_emptyObject hws (Nat.zero_lt_of_lt (Nat.lt_of_succ_lt_succ hlimit))
  | object hne hnames _ ih =>
    obtain ⟨limit, rfl⟩ := Nat.exists_eq_add_of_le' (Nat.zero_lt_of_lt hlimit)
    have hlt := Nat.lt_of_succ_lt_succ hlimit
    exact readAs_object hne hnames (fun m hm => ih m hm hlt) (Nat.zero_lt_of_lt hlt)

/-- A text that is read as a value in front of other text is the whole text of the value. -/
theorem ReadAs.parse (h : ReadAs depthLimit cs v) : parse cs = .ok v := by
  obtain ⟨rest, hread, hskip⟩ := h (Nat.le_succ (2 * cs.length)) endsNumber_nil
  rw [List.append_nil] at hread
  rw [Json.parse, parseFrom, hread, ok_bind, finish, hskip]
  rfl

theorem WritesHex.hexValue?_ne_none {digits : List Char} {n : Nat} (h : WritesHex digits n) :
    ∀ x ∈ digits, hexValue? x ≠ none := by
  obtain ⟨ha, hb, hc, hd⟩ := h
  simp [ha, hb, hc, hd]

theorem Escapes.isContent {e : List Char} {c : Char} (h : Escapes e c) (hcs : IsContent cs) :
    IsContent ('\\' :: (e ++ cs)) := by
  have hcode {digits cs : List Char} {n : Nat} (hdigits : WritesHex digits n)
      (hcs : IsContent cs) : IsContent ('\\' :: 'u' :: (digits ++ cs)) := by
    have hhex := hdigits.hexValue?_ne_none
    cases hdigits
    exact .code hhex hcs
  cases h with
  | @short letter c hmem =>
    have hletter : ∀ p ∈ shortEscapes, p.1 ∈ "\"\\/bfnrt".toList := by decide
    exact .escape (hletter _ hmem) hcs
  | code hdigits _ => exact hcode hdigits hcs
  | pair hdigits _ _ hdigits' _ _ =>
    rw [List.cons_append, List.append_assoc]
    exact hcode hdigits (hcode hdigits' hcs)

theorem SpellsChars.isContent {ds : List Char} (h : SpellsChars cs ds) : IsContent cs := by
  induction h with
  | nil => exact .nil
  | plain hprintable hquote hslash _ ih => exact .plain hprintable hquote hslash ih
  | escape hescapes _ ih => exact hescapes.isContent ih

/-- What spells a value is JSON text. -/
theorem Spells.isText (h : Spells depth cs v) : IsText cs := by
  induction h with
  | blank hbefore _ hafter ih => exact .blank hbefore ih hafter
  | null => exact .literal (.inl rfl)
  | bool b => cases b <;> exact .literal (by decide)
  | number h => exact .number h.1
  | string h => exact .string h.isContent
  | emptyList hws => exact .emptyList hws
  | list hne _ ih => exact .list (by simpa using hne) (List.forall_mem_map.mpr ih)
  | emptyObject hws => exact .emptyObject hws
  | @object _ members hne hnames _ ih =>
    have htext := @IsText.object (members.map fun m => (m.label, m.text)) (by simpa using hne)
      (List.forall_mem_map.mpr fun m hm => ?_) (List.forall_mem_map.mpr ih)
    · rwa [List.map_map] at htext
    · obtain ⟨before, content, after, hbefore, hcontent, hafter, hlabel⟩ := hnames m hm
      exact ⟨before, content, after, hbefore, hcontent.isContent, hafter, hlabel⟩

end Dialogue.Json
