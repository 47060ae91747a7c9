import Dialogue.Proofs.Json.Spelling

/-!
# What is printed

The text of a value holds no control character: in strings they are escaped, and everything else is
made of digits, letters and marks. So it is one line, whatever the strings in it hold.

Objects are printed with their members in any order, and are then read as the object of these
members. For this, what is printed may stand for another value than the one that it is printed of:
`ReadAs` is used of the text of one and of the other.

Main statements: `printable_chars`, `readAs_arr_map` and `readAs_obj_map`.
-/

namespace Dialogue

/-- No character of the text is a control character before the blank. -/
def Printable (cs : List Char) : Prop :=
  ∀ c ∈ cs, 0x20 ≤ c.toNat

namespace Printable

variable {c : Char} {cs ds : List Char}

@[simp]
theorem nil : Printable [] :=
  List.forall_mem_nil _

@[simp]
theorem cons_iff : Printable (c :: cs) ↔ 0x20 ≤ c.toNat ∧ Printable cs :=
  List.forall_mem_cons

@[simp]
theorem append_iff : Printable (cs ++ ds) ↔ Printable cs ∧ Printable ds :=
  List.forall_mem_append

theorem of_subset (h : Printable cs) (hsubset : ds ⊆ cs) : Printable ds :=
  fun c hc => h c (hsubset hc)

/-- There is no end of a line. -/
theorem newline_notMem (h : Printable cs) : '\n' ∉ cs :=
  fun hmem => absurd (h '\n' hmem) (by decide)

end Printable

namespace Json

/-! ## Numbers -/

theorem printable_toDigits (n : Nat) : Printable (Nat.toDigits 10 n) := by
  intro c hc
  have hbounds := toNat_of_isDigit (isDigit_of_mem_toDigits hc)
  omega

theorem printable_intChars (n : Int) : Printable (intChars n) := by
  unfold intChars
  split
  · exact Printable.cons_iff.mpr ⟨by decide, printable_toDigits _⟩
  · exact printable_toDigits _

/-- An integer is printed in decimal. -/
theorem toList_toString (n : Int) : (toString n).toList = intChars n := by
  cases n with
  | ofNat n => exact String.toList_ofList
  | negSucc n =>
    rw [intChars, if_pos (Int.negSucc_lt_zero n)]
    exact String.toList_append.trans (congrArg ('-' :: ·) String.toList_ofList)

theorem render_ofInt (n : Int) : (ofInt n).render = toString n := by
  rw [← String.ofList_toList (s := toString n), toList_toString]
  rfl

theorem printable_zeros (n : Nat) : Printable (zeros n) := by
  intro c hc
  rw [(List.mem_replicate.mp hc).2]
  decide

theorem printable_decimal (range : PositionalRange) (d : Decimal) : Printable (d.chars range) := by
  have hdigits := printable_toDigits d.digits
  have hexponent (e : Int) : Printable ('e' :: (toString e).toList) :=
    Printable.cons_iff.mpr ⟨by decide, toList_toString e ▸ printable_intChars e⟩
  -- The forms are those of the definition: with an exponent, and with the point behind, between
  -- or before the digits.
  unfold Decimal.chars
  dsimp only
  split
  · split
    · next heq =>
      rw [heq, Printable.cons_iff] at hdigits
      exact Printable.cons_iff.mpr ⟨hdigits.1, hexponent _⟩
    · next heq =>
      rw [heq, Printable.cons_iff] at hdigits
      exact Printable.cons_iff.mpr ⟨hdigits.1, Printable.cons_iff.mpr
        ⟨by decide, Printable.append_iff.mpr ⟨hdigits.2, hexponent _⟩⟩⟩
    · exact hexponent _
  split
  · simp [hdigits, printable_zeros]
  split
  · exact Printable.append_iff.mpr ⟨hdigits.of_subset (List.take_subset ..),
      Printable.cons_iff.mpr ⟨by decide, hdigits.of_subset (List.drop_subset ..)⟩⟩
  · simp [hdigits, printable_zeros]

theorem printable_numberChars (n : Number) : Printable (numberChars n) := by
  cases n with
  | int n => exact printable_intChars n
  | float x =>
    have hdigits := printable_decimal positional x.shortest
    change Printable (floatChars x)
    unfold floatChars
    dsimp only
    split
    · exact Printable.cons_iff.mpr ⟨by decide, hdigits⟩
    · exact hdigits

/-! ## Strings -/

theorem le_toNat_hexDigit {n : Nat} (h : n < 16) : 0x20 ≤ (hexDigit n).toNat := by
  interval_cases n <;> decide

/-- Control characters are escaped. -/
theorem printable_escapeChar (c : Char) : Printable (escapeChar c) := by
  unfold escapeChar
  iterate 7
    split
    · exact Printable.cons_iff.mpr ⟨by decide, Printable.cons_iff.mpr ⟨by decide, .nil⟩⟩
  split
  · next h =>
    have hhigh := le_toNat_hexDigit (show c.toNat / 16 < 16 by omega)
    have hlow := le_toNat_hexDigit (show c.toNat % 16 < 16 by omega)
    simp [hhigh, hlow]
  · next h => exact Printable.cons_iff.mpr ⟨Nat.not_lt.mp h, .nil⟩

theorem printable_stringChars (s : String) : Printable (stringChars s) := by
  have hcontent : Printable (s.toList.flatMap escapeChar) := by
    intro c hc
    obtain ⟨d, -, hd⟩ := List.mem_flatMap.mp hc
    exact printable_escapeChar d c hd
  simp [stringChars, hcontent]

/-! ## Values -/

mutual

/-- **The text of a value** holds no control character. -/
theorem printable_chars : ∀ v : Json, Printable v.chars
  | .null => by simp [chars]
  | .bool true => by simp [chars]
  | .bool false => by simp [chars]
  | .num n => by simpa [chars] using printable_numberChars n
  | .str s => by simpa [chars] using printable_stringChars s
  | .arr [] => by simp [chars]
  | .arr (x :: xs) => by simp [chars, printable_chars x, printable_itemChars xs]
  | .obj [] => by simp [chars]
  | .obj ((k, v) :: ms) => by
    simp [chars, printable_stringChars k, printable_chars v, printable_memberChars ms]

theorem printable_itemChars : ∀ xs : List Json, Printable (itemChars xs)
  | [] => .nil
  | x :: xs => by simp [itemChars, printable_chars x, printable_itemChars xs]

theorem printable_memberChars : ∀ ms : List (String × Json), Printable (memberChars ms)
  | [] => .nil
  | (k, v) :: ms => by
    simp [memberChars, printable_stringChars k, printable_chars v, printable_memberChars ms]

end

/-! ## What is printed is read -/

variable {depth : Nat} {v : Json} {α : Type}

theorem ReadsBack.readAs (h : v.ReadsBack depth) : ReadAs depth v.chars v :=
  fun _ rest hfuel hrest => ⟨rest, h hfuel hrest, rfl⟩

theorem spellsChars_escaped (cs : List Char) : SpellsChars (cs.flatMap escapeChar) cs := by
  induction cs with
  | nil => exact .nil
  | cons c cs ih =>
    rw [List.flatMap_cons]
    rcases escapeChar_cases c with ⟨hc, hquote, hslash, hcontrol⟩ | ⟨escape, hc, hescape⟩
    · rw [hc]
      exact .plain (Nat.not_lt.mp hcontrol) hquote hslash ih
    · obtain ⟨e, he, heq⟩ := readEscape_eq_ok_iff.mp (hescape [])
      obtain rfl : escape = e := by simpa using heq
      rw [hc]
      exact .escape he ih

/-- The name of a member is printed as a string. -/
theorem spellsName_stringChars (name : String) : SpellsName (stringChars name) name :=
  ⟨[], _, [], List.forall_mem_nil _, spellsChars_escaped name.toList, List.forall_mem_nil _, rfl⟩

theorem chars_arr {xs : List Json} (hne : xs ≠ []) :
    (Json.arr xs).chars = '[' :: ([','].intercalate (xs.map chars) ++ [']']) := by
  obtain ⟨x, xs, rfl⟩ := List.exists_cons_of_ne_nil hne
  have hitems (x : Json) :
      x.chars ++ itemChars xs = [','].intercalate ((x :: xs).map chars) := by
    clear hne
    induction xs generalizing x with
    | nil => simp [itemChars]
    | cons y ys ih =>
      rw [List.map_cons, List.intercalate_cons_of_ne_nil (by simp), ← ih, itemChars]
      simp
  rw [chars, ← hitems]
  simp

/-- A member as it is printed. -/
def memberText (m : String × Json) : List Char :=
  stringChars m.1 ++ ':' :: m.2.chars

theorem chars_obj {ms : Members} (hne : ms ≠ []) :
    (Json.obj ms).chars = '{' :: ([','].intercalate (ms.map memberText) ++ ['}']) := by
  obtain ⟨m, ms, rfl⟩ := List.exists_cons_of_ne_nil hne
  have hmembers (m : String × Json) :
      memberText m ++ memberChars ms = [','].intercalate ((m :: ms).map memberText) := by
    clear hne
    induction ms generalizing m with
    | nil => simp [memberChars]
    | cons n ms ih =>
      rw [List.map_cons, List.intercalate_cons_of_ne_nil (by simp), ← ih, memberChars]
      simp [memberText]
  rw [chars, ← hmembers]
  simp [memberText]

theorem forall_isSpace_nil : ∀ c ∈ ([] : List Char), isSpace c = true :=
  List.forall_mem_nil _

/-- An array that is printed of values whose texts are read as others. -/
theorem readAs_arr_map {f g : α → Json} {xs : List α}
    (h : ∀ x ∈ xs, ReadAs depth (f x).chars (g x)) (hdepth : 0 < depth) :
    ReadAs (depth + 1) (Json.arr (xs.map f)).chars (.arr (xs.map g)) := by
  by_cases hne : xs = []
  · have hlist := readAs_emptyList forall_isSpace_nil hdepth
    rw [hne]
    exact hlist
  · have hitems : ∀ item ∈ xs.map fun x => ((f x).chars, g x), ReadAs depth item.1 item.2 :=
      List.forall_mem_map.mpr h
    have hlist := readAs_list (fun hnil => hne (List.map_eq_nil_iff.mp hnil)) hitems hdepth
    rw [List.map_map, List.map_map] at hlist
    rw [chars_arr (mt List.map_eq_nil_iff.mp hne), List.map_map]
    exact hlist

/-- An object that is printed of members whose values' texts are read as others: it is read as the
object of these, in whatever order they stand. -/
theorem readAs_obj_map (name : α → String) {f g : α → Json} {xs : List α}
    (h : ∀ x ∈ xs, ReadAs depth (f x).chars (g x)) (hdepth : 0 < depth) :
    ReadAs (depth + 1) (Json.obj (xs.map fun x => (name x, f x))).chars
      (object (xs.map fun x => (name x, g x))) := by
  by_cases hne : xs = []
  · have hobject := readAs_emptyObject forall_isSpace_nil hdepth
    rw [hne]
    exact hobject
  · -- The name of each member is spelled by its own text, its value by the text of another.
    let written (x : α) : WrittenMember := ⟨stringChars (name x), name x, (f x).chars, g x⟩
    have hnames : ∀ m ∈ xs.map written, SpellsName m.label m.name :=
      List.forall_mem_map.mpr fun x _ => spellsName_stringChars (name x)
    have hvalues : ∀ m ∈ xs.map written, ReadAs depth m.text m.value := List.forall_mem_map.mpr h
    have hobject := readAs_object (fun hnil => hne (List.map_eq_nil_iff.mp hnil)) hnames hvalues
      hdepth
    rw [List.map_map, List.map_map] at hobject
    rw [chars_obj (mt List.map_eq_nil_iff.mp hne), List.map_map]
    exact hobject

/-- An object whose values are read from their texts. -/
theorem readAs_obj {ms : Members} (h : ∀ m ∈ ms, ReadAs depth m.2.chars m.2) (hdepth : 0 < depth) :
    ReadAs (depth + 1) (Json.obj ms).chars (object ms) := by
  have hobject := readAs_obj_map Prod.fst h hdepth
  rwa [List.map_id'] at hobject

end Json

end Dialogue
