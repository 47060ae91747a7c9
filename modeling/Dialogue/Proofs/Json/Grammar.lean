import Dialogue.Proofs.Json.Alike
import Dialogue.Proofs.Json.ReadBack

/-!
# JSON texts and their lines

`IsText` is the grammar of JSON. A text may be written on several lines, some of them blank, and a
line begins with blanks or with a lexeme, never inside a string. So it is all one to the text if the
blank characters at the beginnings of its lines are dropped, be they more than those of JSON.

Main statement: `IsText.alike_trimStart`. Its invariant is `Indented`, which is kept where texts are
put together.
-/

namespace Dialogue.Json

/-! ## Grammar -/

/-- What stands between the quotes of a string. -/
inductive IsContent : List Char → Prop where
  | nil : IsContent []
  | plain {c : Char} {cs : List Char} : 0x20 ≤ c.toNat → c ≠ '"' → c ≠ '\\' → IsContent cs →
      IsContent (c :: cs)
  | escape {c : Char} {cs : List Char} : c ∈ "\"\\/bfnrt".toList → IsContent cs →
      IsContent ('\\' :: c :: cs)
  | code {a b c d : Char} {cs : List Char} : (∀ x ∈ [a, b, c, d], hexValue? x ≠ none) →
      IsContent cs → IsContent ('\\' :: 'u' :: a :: b :: c :: d :: cs)

theorem isContent_of_plain {cs : List Char}
    (h : cs.all (fun c => 0x20 ≤ c.toNat && c != '"' && c != '\\') = true) : IsContent cs := by
  induction cs with
  | nil => exact .nil
  | cons c cs ih =>
    obtain ⟨⟨⟨hprintable, hquote⟩, hslash⟩, hcs⟩ := by simpa using h
    exact .plain hprintable hquote hslash (ih (by simpa using hcs))

/-- Digits, at least one. -/
def IsDigits (ds : List Char) : Prop :=
  ds ≠ [] ∧ ∀ d ∈ ds, isDigit d = true

/-- A number: a sign or none, an integer without zeros in front, and perhaps a fraction and an
exponent. -/
inductive IsNumber : List Char → Prop where
  | mk {sign integer fraction exponent : List Char} : sign = [] ∨ sign = ['-'] →
      IsDigits integer → (integer.head? = some '0' → integer = ['0']) →
      (fraction = [] ∨ ∃ ds, IsDigits ds ∧ fraction = '.' :: ds) →
      (exponent = [] ∨ ∃ mark side ds, (mark = 'e' ∨ mark = 'E') ∧
        (side = [] ∨ side = ['+'] ∨ side = ['-']) ∧ IsDigits ds ∧
        exponent = mark :: (side ++ ds)) →
      IsNumber (sign ++ (integer ++ (fraction ++ exponent)))

/-- The text of a value, with blanks before and after it. -/
inductive IsText : List Char → Prop where
  | blank {before cs after : List Char} : (∀ c ∈ before, isSpace c = true) → IsText cs →
      (∀ c ∈ after, isSpace c = true) → IsText (before ++ (cs ++ after))
  | literal {cs : List Char} :
      cs = "null".toList ∨ cs = "false".toList ∨ cs = "true".toList → IsText cs
  | number {cs : List Char} : IsNumber cs → IsText cs
  | string {cs : List Char} : IsContent cs → IsText ('"' :: (cs ++ ['"']))
  | emptyList {ws : List Char} : (∀ c ∈ ws, isSpace c = true) → IsText ('[' :: (ws ++ [']']))
  | list {items : List (List Char)} : items ≠ [] → (∀ item ∈ items, IsText item) →
      IsText ('[' :: ([','].intercalate items ++ [']']))
  | emptyObject {ws : List Char} : (∀ c ∈ ws, isSpace c = true) → IsText ('{' :: (ws ++ ['}']))
  | object {members : List (List Char × List Char)} : members ≠ [] →
      (∀ m ∈ members, ∃ before name after, (∀ c ∈ before, isSpace c = true) ∧ IsContent name ∧
        (∀ c ∈ after, isSpace c = true) ∧ m.1 = before ++ ('"' :: (name ++ '"' :: after))) →
      (∀ m ∈ members, IsText m.2) →
      IsText ('{' :: ([','].intercalate (members.map fun m => m.1 ++ ':' :: m.2) ++ ['}']))

/-! ## Lines -/

/-- The blank characters at the beginnings of lines are those of JSON. `fresh` says that nothing
else has stood on the first line so far. -/
def IndentedFrom : (fresh : Bool) → List Char → Prop
  | _, [] => True
  | fresh, c :: cs => (fresh = true → Text.isBlank c = true → isSpace c = true) ∧
      IndentedFrom (c == '\n' || fresh && Text.isBlank c) cs

/-- The blank characters at the beginnings of all lines are those of JSON. -/
def Indented (cs : List Char) : Prop :=
  IndentedFrom true cs

variable {c : Char} {cs xs ys : List Char} {fresh : Bool}

/-- Less is asked where something has stood before. -/
theorem IndentedFrom.of_imp {fresh' : Bool} (h : IndentedFrom fresh cs)
    (himp : fresh' = true → fresh = true) : IndentedFrom fresh' cs := by
  induction cs generalizing fresh fresh' with
  | nil => trivial
  | cons c cs ih =>
    refine ⟨fun hfresh => h.1 (himp hfresh), ih h.2 fun hc => ?_⟩
    simp only [Bool.or_eq_true, Bool.and_eq_true] at hc ⊢
    exact hc.imp_right fun ⟨hfresh, hblank⟩ => ⟨himp hfresh, hblank⟩

theorem IndentedFrom.append (hxs : IndentedFrom fresh xs) (hys : Indented ys) :
    IndentedFrom fresh (xs ++ ys) := by
  induction xs generalizing fresh with
  | nil => exact hys.of_imp fun _ => rfl
  | cons x xs ih => exact ⟨hxs.1, ih hxs.2⟩

theorem Indented.append (hxs : Indented xs) (hys : Indented ys) : Indented (xs ++ ys) :=
  IndentedFrom.append hxs hys

theorem Indented.cons (hc : Text.isBlank c = true → isSpace c = true) (h : Indented cs) :
    Indented (c :: cs) :=
  ⟨fun _ => hc, h.of_imp fun _ => rfl⟩

theorem indented_of_forall (h : ∀ c ∈ cs, Text.isBlank c = true → isSpace c = true) :
    Indented cs := by
  induction cs with
  | nil => trivial
  | cons c cs ih =>
    exact (ih fun d hd => h d (List.mem_cons_of_mem _ hd)).cons (h c (List.mem_cons_self ..))

theorem indented_of_none_blank (h : cs.any Text.isBlank = false) : Indented cs :=
  indented_of_forall fun c hc hblank => absurd hblank (List.any_eq_false.mp h c hc)

theorem indented_of_isSpace (h : ∀ c ∈ cs, isSpace c = true) : Indented cs :=
  indented_of_forall fun c hc _ => h c hc

/-- Nothing is asked of a line on which something has stood before. -/
theorem indentedFrom_false (h : '\n' ∉ cs) : IndentedFrom false cs := by
  induction cs with
  | nil => trivial
  | cons c cs ih =>
    obtain ⟨hc, hcs⟩ := List.ne_and_not_mem_of_not_mem_cons h
    refine ⟨nofun, ?_⟩
    rw [Bool.false_and, Bool.or_false, beq_false_of_ne (Ne.symm hc)]
    exact ih hcs

theorem indented_intercalate {items : List (List Char)} (h : ∀ item ∈ items, Indented item) :
    Indented ([','].intercalate items) := by
  have hcomma : Indented [','] := indented_of_none_blank (by decide)
  induction items with
  | nil => trivial
  | cons item items ih =>
    have hitem := h item (List.mem_cons_self ..)
    have hrest := ih fun x hx => h x (List.mem_cons_of_mem _ hx)
    rcases items with _ | ⟨next, items⟩
    · simpa using hitem
    · rw [List.intercalate_cons_cons]
      exact (hitem.append hcomma).append hrest

/-! ## Texts are indented -/

/-- No line feed stands in a string. -/
theorem IsContent.not_mem (h : IsContent cs) : '\n' ∉ cs := by
  induction h with
  | nil => exact List.not_mem_nil
  | @plain c _ hc _ _ _ ih =>
    have hne : '\n' ≠ c := by
      rintro rfl
      exact absurd hc (by decide)
    simp [hne, ih]
  | @escape c _ hc _ ih =>
    have hne : '\n' ≠ c := by
      rintro rfl
      exact absurd hc (by decide)
    simp [hne, ih]
  | @code a b c d _ hhex _ ih =>
    have hne : '\n' ∉ [a, b, c, d] := fun hmem => hhex _ hmem (by decide)
    simp only [List.mem_cons, List.not_mem_nil, or_false, not_or] at hne
    simp [hne, ih]

theorem IsContent.indented (h : IsContent cs) : Indented ('"' :: (cs ++ ['"'])) := by
  refine ⟨fun _ => by decide, indentedFrom_false ?_⟩
  simpa using h.not_mem

theorem IsDigits.indented (h : IsDigits cs) : Indented cs :=
  indented_of_forall fun c hc hblank => by
    rw [not_blank_of_isDigit (h.2 c hc)] at hblank
    cases hblank

theorem IsNumber.indented (h : IsNumber cs) : Indented cs := by
  obtain ⟨hsign, hinteger, -, hfraction, hexponent⟩ := h
  refine .append ?_ (hinteger.indented.append (.append ?_ ?_))
  · rcases hsign with rfl | rfl <;> exact indented_of_none_blank (by decide)
  · rcases hfraction with rfl | ⟨ds, hds, rfl⟩
    · trivial
    · exact hds.indented.cons (by decide)
  · rcases hexponent with rfl | ⟨mark, side, ds, hmark, hside, hds, rfl⟩
    · trivial
    · refine .cons ?_ (.append ?_ hds.indented)
      · rcases hmark with rfl | rfl <;> decide
      · rcases hside with rfl | rfl | rfl <;> exact indented_of_none_blank (by decide)

theorem IsText.indented (h : IsText cs) : Indented cs := by
  have hclose {c : Char} (hc : Text.isBlank c = true → isSpace c = true) : Indented [c] :=
    .cons hc trivial
  induction h with
  | blank hbefore _ hafter ih =>
    exact (indented_of_isSpace hbefore).append (ih.append (indented_of_isSpace hafter))
  | literal h => rcases h with rfl | rfl | rfl <;> exact indented_of_none_blank (by decide)
  | number h => exact h.indented
  | string h => exact h.indented
  | emptyList hws => exact ((indented_of_isSpace hws).append (hclose (by decide))).cons (by decide)
  | list _ _ ih => exact ((indented_intercalate ih).append (hclose (by decide))).cons (by decide)
  | emptyObject hws =>
    exact ((indented_of_isSpace hws).append (hclose (by decide))).cons (by decide)
  | object _ hnames _ ih =>
    refine ((indented_intercalate fun member hmember => ?_).append (hclose (by decide))).cons
      (by decide)
    obtain ⟨m, hm, rfl⟩ := List.mem_map.mp hmember
    obtain ⟨before, name, after, hbefore, hname, hafter, hm₁⟩ := hnames m hm
    have hstring := hname.indented.append (indented_of_isSpace hafter)
    rw [List.cons_append, List.append_assoc, List.singleton_append] at hstring
    have hfirst : Indented m.1 := hm₁ ▸ (indented_of_isSpace hbefore).append hstring
    exact hfirst.append ((ih m hm).cons (by decide))

/-! ## Blanks at the beginnings of lines -/

/-- The blank characters at the beginning of a line, in a text that is indented. -/
theorem Indented.isSpace_of_mem (h : Indented (xs ++ ys)) :
    ∀ c ∈ xs.takeWhile Text.isBlank, isSpace c = true := by
  induction xs with
  | nil => exact List.forall_mem_nil _
  | cons x xs ih =>
    by_cases hx : Text.isBlank x = true
    · rw [List.takeWhile_cons_of_pos hx]
      obtain ⟨hspace, hrest⟩ := h
      rw [hx, Bool.true_and, Bool.or_true] at hrest
      exact List.forall_mem_cons.mpr ⟨hspace rfl hx, ih hrest⟩
    · rw [List.takeWhile_cons_of_neg hx]
      exact List.forall_mem_nil _

theorem IndentedFrom.of_append (h : IndentedFrom fresh (xs ++ '\n' :: ys)) : Indented ys := by
  induction xs generalizing fresh with
  | nil => exact h.2
  | cons x xs ih => exact ih h.2

/-- Lines that each stand after a line feed, with and without the blanks in front of them. -/
theorem alike_flatMap_trimStart {lines : List (List Char)}
    (h : ∀ line ∈ lines, ∀ c ∈ line.takeWhile Text.isBlank, isSpace c = true) :
    Alike (lines.flatMap ('\n' :: ·)) ((lines.map Text.trimStart).flatMap ('\n' :: ·)) := by
  induction lines with
  | nil => exact .nil
  | cons line lines ih =>
    obtain ⟨hline, hlines⟩ := List.forall_mem_cons.mp h
    have hparts : line ++ lines.flatMap ('\n' :: ·) =
        line.takeWhile Text.isBlank ++ (Text.trimStart line ++ lines.flatMap ('\n' :: ·)) := by
      rw [← List.append_assoc, Text.trimStart, List.takeWhile_append_dropWhile]
    have hnil : ∀ c ∈ ([] : List Char), isSpace c = true := List.forall_mem_nil _
    have halike := ((ih hlines).append_left (Text.trimStart line)).indent hline hnil
    rw [List.map_cons, List.flatMap_cons, List.flatMap_cons, List.cons_append, hparts]
    exact halike

theorem cons_intercalate {lines : List (List Char)} (hne : lines ≠ []) :
    '\n' :: ['\n'].intercalate lines = lines.flatMap ('\n' :: ·) := by
  induction lines with
  | nil => exact absurd rfl hne
  | cons line lines ih =>
    rcases lines with _ | ⟨next, lines⟩
    · simp
    · rw [List.intercalate_cons_cons, List.flatMap_cons, ← ih (List.cons_ne_nil _ _)]
      simp

/-- **The lines of a JSON text** may be put down without the blank characters in front of them. -/
theorem IsText.alike_trimStart {lines : List (List Char)} (hne : lines ≠ [])
    (h : IsText (['\n'].intercalate lines)) :
    Alike (skipSpace (['\n'].intercalate lines))
      (skipSpace (['\n'].intercalate (lines.map Text.trimStart))) := by
  have hindented : Indented (lines.flatMap ('\n' :: ·)) :=
    cons_intercalate hne ▸ h.indented.cons (by decide)
  have hlines : ∀ line ∈ lines, ∀ c ∈ line.takeWhile Text.isBlank, isSpace c = true := by
    intro line hline
    obtain ⟨before, after, rfl⟩ := List.append_of_mem hline
    rw [List.flatMap_append, List.flatMap_cons, List.cons_append] at hindented
    exact (IndentedFrom.of_append hindented).isSpace_of_mem
  have halike := (alike_flatMap_trimStart hlines).skipSpace
  rwa [← cons_intercalate hne, ← cons_intercalate (by simpa using hne)] at halike

end Dialogue.Json
