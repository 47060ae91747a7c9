/-!
# Blank characters

The characters that count as white space when a text is trimmed or tested for being empty: the
Unicode property `White_Space`. The set of JSON white space is smaller and stands with the reader
of JSON text.

Main statements: `isBlank_of_isWhitespace` (every white space character of the core library is
blank) and `trim_eq_nil_iff` (a text trims to nothing exactly when all of it is blank).
-/

namespace Dialogue.Text

/-- A character with the Unicode property `White_Space`. -/
def isBlank (c : Char) : Bool :=
  let n := c.toNat
  (0x09 ≤ n && n ≤ 0x0D) || n == 0x20 || n == 0x85 || n == 0xA0 || n == 0x1680 ||
    (0x2000 ≤ n && n ≤ 0x200A) || n == 0x2028 || n == 0x2029 || n == 0x202F || n == 0x205F ||
    n == 0x3000

/-- Drops the blank characters at the front. -/
def trimStart (cs : List Char) : List Char :=
  cs.dropWhile isBlank

/-- Drops the blank characters at the end. -/
def trimEnd (cs : List Char) : List Char :=
  (cs.reverse.dropWhile isBlank).reverse

/-- Drops the blank characters at both ends. -/
def trim (cs : List Char) : List Char :=
  trimEnd (trimStart cs)

/-- A string without the blank characters at both ends. -/
def trimmed (s : String) : String :=
  String.ofList (trim s.toList)

/-- Every white space character of the core library is blank. -/
theorem isBlank_of_isWhitespace {c : Char} (h : c.isWhitespace = true) : isBlank c = true := by
  simp only [Char.isWhitespace, Bool.or_eq_true, decide_eq_true_eq] at h
  rcases h with ((rfl | rfl) | rfl) | rfl <;> decide

/-- Dropping from the front leaves nothing exactly when everything is dropped. -/
theorem dropWhile_eq_nil_iff_all (p : Char → Bool) (cs : List Char) :
    cs.dropWhile p = [] ↔ ∀ c ∈ cs, p c = true := by
  induction cs with
  | nil => simp
  | cons c cs ih =>
    by_cases h : p c = true
    · simp [List.dropWhile, h, ih]
    · simp [List.dropWhile, h]

/-- A text trims to nothing exactly when all of it is blank. -/
theorem trim_eq_nil_iff (cs : List Char) : trim cs = [] ↔ ∀ c ∈ cs, isBlank c = true := by
  constructor
  · intro h
    have h1 : (trimStart cs).reverse.dropWhile isBlank = [] := by
      simpa [trim, trimEnd] using h
    have h2 : ∀ c ∈ trimStart cs, isBlank c = true := by
      simpa using (dropWhile_eq_nil_iff_all isBlank _).1 h1
    have h3 : trimStart cs = [] := by
      cases hcs : trimStart cs with
      | nil => rfl
      | cons c rest =>
        have hc := h2 c (by rw [hcs]; exact List.mem_cons_self ..)
        have hne : (cs.dropWhile isBlank).head? = some c := by
          show (trimStart cs).head? = some c
          rw [hcs]; rfl
        have := List.head?_dropWhile_not (p := isBlank) cs
        rw [hne] at this
        simp [hc] at this
    exact (dropWhile_eq_nil_iff_all isBlank cs).1 h3
  · intro h
    have : trimStart cs = [] := (dropWhile_eq_nil_iff_all isBlank cs).2 h
    simp [trim, trimEnd, this]

end Dialogue.Text
