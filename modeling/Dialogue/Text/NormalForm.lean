import Dialogue.Text.CombiningClass
import Dialogue.Text.Composite

/-!
# Normal form

A text may write an accented letter as one character or as the letter and its accent, and marks on
different places of a letter in any order. In the normal form marks stand in the order of their
combining classes, and all that can be written as one character is.

Main statement: `normalForm_ascii` (a text of ASCII is in normal form).
-/

namespace Dialogue.Text

/-- The characters that a character stands for in the end. `fuel` bounds the steps; none takes more
than four. -/
def decompose : (fuel : Nat) → Char → List Char
  | 0, c => [c]
  | fuel + 1, c =>
    match parts? c with
    | some (a, b) => decompose fuel a ++ decompose fuel b
    | none => [c]

/-- Puts a character after others that stand in reverse: a mark goes in front of those of a greater
class. -/
def settle (c : Char) : (back : List Char) → List Char
  | [] => [c]
  | d :: back =>
    if 0 < combiningClass c ∧ combiningClass c < combiningClass d then d :: settle c back
    else c :: d :: back

/-- The text with the marks after each character in the order of their classes. -/
def orderMarks (cs : List Char) : List Char :=
  (cs.foldl (fun back c => settle c back) []).reverse

/-- Joins characters to a character that starts anew. `marks` are those between, in reverse, that
could not be joined. A mark of the same class keeps others away. -/
def composeAfter (starter : Char) (marks : List Char) : List Char → List Char
  | [] => starter :: marks.reverse
  | c :: rest =>
    let isNear := match marks with
      | m :: _ => decide (combiningClass m < combiningClass c)
      | [] => true
    match if isNear then composite? starter c else none with
    | some joined => composeAfter joined marks rest
    | none =>
      if combiningClass c = 0 then starter :: marks.reverse ++ composeAfter c [] rest
      else composeAfter starter (c :: marks) rest

/-- Writes as one character all that can be. -/
def compose : List Char → List Char
  | [] => []
  | c :: rest => if combiningClass c = 0 then composeAfter c [] rest else c :: compose rest

/-- The normal form of a text. -/
def normalForm (cs : List Char) : List Char :=
  compose (orderMarks (cs.flatMap (decompose 4)))

/-! ## Texts of ASCII -/

/-- No composite character stands before U+00C0. -/
theorem composites_late : composites.all (fun r => 0xC0 ≤ r.1) = true := by
  decide +kernel

theorem parts?_of_lt {c : Char} (h : c.toNat < 0xC0) : parts? c = none := by
  have missed : composites.find? (·.1 == c.toNat) = none := by
    rw [List.find?_eq_none]
    intro r hr
    have := List.all_eq_true.mp composites_late r hr
    simp at this ⊢
    omega
  have early : c.toNat < firstSyllable := Nat.lt_trans h (by decide)
  simp [parts?, missed, syllableParts?, early]

theorem settle_of_lt {c : Char} (h : c.toNat < 0x300) (back : List Char) :
    settle c back = c :: back := by
  cases back <;> simp [settle, combiningClass_of_lt h]

theorem orderMarks_of_lt {cs : List Char} (h : ∀ c ∈ cs, c.toNat < 0x300) : orderMarks cs = cs := by
  have go (back : List Char) :
      cs.foldl (fun back c => settle c back) back = cs.reverse ++ back := by
    induction cs generalizing back with
    | nil => rfl
    | cons c cs ih =>
      rw [List.foldl_cons, settle_of_lt (h c (by simp)), ih fun d hd => h d (by simp [hd])]
      simp
  simp [orderMarks, go]

theorem composeAfter_of_lt {cs : List Char} (h : ∀ c ∈ cs, c.toNat < 0x300) (starter : Char) :
    composeAfter starter [] cs = starter :: cs := by
  induction cs generalizing starter with
  | nil => rfl
  | cons c cs ih =>
    have hc : c.toNat < 0x300 := h c (by simp)
    simp [composeAfter, composite?, hc, combiningClass_of_lt hc, ih fun d hd => h d (by simp [hd])]

/-- A text of ASCII is in normal form. -/
theorem normalForm_ascii {cs : List Char} (h : ∀ c ∈ cs, c.toNat < 0x80) : normalForm cs = cs := by
  have plain : cs.flatMap (decompose 4) = cs := by
    induction cs with
    | nil => rfl
    | cons c cs ih =>
      have hc : c.toNat < 0xC0 := Nat.lt_trans (h c (by simp)) (by decide)
      rw [List.flatMap_cons, ih fun d hd => h d (by simp [hd])]
      simp [decompose, parts?_of_lt hc]
  have low : ∀ c ∈ cs, c.toNat < 0x300 := fun c hc => Nat.lt_trans (h c hc) (by decide)
  rw [normalForm, plain, orderMarks_of_lt low]
  cases cs with
  | nil => rfl
  | cons c cs =>
    have hc : combiningClass c = 0 := combiningClass_of_lt (low c (by simp))
    rw [compose, if_pos hc, composeAfter_of_lt fun d hd => low d (List.mem_cons_of_mem c hd)]

example : normalForm ['e', '\u0301'] = ['é'] := by decide +kernel
example : normalForm ['a', '\u0301', '\u0323'] = ['ạ', '\u0301'] := by decide +kernel
example : normalForm ['ᄒ', 'ᅡ', 'ᆫ'] = ['한'] := by decide +kernel

end Dialogue.Text
