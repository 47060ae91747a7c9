import Dialogue.Http.Domain.Folding
import Dialogue.Text.Direction
import Dialogue.Text.Joining
import Dialogue.Text.Mark
import Dialogue.Text.NormalForm
import Dialogue.Text.Punycode

/-!
# Domain names

A domain name is labels between dots. Its characters are folded and brought into the normal form,
and then each label is written in ASCII: as it is if it has no other characters, else in Punycode
after `xn--`. A label that is given in Punycode has to be what folding would leave alone.

A label does not start with a mark, and what joins or parts letters stands in it only where it makes
a difference. If one label is written to the left, all labels have to keep to rules that fix how
they are shown.

Main statement: `readLabel?_of_ascii` (a label of ASCII that does not start with `xn--` stays as it
is).
-/

namespace Dialogue.Http.Domain

/-! ## Characters -/

/-- Characters of ASCII that no domain name has. -/
def isForbidden (c : Char) : Bool :=
  c.toNat ≤ 0x20 || c.toNat == 0x7F || "%#/:<>?@[\\]^|".toList.contains c

/-- Folds all characters; none if no domain name has one of them. -/
def foldAll? (cs : List Char) : Option (List Char) :=
  (cs.mapM fold?).map List.flatten

/-- Whether folding leaves a text alone and it is in normal form. -/
def isSettled (cs : List Char) : Bool :=
  cs.all (fun c => fold? c == some [c]) && Text.normalForm cs == cs

/-! ## Joiners -/

/-- Whether the nearest character that is not transparent has a property. -/
def nearest (p : Char → Bool) (cs : List Char) : Bool :=
  match cs.dropWhile Text.isTransparent with
  | c :: _ => p c
  | [] => false

/-- Whether the joiners of a label stand where they make a difference: after a sign that takes away
a vowel, and what parts letters also between letters that would be joined. `before` holds the
characters before, in reverse. -/
def joinersFit : (before : List Char) → List Char → Bool
  | _, [] => true
  | before, c :: after =>
    let parts := c == '\u200C'
    let fits :=
      if parts || c == '\u200D' then
        match before with
        | [] => false
        | d :: _ =>
          Text.combiningClass d == Text.vowelKillerClass ||
            (parts && nearest Text.joinsNext before && nearest Text.joinsPrevious after)
      else true
    fits && joinersFit (c :: before) after

/-! ## Direction -/

/-- Whether a character makes the direction of a name matter. -/
def turns (c : Char) : Bool :=
  match Text.direction c with
  | .right | .arabicNumber => true
  | _ => false

/-- Whether a label of letters that are written to the right keeps to the rules. `last` is the last
character that is no mark. -/
def fitsRightward (tail : List Char) (last : Char) : Bool :=
  let ends := match Text.direction last with
    | .left | .number => true
    | _ => false
  ends && tail.all fun c => !turns c

/-- Whether a label of letters that are written to the left keeps to the rules. -/
def fitsLeftward (tail : List Char) (last : Char) : Bool :=
  let ends := match Text.direction last with
    | .right | .number | .arabicNumber => true
    | _ => false
  let has (d : Text.Direction) : Bool := tail.any (Text.direction · == d)
  ends && !has .left && !(has .number && has .arabicNumber)

/-- Whether a label keeps to the rules of direction. It starts with a letter. -/
def directionFits (label : List Char) : Bool :=
  match label with
  | [] => true
  | first :: tail =>
    let isMark (c : Char) : Bool := Text.direction c == .mark
    let last := (tail.reverse.dropWhile isMark).headD first
    match Text.direction first with
    | .left => fitsRightward tail last
    | .right => fitsLeftward tail last
    | _ => false

/-! ## Labels -/

/-- A label as it is read and as it is written in ASCII. -/
structure Label where
  text : List Char
  ascii : List Char
deriving DecidableEq, Repr

/-- What stands before Punycode. -/
def punycodeMark : List Char := ['x', 'n', '-', '-']

/-- The most characters that a label has before it is written in Punycode. -/
def longest : Nat := 1000

/-- The most characters of Punycode that a label has. -/
def longestPunycode : Nat := 2000

/-- Whether a label may stand in a name, apart from the rules of direction. -/
def isLabel (text : List Char) : Bool :=
  !((text.head?.map Text.isMark).getD false) && joinersFit [] text &&
    (text.all (·.toNat < 0x80) || text.length ≤ longest)

/-- Reads the label of Punycode. No label ends with the hyphen that goes before the digits. -/
def readPunycode? (digits : List Char) : Option (List Char) :=
  if digits.isEmpty ∨ digits.getLast? = some '-' ∨ longestPunycode < digits.length then none
  else
    (Text.Punycode.decode? digits).filter fun text => isSettled text && !text.contains '.'

/-- Reads a label. -/
def readLabel? (label : List Char) : Option Label :=
  if punycodeMark.isPrefixOf label then
    ((readPunycode? (label.drop punycodeMark.length)).filter isLabel).map (⟨·, label⟩)
  else if !isLabel label then none
  else if label.all (·.toNat < 0x80) then some ⟨label, label⟩
  else some ⟨label, punycodeMark ++ Text.Punycode.encode label⟩

/-- No mark stands before U+0300. -/
theorem markRanges_late : Text.markRanges.all (fun r => 0x300 ≤ r.1) = true := by
  decide +kernel

theorem isMark_of_lt {c : Char} (h : c.toNat < 0x300) : Text.isMark c = false := by
  rw [Text.isMark, List.any_eq_false]
  intro r hr
  have := List.all_eq_true.mp markRanges_late r hr
  simp at this ⊢
  omega

theorem joinersFit_of_ascii {label : List Char} (h : ∀ c ∈ label, c.toNat < 0x80)
    (before : List Char) : joinersFit before label = true := by
  induction label generalizing before with
  | nil => rfl
  | cons c label ih =>
    have hc : c.toNat < 0x80 := h c (by simp)
    have parts : (c == '\u200C') = false := beq_false_of_ne fun e => by
      rw [e] at hc
      exact absurd hc (by decide)
    have joins : (c == '\u200D') = false := beq_false_of_ne fun e => by
      rw [e] at hc
      exact absurd hc (by decide)
    simp [joinersFit, parts, joins, ih fun d hd => h d (by simp [hd])]

/-- A label of ASCII that does not start with `xn--` stays as it is. -/
theorem readLabel?_of_ascii {label : List Char} (h : ∀ c ∈ label, c.toNat < 0x80)
    (plain : punycodeMark.isPrefixOf label = false) : readLabel? label = some ⟨label, label⟩ := by
  have ascii : label.all (·.toNat < 0x80) = true := by simpa using h
  have start : (label.head?.map Text.isMark).getD false = false := by
    cases label with
    | nil => rfl
    | cons c label => exact isMark_of_lt (Nat.lt_trans (h c (by simp)) (by decide))
  simp [readLabel?, plain, isLabel, ascii, start, joinersFit_of_ascii h]

/-! ## Names -/

/-- Whether labels can stand together in a name. -/
def isName (labels : List Label) : Bool :=
  labels.all (fun l => !l.text.any isForbidden) &&
    (!labels.any (fun l => l.text.any turns) || labels.all (directionFits ·.text))

/-- The name in ASCII of a domain. -/
def ascii? (name : List Char) : Option (List Char) := do
  let folded ← foldAll? name
  let labels ← ((Text.normalForm folded).splitOn '.').mapM readLabel?
  if isName labels then some (['.'].intercalate (labels.map (·.ascii))) else none

end Dialogue.Http.Domain
