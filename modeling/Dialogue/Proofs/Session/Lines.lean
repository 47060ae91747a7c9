import Dialogue.Proofs.Text.Utf8
import Dialogue.Session
import Mathlib.Data.List.Basic

/-!
# Lines of octets

The lines of an input, said by what octets are made of: a line is followed by a line feed, or by a
carriage return and a line feed, and what stands after the last line feed is a line too if the input
ends there. A line is a text exactly if its octets are the octets of characters.

Main statements: `split_eq_map` (the lines that are read are the lines that octets are made of) and
`ofOctets_eq_text_iff`.
-/

namespace Dialogue.Line

/-! ## The octets of lines -/

/-- Octets are made of lines, here without their ends. -/
inductive Spells : List Nat → List (List Nat) → Prop where
  | nil : Spells [] []
  /-- A line at the end of the input that nothing ends. -/
  | last {line : List Nat} : line ≠ [] → 0x0A ∉ line → Spells line [line]
  | feed {line octets : List Nat} {lines : List (List Nat)} : 0x0A ∉ line →
      line.getLast? ≠ some 0x0D → Spells octets lines →
      Spells (line ++ 0x0A :: octets) (line :: lines)
  | returnFeed {line octets : List Nat} {lines : List (List Nat)} : 0x0A ∉ line →
      Spells octets lines → Spells (line ++ 0x0D :: 0x0A :: octets) (line :: lines)

/-- The lines of octets without their ends. -/
def bodies (octets : List Nat) : List (List Nat) :=
  let pieces := octets.splitOn 0x0A
  let last := pieces.getLast?.getD []
  pieces.dropLast.map dropReturn ++ if last.isEmpty then [] else [last]

theorem split_eq_map_bodies (octets : List Nat) :
    split false octets = (bodies octets).map ofOctets := by
  simp only [split, bodies, Bool.false_eq_true, false_or]
  split
  all_goals simp [Function.comp_def]

theorem bodies_of_not_mem {line : List Nat} (h : 0x0A ∉ line) :
    bodies line = if line.isEmpty then [] else [line] := by
  simp only [bodies, List.splitOn_eq_singleton h, List.dropLast_singleton, List.map_nil,
    List.nil_append, List.getLast?_singleton, Option.getD_some]

/-- The first line feed ends the first line. -/
theorem bodies_append {line : List Nat} (h : 0x0A ∉ line) (octets : List Nat) :
    bodies (line ++ 0x0A :: octets) = dropReturn line :: bodies octets := by
  have hne := List.splitOn_ne_nil 0x0A octets
  simp only [bodies, List.splitOn_append_cons_self_of_not_mem h, List.dropLast_cons_of_ne_nil hne,
    List.map_cons, List.cons_append, List.getLast?_cons_of_ne_nil hne]

theorem dropReturn_of_ne {line : List Nat} (h : line.getLast? ≠ some 0x0D) :
    dropReturn line = line :=
  if_neg h

theorem dropReturn_append (line : List Nat) : dropReturn (line ++ [0x0D]) = line := by
  rw [dropReturn, if_pos List.getLast?_concat, List.dropLast_concat]

/-- A line that a line feed ends, with the carriage return before it or not. -/
theorem Spells.cons {line : List Nat} (h : 0x0A ∉ line) {octets : List Nat}
    {lines : List (List Nat)} (hlines : Spells octets lines) :
    Spells (line ++ 0x0A :: octets) (dropReturn line :: lines) := by
  by_cases hreturn : line.getLast? = some 0x0D
  · obtain ⟨body, rfl⟩ := List.getLast?_eq_some_iff.mp hreturn
    rw [dropReturn_append, List.append_assoc]
    exact .returnFeed (fun hmem => h (List.mem_append_left _ hmem)) hlines
  · rw [dropReturn_of_ne hreturn]
    exact .feed h hreturn hlines

/-- Octets are made of one list of lines. -/
theorem spells_iff {octets : List Nat} {lines : List (List Nat)} :
    Spells octets lines ↔ lines = bodies octets := by
  constructor
  · intro h
    induction h with
    | nil => rfl
    | last hne hfeed =>
      rw [bodies_of_not_mem hfeed, if_neg]
      simpa using hne
    | feed hfeed hreturn _ ih => rw [bodies_append hfeed, dropReturn_of_ne hreturn, ← ih]
    | @returnFeed line octets _ hfeed _ ih =>
      have hfeed' : 0x0A ∉ line ++ [0x0D] := by simpa using hfeed
      rw [List.append_cons, bodies_append hfeed', dropReturn_append, ← ih]
  · rintro rfl
    -- The induction is on the number of octets: the first line feed leaves fewer of them.
    induction hlength : octets.length using Nat.strongRecOn generalizing octets with
    | ind n ih =>
      by_cases hfeed : 0x0A ∈ octets
      · obtain ⟨line, rest, rfl, hline⟩ := List.eq_append_cons_of_mem hfeed
        rw [bodies_append hline]
        refine .cons hline (ih rest.length ?_ rfl)
        simp only [List.length_append, List.length_cons] at hlength
        omega
      · rw [bodies_of_not_mem hfeed]
        cases octets with
        | nil => exact .nil
        | cons octet rest => exact .last (List.cons_ne_nil _ _) hfeed

/-- **Lines.** The lines that are read off an input that ends are those that its octets are made
of. -/
theorem split_eq_map {octets : List Nat} {lines : List (List Nat)} (h : Spells octets lines) :
    split false octets = lines.map ofOctets := by
  rw [split_eq_map_bodies, spells_iff.mp h]

/-! ## Texts -/

/-- The octets of a text. -/
def octetsOf (s : String) : List Nat :=
  Text.Utf8.encode s.toList

/-- A text of which all characters are white space. -/
def Blank (s : String) : Prop :=
  ∀ c ∈ s.toList, Text.isBlank c = true

theorem blank_iff {s : String} : (Text.trim s.toList).isEmpty = true ↔ Blank s := by
  rw [List.isEmpty_iff, Text.trim_eq_nil_iff]
  rfl

theorem ofOctets_eq_text_iff {octets : List Nat} {s : String} :
    ofOctets octets = .text s ↔ octets = octetsOf s := by
  unfold ofOctets octetsOf
  split
  · next cs hcs =>
    constructor
    · rintro ⟨⟩
      rw [String.toList_ofList]
      exact (Text.Utf8.decode?_eq_some_iff.mp hcs).symm
    · rintro rfl
      rw [Text.Utf8.decode?_eq_some_iff.mpr rfl] at hcs
      rw [← Option.some.inj hcs, String.ofList_toList]
  · next hnone =>
    constructor
    · exact nofun
    · rintro rfl
      exact absurd rfl (Text.Utf8.decode?_eq_none_iff.mp hnone s.toList)

theorem ofOctets_eq_unreadable_iff {octets : List Nat} :
    ofOctets octets = .unreadable ↔ ∀ s, octets ≠ octetsOf s := by
  constructor
  · intro h s hs
    rw [ofOctets_eq_text_iff.mpr hs] at h
    cases h
  · intro h
    cases hline : ofOctets octets with
    | unreadable => rfl
    | text s => exact absurd (ofOctets_eq_text_iff.mp hline) (h s)

end Dialogue.Line
