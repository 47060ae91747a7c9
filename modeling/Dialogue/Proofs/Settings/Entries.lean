import Dialogue.Settings.Basic
import Mathlib.Data.List.Basic

/-!
# What entries set

Settings are read from names and values in any order. Of the entries whose names are the same but
for the case of the letters A to Z, only the last one counts; `last?` is what it says, and `given?`
is that without the blanks around it, or nothing if it is blank. Here it is shown that the
variables made of the entries hold nothing else.

Main statements: `value?_ofList`, and `readServers_cases` (what is read of the variables for tool
servers).
-/

namespace Dialogue.Settings

variable {entries : List (String × String)} {key name server value v : String}

/-- What the last entry of a name says. The name is given in small letters, and the case of the
names of the entries does not matter. -/
def last? (entries : List (String × String)) (key : String) : Option String :=
  (entries.reverse.find? (Variables.fold ·.1 == key)).map (·.2)

/-- The trimmed value that entries give a name, if it is not blank. -/
def given? (entries : List (String × String)) (name : String) : Option String :=
  ((last? entries (Variables.fold name)).map Text.trimmed).filter (· ≠ "")

theorem lookup_ofList (entries : List (String × String)) (key : String) :
    Table.lookup key (Variables.ofList entries) = last? entries key := by
  rw [Variables.ofList, Table.lookup_ofList, ← List.map_reverse, List.find?_map, Option.map_map]
  rfl

/-- The variables made of entries have the values that the entries give. -/
theorem value?_ofList (entries : List (String × String)) (name : String) :
    (Variables.ofList entries).value? name = given? entries name := by
  rw [Variables.value?, lookup_ofList, given?]

theorem mem_ofList_iff :
    (key, value) ∈ Variables.ofList entries ↔ last? entries key = some value := by
  rw [← lookup_ofList]
  exact (Table.ascending_ofList _).mem_iff_lookup

theorem given?_eq_some_iff :
    given? entries name = some v ↔
      ∃ value, last? entries (Variables.fold name) = some value ∧ v = Text.trimmed value ∧
        v ≠ "" := by
  rw [given?, Option.filter_eq_some_iff, Option.map_eq_some_iff]
  simp only [decide_eq_true_eq]
  constructor
  · rintro ⟨⟨value, hvalue, rfl⟩, hne⟩
    exact ⟨value, hvalue, rfl, hne⟩
  · rintro ⟨value, hvalue, rfl, hne⟩
    exact ⟨⟨value, hvalue, rfl⟩, hne⟩

/-- What is left of a text without the blanks around it does not end with a blank. -/
theorem exists_not_blank_of_trim {cs : List Char} (h : Text.trim cs ≠ []) :
    ∃ c ∈ Text.trim cs, Text.isBlank c = false := by
  have hne : (Text.trimStart cs).reverse.dropWhile Text.isBlank ≠ [] := by
    simpa [Text.trim, Text.trimEnd] using h
  obtain ⟨c, rest, hdrop⟩ := List.exists_cons_of_ne_nil hne
  refine ⟨c, ?_, ?_⟩
  · rw [Text.trim, Text.trimEnd, List.mem_reverse, hdrop]
    exact List.mem_cons_self ..
  · have hfirst := List.head?_dropWhile_not Text.isBlank (Text.trimStart cs).reverse
    rw [hdrop] at hfirst
    simpa using hfirst

/-- A value that is given is not blank. -/
theorem exists_not_blank (h : given? entries name = some v) :
    ∃ c ∈ v.toList, Text.isBlank c = false := by
  obtain ⟨value, -, rfl, hne⟩ := given?_eq_some_iff.mp h
  rw [Text.trimmed, String.toList_ofList]
  refine exists_not_blank_of_trim fun hnil => hne ?_
  rw [Text.trimmed, hnil]

/-! ## Tool servers -/

/-- The name after a mark is what follows the mark. -/
theorem afterMark?_eq_some_iff {mark : String} :
    afterMark? mark name = some server ↔ name = mark ++ server := by
  unfold afterMark?
  constructor
  · intro h
    split at h
    · next hmark =>
      obtain ⟨rest, hrest⟩ := List.isPrefixOf_iff_prefix.mp hmark
      obtain rfl := Option.some.inj h
      rw [← String.toList_inj, String.toList_append, String.toList_ofList, ← hrest,
        ← String.length_toList, List.drop_left]
    · cases h
  · rintro rfl
    rw [if_pos (List.isPrefixOf_iff_prefix.mpr ⟨server.toList, by rw [String.toList_append]⟩),
      String.toList_append, ← String.length_toList, List.drop_left, String.ofList_toList]

theorem lt_of_append_left_lt {front cs ds : List Char} (h : front ++ cs < front ++ ds) :
    cs < ds := by
  induction front with
  | nil => exact h
  | cons c front ih =>
    rw [List.cons_append, List.cons_append, List.cons_lt_cons_iff] at h
    rcases h with h | ⟨-, h⟩
    · exact absurd h (Char.lt_irrefl c)
    · exact ih h

/-- Names after a mark are in the order of the whole names. -/
theorem lt_of_mark_append_lt {mark a b : String} (h : mark ++ a < mark ++ b) : a < b := by
  rw [String.lt_iff, String.toList_append, String.toList_append] at h
  exact String.lt_iff.mpr (lt_of_append_left_lt h)

/-- The tool server that a variable stands for, if it is one of those variables. -/
def serverOf? (kv : String × String) : Option (String × String) :=
  (afterMark? serverMark kv.1).map (·, Text.trimmed kv.2)

/-- A variable of a tool server without a name or without an address. -/
def Faulty (kv : String × String) : Prop :=
  ∃ server, kv.1 = serverMark ++ server ∧ (server = "" ∨ Text.trimmed kv.2 = "")

/-- Variables of tool servers are read if none of them is faulty; else one that is faulty is
reported. -/
theorem readServers_cases (vars : Variables) :
    ((∀ kv ∈ vars, ¬ Faulty kv) ∧ readServers vars = .ok (vars.filterMap serverOf?)) ∨
    ∃ kv ∈ vars, Faulty kv ∧
      readServers vars = broken (Variables.capitals kv.1 ++ " needs a server name and a URL") := by
  induction vars with
  | nil => exact .inl ⟨List.forall_mem_nil _, rfl⟩
  | cons kv rest ih =>
    obtain ⟨name, value⟩ := kv
    rw [List.forall_mem_cons, List.exists_mem_cons_iff, readServers]
    rcases hmark : afterMark? serverMark name with _ | server
    · -- A variable that is not for tool servers is passed over.
      have hfine : ¬ Faulty (name, value) := by
        rintro ⟨server, hname, -⟩
        cases hmark.symm.trans (afterMark?_eq_some_iff.mpr hname)
      have hnone : serverOf? (name, value) = none := by rw [serverOf?, hmark, Option.map_none]
      rw [List.filterMap_cons_none hnone]
      rcases ih with ⟨hrest, hread⟩ | hbad
      · exact .inl ⟨⟨hfine, hrest⟩, hread⟩
      · exact .inr (.inr hbad)
    · have hname := afterMark?_eq_some_iff.mp hmark
      have hsome : serverOf? (name, value) = some (server, Text.trimmed value) := by
        rw [serverOf?, hmark, Option.map_some]
      rw [List.filterMap_cons_some hsome]
      by_cases hbad : server = "" ∨ Text.trimmed value = ""
      · exact .inr (.inl ⟨⟨server, hname, hbad⟩, if_pos hbad⟩)
      · have hfine : ¬ Faulty (name, value) := by
          rintro ⟨other, hother, hbad'⟩
          obtain rfl : server = other := Option.some.inj
            (hmark.symm.trans (afterMark?_eq_some_iff.mpr hother))
          exact hbad hbad'
        simp only [if_neg hbad]
        rcases ih with ⟨hrest, hread⟩ | ⟨kv, hkv, hfaulty, hread⟩
        · exact .inl ⟨⟨hfine, hrest⟩, by rw [hread]; rfl⟩
        · exact .inr (.inr ⟨kv, hkv, hfaulty, by rw [hread]; rfl⟩)

theorem serverOf?_eq_some_iff {kv : String × String} {url : String} :
    serverOf? kv = some (server, url) ↔
      kv.1 = serverMark ++ server ∧ url = Text.trimmed kv.2 := by
  rw [serverOf?, Option.map_eq_some_iff]
  simp only [Prod.mk.injEq, afterMark?_eq_some_iff]
  constructor
  · rintro ⟨_, hname, rfl, rfl⟩
    exact ⟨hname, rfl⟩
  · rintro ⟨hname, rfl⟩
    exact ⟨server, hname, rfl, rfl⟩

/-- The tool servers that are read have the trimmed values of their variables. -/
theorem mem_servers_iff {url : String} :
    (server, url) ∈ (Variables.ofList entries).filterMap serverOf? ↔
      ∃ value, last? entries (serverMark ++ server) = some value ∧ url = Text.trimmed value := by
  simp only [List.mem_filterMap, Prod.exists, serverOf?_eq_some_iff, mem_ofList_iff]
  constructor
  · rintro ⟨_, value, hvalue, rfl, rfl⟩
    exact ⟨value, hvalue, rfl⟩
  · rintro ⟨value, hvalue, rfl⟩
    exact ⟨_, value, hvalue, rfl, rfl⟩

/-- They stand in the order of their names. -/
theorem ascending_servers {vars : Variables} (h : Table.Ascending vars) :
    Table.Ascending (vars.filterMap serverOf?) := by
  rw [Table.Ascending, List.pairwise_map] at h ⊢
  refine List.pairwise_filterMap.mpr (h.imp ?_)
  rintro ⟨name, value⟩ ⟨name', value'⟩ hlt ⟨a, u⟩ ha ⟨b, u'⟩ hb
  obtain ⟨rfl, -⟩ := serverOf?_eq_some_iff.mp ha
  obtain ⟨rfl, -⟩ := serverOf?_eq_some_iff.mp hb
  exact lt_of_mark_append_lt hlt

end Dialogue.Settings
