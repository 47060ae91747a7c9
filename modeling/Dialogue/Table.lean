/-!
# Tables

A table holds values under names, in ascending order of the names and each name once. A table is a
list of entries; `Ascending` says that a list is in this form, and `insert` keeps it.

Main statements: `lookup_insert_self` and `lookup_insert_of_ne` (inserting an entry changes that
name only), `ascending_insert` (insertion keeps the entries in ascending order),
`lookup_foldl_insert` (of entries inserted one after another, the last of a name wins),
`ofList_of_ascending` (entries in ascending order are their own table), and
`Ascending.mem_iff_lookup` (what stands in a table is what is found in it).
-/

namespace Dialogue

/-- Values under names. -/
abbrev Table (α : Type) := List (String × α)

namespace Table

variable {α : Type}

/-- Puts an entry at its place, in the place of an earlier entry of that name. -/
def insert (name : String) (value : α) : Table α → Table α
  | [] => [(name, value)]
  | (k, v) :: rest =>
    if name < k then (name, value) :: (k, v) :: rest
    else if name = k then (name, value) :: rest
    else (k, v) :: insert name value rest

/-- The value of a name. -/
def lookup (name : String) : Table α → Option α
  | [] => none
  | (k, v) :: rest => if k = name then some v else lookup name rest

/-- Entries with strictly ascending names. -/
def Ascending (ms : Table α) : Prop :=
  (ms.map (·.1)).Pairwise (· < ·)

/-- Each entry has a name of its own. -/
theorem Ascending.nodup {ms : Table α} (h : Ascending ms) : (ms.map (·.1)).Nodup := by
  refine h.imp ?_
  rintro name _ hlt rfl
  exact String.lt_irrefl name hlt

theorem lookup_insert_self (name : String) (value : α) (ms : Table α) :
    lookup name (insert name value ms) = some value := by
  induction ms with
  | nil => simp [insert, lookup]
  | cons kv rest ih =>
    obtain ⟨k, v⟩ := kv
    by_cases h1 : name < k
    · simp [insert, lookup, h1]
    · by_cases h2 : name = k
      · simp [insert, lookup, h2]
      · simp [insert, lookup, h1, h2, Ne.symm h2, ih]

theorem lookup_insert_of_ne {name other : String} (value : α) (ms : Table α)
    (h : other ≠ name) : lookup other (insert name value ms) = lookup other ms := by
  induction ms with
  | nil => simp [insert, lookup, Ne.symm h]
  | cons kv rest ih =>
    obtain ⟨k, v⟩ := kv
    by_cases h1 : name < k
    · simp [insert, lookup, h1, Ne.symm h]
    · by_cases h2 : name = k
      · subst h2
        simp [insert, lookup, Ne.symm h]
      · simp [insert, lookup, h1, h2, ih]

/-- A name without a value is not among the names. -/
theorem lookup_eq_none_iff {name : String} {ms : Table α} :
    lookup name ms = none ↔ name ∉ ms.map (·.1) := by
  induction ms with
  | nil => simp [lookup]
  | cons kv rest ih =>
    obtain ⟨k, v⟩ := kv
    by_cases h : k = name
    · simp [lookup, h]
    · simp [lookup, h, Ne.symm h, ih]

/-- The last entry of a name wins: inserting entries one after another gives each name the value
it has last, and leaves the others. -/
theorem lookup_foldl_insert (name : String) (entries start : Table α) :
    lookup name (entries.foldl (fun ms (k, v) => insert k v ms) start) =
      ((entries.reverse.find? (·.1 == name)).map (·.2)).or (lookup name start) := by
  induction entries generalizing start with
  | nil => simp
  | cons kv rest ih =>
    obtain ⟨k, v⟩ := kv
    rw [List.foldl_cons, ih, List.reverse_cons, List.find?_append]
    cases hf : rest.reverse.find? (·.1 == name) with
    | some w => simp
    | none =>
      by_cases hk : k = name
      · subst hk
        simp [lookup_insert_self]
      · simp [hk, lookup_insert_of_ne _ _ (Ne.symm hk)]

theorem mem_insert {name : String} {value : α} {ms : Table α} {k : String}
    (h : k ∈ (insert name value ms).map (·.1)) : k = name ∨ k ∈ ms.map (·.1) := by
  induction ms with
  | nil => simpa [insert] using h
  | cons kv rest ih =>
    obtain ⟨j, v⟩ := kv
    unfold insert at h
    split at h
    · simpa using h
    · split at h
      · simp at h ⊢
        rcases h with h | h
        · exact .inl h
        · exact .inr (.inr h)
      · simp only [List.map_cons, List.mem_cons] at h ⊢
        rcases h with h | h
        · exact .inr (.inl h)
        · rcases ih h with h | h
          · exact .inl h
          · exact .inr (.inr h)

/-- Insertion keeps the members in ascending order. -/
theorem ascending_insert (name : String) (value : α) {ms : Table α} (h : Ascending ms) :
    Ascending (insert name value ms) := by
  induction ms with
  | nil => simp [Ascending, insert]
  | cons kv rest ih =>
    obtain ⟨k, v⟩ := kv
    have hrest : Ascending rest := (List.pairwise_cons.1 h).2
    have hk : ∀ j ∈ rest.map (·.1), k < j := (List.pairwise_cons.1 h).1
    unfold insert
    split
    · next hlt =>
      refine List.pairwise_cons.2 ⟨fun j hj => ?_, h⟩
      rcases List.mem_cons.1 hj with rfl | hj
      · exact hlt
      · exact String.lt_trans hlt (hk j hj)
    · split
      · next heq =>
        subst heq
        exact List.pairwise_cons.2 ⟨hk, hrest⟩
      · next hlt hne =>
        refine List.pairwise_cons.2 ⟨fun j hj => ?_, ih hrest⟩
        rcases mem_insert hj with rfl | hj
        · rcases String.le_total j k with hle | hle
          · exact absurd (String.le_antisymm hle (String.not_lt.1 hlt)) hne
          · exact String.not_le.1 fun h' => hne (String.le_antisymm h' hle)
        · exact hk j hj

/-- The table of entries given in any order; the last entry of a name wins. -/
def ofList (entries : List (String × α)) : Table α :=
  entries.foldl (fun ms (k, v) => insert k v ms) []

/-- A table made of entries has for each name the value that it has last. -/
theorem lookup_ofList (name : String) (entries : Table α) :
    lookup name (ofList entries) = (entries.reverse.find? (·.1 == name)).map (·.2) := by
  rw [ofList, lookup_foldl_insert]
  simp [lookup]

/-- Its names are in order. -/
theorem ascending_ofList (entries : Table α) : Ascending (ofList entries) := by
  have hfold (ms : Table α) (h : Ascending ms) :
      Ascending (entries.foldl (fun ms kv => insert kv.1 kv.2 ms) ms) := by
    induction entries generalizing ms with
    | nil => exact h
    | cons kv entries ih => exact ih _ (ascending_insert kv.1 kv.2 h)
  exact hfold [] List.Pairwise.nil

/-- In a table whose names are in order, the entries are what is found under their names. -/
theorem Ascending.mem_iff_lookup {ms : Table α} (h : Ascending ms) {name : String} {value : α} :
    (name, value) ∈ ms ↔ lookup name ms = some value := by
  induction ms with
  | nil => simp [lookup]
  | cons kv rest ih =>
    obtain ⟨k, v⟩ := kv
    obtain ⟨hk, hrest⟩ := List.pairwise_cons.1 h
    rw [List.mem_cons, ih hrest, lookup]
    split
    · next heq =>
      subst heq
      have hnone : lookup k rest = none :=
        lookup_eq_none_iff.2 fun hmem => String.lt_irrefl k (hk k hmem)
      simp [hnone, eq_comm]
    · next hne => simp [Ne.symm hne]

/-- An entry whose name comes after all names is put at the end. -/
theorem insert_of_forall_lt {name : String} {value : α} {ms : Table α}
    (h : ∀ k ∈ ms.map (·.1), k < name) : insert name value ms = ms ++ [(name, value)] := by
  induction ms with
  | nil => rfl
  | cons kv rest ih =>
    obtain ⟨k, v⟩ := kv
    have hlt : k < name := h k (by simp)
    have hrest := ih fun j hj => h j (List.mem_cons_of_mem _ hj)
    have hnotlt : ¬ name < k := fun hgt => String.lt_irrefl k (String.lt_trans hlt hgt)
    have hne : name ≠ k := fun heq => String.lt_irrefl k (heq ▸ hlt)
    simp only [insert, if_neg hnotlt, if_neg hne, hrest, List.cons_append]

/-- Entries that stand in ascending order are a table. -/
theorem ofList_of_ascending {ms : Table α} (h : Ascending ms) : ofList ms = ms := by
  -- The entries that are already in the table stand before those that are still to come.
  have hfold (done todo : Table α) (hall : Ascending (done ++ todo)) :
      todo.foldl (fun ms kv => insert kv.1 kv.2 ms) done = done ++ todo := by
    induction todo generalizing done with
    | nil => simp
    | cons kv todo ih =>
      obtain ⟨k, v⟩ := kv
      have hdone : ∀ j ∈ done.map (·.1), j < k := by
        rw [Ascending, List.map_append, List.pairwise_append] at hall
        exact fun j hj => hall.2.2 j hj k (by simp)
      rw [List.foldl_cons, insert_of_forall_lt hdone, ih _ (by simpa using hall),
        List.append_assoc, List.singleton_append]
  exact hfold [] ms h

end Table

end Dialogue
