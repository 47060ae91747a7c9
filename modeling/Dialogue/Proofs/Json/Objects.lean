import Dialogue.Proofs.Json.Records

/-!
# Objects that are written and read again

An object is written from members some of which may be missing, and read by the names of its fields.
`Record.Takes` says what a reader of fields makes of the members that an object is written from;
what is known of the fields one by one is put together as the reader is.

Main statement: `Record.Takes.decoder_eq`.
-/

namespace Dialogue

/-! ## Members that may be missing -/

namespace Table

variable {α β : Type}

@[simp]
theorem lookup_ofList_nil (name : String) : lookup name (ofList ([] : Table α)) = none :=
  rfl

@[simp]
theorem lookup_ofList_cons (name : String) (kv : String × α) (ms : Table α) :
    lookup name (ofList (kv :: ms)) =
      (lookup name (ofList ms)).or (if kv.1 = name then some kv.2 else none) := by
  simp only [lookup_ofList, List.reverse_cons, List.find?_append, List.find?_singleton, beq_iff_eq,
    Option.map_or]
  split <;> rfl

@[simp]
theorem lookup_ofList_append (name : String) (ms ns : Table α) :
    lookup name (ofList (ms ++ ns)) =
      (lookup name (ofList ns)).or (lookup name (ofList ms)) := by
  simp only [lookup_ofList, List.reverse_append, List.find?_append, Option.map_or]

/-- Members that are missing under a condition. -/
@[simp]
theorem lookup_ofList_ite (name : String) (p : Prop) [Decidable p] (ms : Table α) :
    lookup name (ofList (if p then [] else ms)) =
      if p then none else lookup name (ofList ms) := by
  split <;> rfl

/-- A member that is missing if a value is. -/
@[simp]
theorem lookup_ofList_toList (name k : String) (f : β → α) (o : Option β) :
    lookup name (ofList (o.toList.map fun x => (k, f x))) =
      if k = name then o.map f else none := by
  cases o with
  | none => split <;> rfl
  | some x => simp

/-- A member that is missing if its value is. -/
@[simp]
theorem lookup_ofList_toList_self (name k : String) (o : Option α) :
    lookup name (ofList (o.toList.map fun x => (k, x))) = if k = name then o else none := by
  cases o with
  | none => split <;> rfl
  | some x => simp

end Table

namespace Json

variable {α β : Type}

theorem nullable_of_ne_null {d : Decoder α} {v : Json} (h : v ≠ .null) :
    Decoder.nullable d v = (d v).map some := by
  cases v with
  | null => exact absurd rfl h
  | _ => rfl

/-! ## Lists -/

/-- What is written item by item is read item by item. -/
theorem list_arr_map {d : Decoder β} {f : α → Json} {g : α → β} {xs : List α}
    (h : ∀ x ∈ xs, d (f x) = .ok (g x)) : Decoder.list d (.arr (xs.map f)) = .ok (xs.map g) := by
  induction xs with
  | nil => rfl
  | cons x xs ih =>
    have hx := h x (List.mem_cons_self ..)
    have hxs := ih fun y hy => h y (List.mem_cons_of_mem _ hy)
    exact list_eq_ok_cons_iff.mpr ⟨f x, xs.map f, rfl, hx, hxs⟩

/-! ## Readers of fields -/

namespace Record

variable {ms : Members} {name : String} {d : Decoder α} {a : α}

/-- The reader reads `a` from the object that is written from the members. -/
def Takes (r : Record α) (ms : Members) (a : α) : Prop :=
  r.fromFields (Table.ofList ms) = .ok a

theorem Takes.seq {f : Record (α → β)} {r : Record α} {g : α → β} (hf : f.Takes ms g)
    (hr : r.Takes ms a) : (f <*> r).Takes ms (g a) :=
  (fromFields_seq_eq_ok_iff _).mpr ⟨g, a, hf, hr, rfl⟩

theorem Takes.map {r : Record α} (hr : r.Takes ms a) (f : α → β) : (f <$> r).Takes ms (f a) :=
  Takes.seq (f := Record.pure f) rfl hr

/-- A field that stands there. -/
theorem takes_of_some {absent short : Option α} {v : Json}
    (hv : Table.lookup name (Table.ofList ms) = some v) (ha : d v = .ok a) :
    (field name d absent short).Takes ms a :=
  (fromFields_field_eq_ok_iff _).mpr (hv ▸ ha)

/-- A field that does not. -/
theorem takes_of_none {short : Option α}
    (h : Table.lookup name (Table.ofList ms) = none) : (field name d (some a) short).Takes ms a :=
  (fromFields_field_eq_ok_iff _).mpr (h ▸ rfl)

/-- A field that is written if there is a value for it. -/
theorem takes_of_map {short : Option (Option α)} {f : α → Json} {o : Option α}
    (h : Table.lookup name (Table.ofList ms) = o.map f) (hf : ∀ a, f a ≠ .null)
    (hd : ∀ a, d (f a) = .ok a) :
    (field name (Decoder.nullable d) (some none) short).Takes ms o := by
  cases o with
  | none => exact takes_of_none h
  | some a =>
    refine takes_of_some h ?_
    rw [nullable_of_ne_null (hf a), hd]
    rfl

/-- **Writing and reading.** A record is read from the object of members if its fields are. -/
theorem Takes.decoder_eq {r : Record α} (h : r.Takes ms a) (shape : String) (count : Nat) :
    decoder shape count r (object ms) = .ok a :=
  mapError_eq_ok_iff.mpr h

end Record

end Json

end Dialogue
