import Dialogue.Json.Decode

/-!
# Which values make a record

A record is read from an object by the names of its fields or from an array by their places. What is
said about a record should not be said twice, so both kinds of values are seen as one: `fieldAt`
gives what stands for the field of a name and a place, and `Record.Reads` says of a reader of fields
when it succeeds, in terms of what stands for its fields. Readers are put together, and so is what
is known of them.

Main statement: `Record.Reads.decoder_eq_ok_iff`. A value of which one field was set gives the other
fields as before (`fieldAt_setField_of_ne`).
-/

namespace Dialogue.Json

/-! ## Success -/

section

variable {ε ε' α β : Type}

theorem bind_eq_ok_iff {x : Except ε α} {f : α → Except ε β} {b : β} :
    (x >>= f) = .ok b ↔ ∃ a, x = .ok a ∧ f a = .ok b := by
  rcases x with e | a
  · exact ⟨fun h => (nomatch h), fun ⟨_, h, _⟩ => (nomatch h)⟩
  · exact ⟨fun h => ⟨a, rfl, h⟩, fun ⟨_, rfl, h⟩ => h⟩

theorem map_eq_ok_iff {x : Except ε α} {f : α → β} {b : β} :
    x.map f = .ok b ↔ ∃ a, x = .ok a ∧ f a = b := by
  rcases x with e | a
  · exact ⟨fun h => (nomatch h), fun ⟨_, h, _⟩ => (nomatch h)⟩
  · exact ⟨fun h => ⟨a, rfl, Except.ok.inj h⟩, fun ⟨_, rfl, h⟩ => congrArg Except.ok h⟩

theorem mapError_eq_ok_iff {x : Except ε α} {f : ε → ε'} {a : α} :
    x.mapError f = .ok a ↔ x = .ok a := by
  rcases x with e | b
  · exact ⟨fun h => (nomatch h), fun h => (nomatch h)⟩
  · exact ⟨fun h => congrArg Except.ok (Except.ok.inj h),
      fun h => congrArg Except.ok (Except.ok.inj h)⟩

end

/-! ## Fields of a value -/

/-- What stands for the field of a name and a place. -/
def fieldAt : Json → (name : String) → (place : Nat) → Option Json
  | .obj ms, name, _ => Table.lookup name ms
  | .arr xs, _, place => xs[place]?
  | _, _, _ => none

/-- The value with another value for the field of a name and a place. -/
def setField : Json → (name : String) → (place : Nat) → (new : Json) → Json
  | .obj ms, name, _, new => .obj (Table.insert name new ms)
  | .arr xs, _, place, new => .arr (xs.set place new)
  | v, _, _, _ => v

/-- A value from which a record of so many fields may be read. -/
def IsRecord : Json → (count : Nat) → Prop
  | .obj _, _ => True
  | .arr xs, count => xs.length ≤ count
  | _, _ => False

@[simp]
theorem fieldAt_object (members : Members) (name : String) (place : Nat) :
    (object members).fieldAt name place =
      (members.reverse.find? (·.1 == name)).map (·.2) :=
  get?_object name members

@[simp]
theorem isRecord_object (members : Members) (count : Nat) : (object members).IsRecord count :=
  trivial

variable {name other : String} {place elsewhere : Nat} {new : Json}

/-- A field that stood there and was set has the new value. -/
theorem fieldAt_setField_self {v old : Json} (h : v.fieldAt name place = some old) :
    (v.setField name place new).fieldAt name place = some new := by
  cases v with
  | obj ms => exact Table.lookup_insert_self name new ms
  | arr xs =>
    obtain ⟨hlt, -⟩ := List.getElem?_eq_some_iff.mp h
    exact List.getElem?_set_self hlt
  | _ => cases h

/-- The other fields are as before. -/
theorem fieldAt_setField_of_ne (v : Json) (hname : other ≠ name) (hplace : elsewhere ≠ place) :
    (v.setField name place new).fieldAt other elsewhere = v.fieldAt other elsewhere := by
  cases v with
  | obj ms => exact Table.lookup_insert_of_ne new ms hname
  | arr xs => exact List.getElem?_set_ne hplace.symm
  | _ => rfl

theorem isRecord_setField {count : Nat} {v : Json} :
    (v.setField name place new).IsRecord count ↔ v.IsRecord count := by
  cases v with
  | arr xs => exact iff_of_eq (congrArg (· ≤ count) List.length_set)
  | _ => exact Iff.rfl

/-! ## Readers of fields -/

/-- What stands for a field, if anything does, is read as `a`; `absent` is the value of a field for
which nothing stands. -/
def FieldFits {α : Type} (d : Decoder α) (absent : Option α) (field : Option Json) (a : α) : Prop :=
  match field with
  | some v => d v = .ok a
  | none => absent = some a

@[simp]
theorem fieldFits_some {α : Type} {d : Decoder α} {absent : Option α} {v : Json} {a : α} :
    FieldFits d absent (some v) a ↔ d v = .ok a :=
  Iff.rfl

@[simp]
theorem fieldFits_none {α : Type} {d : Decoder α} {absent : Option α} {a : α} :
    FieldFits d absent none a ↔ absent = some a :=
  Iff.rfl

namespace Record

/-- The reader reads the fields from the place `start` up to the place `stop`, and gives `a` exactly
if `Fit get a`, where `get` gives what stands for a field. -/
structure Reads {α : Type} (r : Record α) (start stop : Nat)
    (Fit : (String → Nat → Option Json) → α → Prop) : Prop where
  fromFields (ms : Members) (a : α) :
    r.fromFields ms = .ok a ↔ Fit (fun name _ => Table.lookup name ms) a
  fromItems (shape : String) (xs : List Json) (p : α × ItemsLeft) :
    r.fromItems shape ⟨xs.drop start, start⟩ = .ok p ↔
      Fit (fun _ place => xs[place]?) p.1 ∧ p.2 = ⟨xs.drop stop, stop⟩

variable {α β : Type}

/-- A field is read from an object if what stands for it fits. -/
theorem fromFields_field_eq_ok_iff {name : String} {d : Decoder α} {absent short : Option α}
    (ms : Members) {a : α} :
    (field name d absent short).fromFields ms = .ok a ↔
      FieldFits d absent (Table.lookup name ms) a := by
  simp only [field, FieldFits]
  split
  · next v h => simp only [h, mapError_eq_ok_iff]
  · next b h => simp [h]
  · next h => simp [h]

/-- Some fields and then others are read from an object if both are. -/
theorem fromFields_seq_eq_ok_iff {f : Record (α → β)} {r : Record α} (ms : Members) {b : β} :
    (f.seq r).fromFields ms = .ok b ↔
      ∃ g a, f.fromFields ms = .ok g ∧ r.fromFields ms = .ok a ∧ g a = b := by
  simp only [Record.seq]
  rcases f.fromFields ms with e | g <;> rcases r.fromFields ms with e' | a <;> simp

/-- One field. -/
theorem reads_field (name : String) (d : Decoder α) (absent : Option α) (place : Nat) :
    (field name d absent absent).Reads place (place + 1)
      fun get => FieldFits d absent (get name place) where
  fromFields ms a := fromFields_field_eq_ok_iff ms
  fromItems shape xs p := by
    obtain ⟨a, left⟩ := p
    have hhead : xs[place]? = (xs.drop place).head? := List.head?_drop.symm
    have htail : xs.drop (place + 1) = (xs.drop place).tail := List.tail_drop.symm
    simp only [field, FieldFits, hhead, htail]
    split
    · next v rest h =>
      simp only [h, map_eq_ok_iff, List.head?_cons, List.tail_cons, Prod.mk.injEq]
      exact ⟨fun ⟨b, hb, hab, hleft⟩ => ⟨hab ▸ hb, hleft.symm⟩,
        fun ⟨ha, hleft⟩ => ⟨a, ha, rfl, hleft.symm⟩⟩
    · next b h => simp [h, eq_comm]
    · next h => simp [h]

/-- Some fields and then others. -/
theorem Reads.seq {f : Record (α → β)} {r : Record α} {start middle stop : Nat}
    {FitF : (String → Nat → Option Json) → (α → β) → Prop}
    {FitR : (String → Nat → Option Json) → α → Prop}
    (hf : f.Reads start middle FitF) (hr : r.Reads middle stop FitR) :
    (f.seq r).Reads start stop fun get b => ∃ g a, FitF get g ∧ FitR get a ∧ g a = b where
  fromFields ms b := by
    simp only [fromFields_seq_eq_ok_iff, hf.fromFields, hr.fromFields]
  fromItems shape xs p := by
    obtain ⟨b, left⟩ := p
    simp only [Record.seq, bind_eq_ok_iff, Prod.exists, hf.fromItems]
    constructor
    · rintro ⟨g, _, ⟨hg, rfl⟩, a, _, ha, ⟨⟩⟩
      obtain ⟨ha, rfl⟩ := (hr.fromItems shape xs _).mp ha
      exact ⟨⟨g, a, hg, ha, rfl⟩, rfl⟩
    · rintro ⟨⟨g, a, hg, ha, rfl⟩, rfl⟩
      exact ⟨g, _, ⟨hg, rfl⟩, a, _, (hr.fromItems shape xs (a, _)).mpr ⟨ha, rfl⟩, rfl⟩

/-- Nothing is read for what is there already. -/
theorem reads_pure (a : α) (place : Nat) :
    (Record.pure a).Reads place place fun _ b => a = b where
  fromFields ms b := by simp [Record.pure]
  fromItems shape xs p := by
    obtain ⟨b, left⟩ := p
    simp [Record.pure, eq_comm]

/-- **A record is read from a value** exactly if the value has the form of a record and what stands
for its fields fits. -/
theorem Reads.decoder_eq_ok_iff {r : Record α} {count : Nat}
    {Fit : (String → Nat → Option Json) → α → Prop} (hr : r.Reads 0 count Fit) (shape : String)
    (v : Json) (a : α) :
    decoder shape count r v = .ok a ↔ v.IsRecord count ∧ Fit v.fieldAt a := by
  cases v with
  | obj ms =>
    rw [decoder, mapError_eq_ok_iff, hr.fromFields]
    exact (and_iff_right trivial).symm
  | arr xs =>
    have hitems := hr.fromItems (shapeOf shape count) xs
    rw [List.drop_zero] at hitems
    simp only [decoder, bind_eq_ok_iff, hitems, Prod.exists]
    constructor
    · rintro ⟨b, _, ⟨hfit, rfl⟩, h⟩
      split at h
      · next hall =>
        cases h
        exact ⟨List.drop_eq_nil_iff.mp (List.isEmpty_iff.mp hall), hfit⟩
      · cases h
    · rintro ⟨hall, hfit⟩
      refine ⟨a, _, ⟨hfit, rfl⟩, if_pos ?_⟩
      exact List.isEmpty_iff.mpr (List.drop_eq_nil_iff.mpr hall)
  | _ => exact ⟨fun h => (nomatch h), fun h => h.1.elim⟩

/-- A record of two fields. -/
theorem decoder_two_eq_ok_iff {γ : Type} {a : Record α} {b : Record β}
    {FitA : (String → Nat → Option Json) → α → Prop}
    {FitB : (String → Nat → Option Json) → β → Prop}
    (ha : a.Reads 0 1 FitA) (hb : b.Reads 1 2 FitB) (f : α → β → γ) (shape : String) (v : Json)
    (c : γ) :
    decoder shape 2 (f <$> a <*> b) v = .ok c ↔
      v.IsRecord 2 ∧ ∃ x y, FitA v.fieldAt x ∧ FitB v.fieldAt y ∧ f x y = c := by
  refine ((((reads_pure f 0).seq ha).seq hb).decoder_eq_ok_iff shape v c).trans
    (and_congr_right fun _ => ?_)
  constructor
  · rintro ⟨_, y, ⟨_, x, rfl, hx, rfl⟩, hy, rfl⟩
    exact ⟨x, y, hx, hy, rfl⟩
  · rintro ⟨x, y, hx, hy, rfl⟩
    exact ⟨_, y, ⟨f, x, rfl, hx, rfl⟩, hy, rfl⟩

/-- A record of three fields. -/
theorem decoder_three_eq_ok_iff {γ δ : Type} {a : Record α} {b : Record β} {c : Record γ}
    {FitA : (String → Nat → Option Json) → α → Prop}
    {FitB : (String → Nat → Option Json) → β → Prop}
    {FitC : (String → Nat → Option Json) → γ → Prop}
    (ha : a.Reads 0 1 FitA) (hb : b.Reads 1 2 FitB) (hc : c.Reads 2 3 FitC) (f : α → β → γ → δ)
    (shape : String) (v : Json) (d : δ) :
    decoder shape 3 (f <$> a <*> b <*> c) v = .ok d ↔
      v.IsRecord 3 ∧
        ∃ x y z, FitA v.fieldAt x ∧ FitB v.fieldAt y ∧ FitC v.fieldAt z ∧ f x y z = d := by
  refine (((((reads_pure f 0).seq ha).seq hb).seq hc).decoder_eq_ok_iff shape v d).trans
    (and_congr_right fun _ => ?_)
  constructor
  · rintro ⟨_, z, ⟨_, y, ⟨_, x, rfl, hx, rfl⟩, hy, rfl⟩, hz, rfl⟩
    exact ⟨x, y, z, hx, hy, hz, rfl⟩
  · rintro ⟨x, y, z, hx, hy, hz, rfl⟩
    exact ⟨_, z, ⟨_, y, ⟨f, x, rfl, hx, rfl⟩, hy, rfl⟩, hz, rfl⟩

end Record

/-! ## Lists -/

/-- A list that is not empty is read from an array, item after item. -/
theorem list_eq_ok_cons_iff {α : Type} {d : Decoder α} {v : Json} {a : α} {as : List α} :
    Decoder.list d v = .ok (a :: as) ↔
      ∃ x xs, v = .arr (x :: xs) ∧ d x = .ok a ∧ Decoder.list d (.arr xs) = .ok as := by
  constructor
  · intro h
    cases v with
    | arr xs =>
      rcases xs with _ | ⟨x, xs⟩
      · cases h
      · simp only [Decoder.list, List.mapM_cons, bind_eq_ok_iff] at h
        obtain ⟨b, hb, bs, hbs, ⟨⟩⟩ := h
        exact ⟨x, xs, rfl, hb, hbs⟩
    | _ => cases h
  · rintro ⟨x, xs, rfl, ha, has⟩
    simp only [Decoder.list, List.mapM_cons, bind_eq_ok_iff]
    exact ⟨a, ha, as, has, rfl⟩

end Dialogue.Json
