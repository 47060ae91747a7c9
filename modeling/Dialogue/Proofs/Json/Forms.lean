import Dialogue.Json.Expected
import Dialogue.Proofs.Json.Lexemes
import Dialogue.Proofs.Json.Records
import Mathlib.Data.List.Nodup

/-!
# What is read against a form

What is read against a form has that form: a string for a text, an integer for an integer, for what
may be missing `null` or what stands there, and for a record an object. The members of the object
are what the fields of the record give, by their names or by their places, and those that must be
there are. So whoever takes a member out of such an object knows of what kind it is.

Main statement: `Form.gives_record`. Its parts are `readFields_gives` and `readPlaces_gives`; what
follows for a single member is `Form.Gives.member` and `Form.Gives.exists_member`.
-/

namespace Dialogue.Json

variable {src : Source} {fuel depth : Nat} {cs rest : List Char} {v : Json} {ms : Members}
  {name : String} {form : Form} {fields : List (String × Form × Bool)}

/-- A value is what some text gives that is read against a form. -/
def Form.Gives (form : Form) (v : Json) : Prop :=
  ∃ src fuel depth cs rest, readForm src fuel depth form cs = .ok (v, rest)

theorem Form.Gives.exists_succ (h : form.Gives v) :
    ∃ src fuel depth cs rest, readForm src (fuel + 1) depth form cs = .ok (v, rest) := by
  obtain ⟨src, fuel, depth, cs, rest, h⟩ := h
  cases fuel with
  | zero =>
    unfold readForm at h
    cases h
  | succ fuel => exact ⟨src, fuel, depth, cs, rest, h⟩

/-- A member is what one of the fields gives. -/
def Fills (fields : List (String × Form × Bool)) (name : String) (v : Json) : Prop :=
  ∃ field ∈ fields, field.1 = name ∧ field.2.1.Gives v

/-- What is refused is never read. -/
theorem refuseText_ne_ok {α : Type} {expected : String} {a : α} :
    refuseText src fuel expected cs ≠ .ok a := by
  intro h
  simp only [refuseText] at h
  split at h
  · cases h
  · cases h
  · cases h
  · obtain ⟨_, _, h⟩ := bind_eq_ok_iff.mp h
    cases h

/-! ## Texts, integers and what may be missing -/

theorem Form.gives_text (h : Form.text.Gives v) : ∃ s, v = .str s := by
  obtain ⟨src, fuel, depth, cs, rest, h⟩ := h.exists_succ
  rw [readForm] at h
  split at h
  · obtain ⟨⟨s, _⟩, _, h⟩ := bind_eq_ok_iff.mp h
    cases h
    exact ⟨s, rfl⟩
  · exact absurd h refuseText_ne_ok

theorem Form.gives_integer (h : Form.integer.Gives v) : ∃ n, v = .ofInt n := by
  obtain ⟨src, fuel, depth, cs, rest, h⟩ := h.exists_succ
  rw [readForm] at h
  dsimp only at h
  split at h
  case h_2 => cases h
  case' h_3 =>
    split at h
    case isFalse => exact absurd h refuseText_ne_ok
  all_goals
    obtain ⟨_, -, h⟩ := bind_eq_ok_iff.mp h
    obtain ⟨n, -, h⟩ := bind_eq_ok_iff.mp h
    cases h
    exact ⟨n, rfl⟩

theorem Form.gives_nullable (h : (Form.nullable form).Gives v) : v = .null ∨ form.Gives v := by
  obtain ⟨src, fuel, depth, cs, rest, h⟩ := h.exists_succ
  rw [readForm] at h
  split at h
  · obtain ⟨_, _, h⟩ := bind_eq_ok_iff.mp h
    cases h
    exact .inl rfl
  · exact .inr ⟨src, fuel, depth, _, rest, h⟩

/-! ## Records -/

theorem fills_of_fieldForm? (hform : fieldForm? name fields = some form) (hv : form.Gives v) :
    Fills fields name v := by
  obtain ⟨field, hfind, rfl⟩ := Option.map_eq_some_iff.mp hform
  exact ⟨field, List.mem_of_find?_eq_some hfind, by simpa using List.find?_some hfind, hv⟩

/-- Every member that is read is what its field gives, if those read before are. -/
theorem readFields_gives {first : Bool} {read : Members}
    (h : readFields src fuel depth fields first read cs = .ok (ms, rest))
    (hread : ∀ name v, Table.lookup name read = some v → Fills fields name v) :
    ∀ name v, Table.lookup name ms = some v → Fills fields name v := by
  induction fuel generalizing first read cs with
  | zero =>
    unfold readFields at h
    cases h
  | succ fuel ih =>
    unfold readFields at h
    dsimp only at h
    split at h
    case h_1 => cases h
    case h_2 =>
      cases h
      exact hread
    case h_4 => cases h
    case h_6 => cases h
    case' h_5 =>
      split at h
      case h_1 => cases h
      case h_3 => cases h
      case h_4 => cases h
    all_goals
      rw [ok_bind] at h
      obtain ⟨⟨name, left⟩, -, h⟩ := bind_eq_ok_iff.mp h
      dsimp only at h
      split at h
      · cases h
      split at h
      · cases h
      · next form _ hform =>
        obtain ⟨⟨x, left⟩, hx, h⟩ := bind_eq_ok_iff.mp h
        refine ih h fun other v hv => ?_
        by_cases hother : other = name
        · rw [hother, Table.lookup_insert_self] at hv
          obtain rfl := Option.some.inj hv
          exact hother ▸ fills_of_fieldForm? hform ⟨src, fuel, depth, _, left, hx⟩
        · rw [Table.lookup_insert_of_ne _ _ hother] at hv
          exact hread other v hv
      · obtain ⟨_, -, h⟩ := bind_eq_ok_iff.mp h
        exact ih h hread
      · cases h

/-- Every member that is read by its place is what its field gives, and those that must be there
are. -/
theorem readPlaces_gives {shape : String} {place : Nat}
    (h : readPlaces src fuel depth shape fields place cs = .ok (ms, rest)) :
    (∀ name v, (name, v) ∈ ms → Fills fields name v) ∧
      ∀ field ∈ fields, field.2.2 = true → field.1 ∈ ms.map (·.1) := by
  induction fields generalizing fuel place cs ms with
  | nil =>
    cases fuel with
    | zero =>
      unfold readPlaces at h
      cases h
    | succ fuel =>
      rw [readPlaces] at h
      cases h
      exact ⟨fun _ _ hmem => absurd hmem List.not_mem_nil,
        fun _ hfield => absurd hfield List.not_mem_nil⟩
  | cons field fields ih =>
    obtain ⟨name, form, needed⟩ := field
    have hlater {ms : Members} {other : String} {v : Json}
        (hms : ∀ name v, (name, v) ∈ ms → Fills fields name v) (hmem : (other, v) ∈ ms) :
        Fills ((name, form, needed) :: fields) other v := by
      obtain ⟨field, hfield, hfills⟩ := hms other v hmem
      exact ⟨field, List.mem_cons_of_mem _ hfield, hfills⟩
    cases fuel with
    | zero =>
      unfold readPlaces at h
      cases h
    | succ fuel =>
      unfold readPlaces at h
      dsimp only at h
      split at h
      case h_1 => cases h
      case h_5 => cases h
      case h_2 =>
        rw [ok_bind] at h
        dsimp only at h
        split at h
        · cases h
        · next hneeded =>
          obtain ⟨hgives, hthere⟩ := ih h
          refine ⟨fun other v hmem => hlater hgives hmem, fun field hfield htrue => ?_⟩
          obtain rfl | hfield := List.mem_cons.mp hfield
          · exact absurd htrue hneeded
          · exact hthere field hfield htrue
      case' h_4 =>
        split at h
        case h_1 => cases h
        case h_2 => cases h
      all_goals
        rw [ok_bind] at h
        obtain ⟨⟨x, left⟩, hx, h⟩ := bind_eq_ok_iff.mp h
        obtain ⟨⟨ms, last⟩, hms, h⟩ := bind_eq_ok_iff.mp h
        cases h
        obtain ⟨hgives, hthere⟩ := ih hms
        refine ⟨fun other v hmem => ?_, fun field hfield htrue => ?_⟩
        · obtain heq | hmem := List.mem_cons.mp hmem
          · obtain ⟨rfl, rfl⟩ := Prod.mk.inj heq
            exact ⟨_, List.mem_cons_self .., rfl, src, fuel, depth, _, left, hx⟩
          · exact hlater hgives hmem
        · obtain rfl | hfield := List.mem_cons.mp hfield
          · exact List.mem_cons_self ..
          · exact List.mem_cons_of_mem _ (hthere field hfield htrue)

/-- **A record.** What is read against the form of a record is an object. Its members are what the
fields give, and those that must be there are. -/
theorem Form.gives_record (h : (Form.record name fields).Gives v) :
    ∃ ms, v = .obj ms ∧ (∀ name v, Table.lookup name ms = some v → Fills fields name v) ∧
      ∀ field ∈ fields, field.2.2 = true → (Table.lookup field.1 ms).isSome = true := by
  obtain ⟨src, fuel, depth, cs, rest, h⟩ := h.exists_succ
  rw [readForm] at h
  split at h
  · split at h
    · cases h
    · obtain ⟨⟨ms, left⟩, hms, h⟩ := bind_eq_ok_iff.mp h
      dsimp only at h
      split at h
      · cases h
      · next hmissing =>
        cases h
        have hnone (name : String) (v : Json) (hv : Table.lookup name [] = some v) :
            Fills fields name v := by cases hv
        refine ⟨ms, rfl, readFields_gives hms hnone, fun field hfield htrue => ?_⟩
        have hall := List.find?_eq_none.mp (Option.map_eq_none_iff.mp hmissing) field hfield
        simpa [htrue, Option.isSome_iff_ne_none] using hall
  · split at h
    · cases h
    · obtain ⟨⟨ms, left⟩, hms, h⟩ := bind_eq_ok_iff.mp h
      dsimp only at h
      obtain ⟨hgives, hthere⟩ := readPlaces_gives hms
      split at h
      · cases h
      · cases h
        refine ⟨Table.ofList ms, rfl, fun name v hv => ?_, fun field hfield htrue => ?_⟩
        · rw [Table.lookup_ofList] at hv
          obtain ⟨⟨other, v⟩, hfind, rfl⟩ := Option.map_eq_some_iff.mp hv
          obtain rfl : other = name := by simpa using List.find?_some hfind
          exact hgives other v (List.mem_reverse.mp (List.mem_of_find?_eq_some hfind))
        · obtain ⟨⟨name, v⟩, hmem, rfl⟩ := List.mem_map.mp (hthere field hfield htrue)
          rw [Table.lookup_ofList, Option.isSome_map, List.find?_isSome]
          exact ⟨_, List.mem_reverse.mpr hmem, by simp⟩
      · split at h <;> cases h
      · cases h
  · exact absurd h refuseText_ne_ok

/-- What stands under the name of a field is what the field gives. -/
theorem Form.Gives.member {field : String} {x : Json} (h : (Form.record name fields).Gives v)
    (hnodup : (fields.map (·.1)).Nodup) (hform : fieldForm? field fields = some form)
    (hx : v.get? field = some x) : form.Gives x := by
  obtain ⟨ms, rfl, hgives, -⟩ := Form.gives_record h
  obtain ⟨known, hknown, rfl⟩ := Option.map_eq_some_iff.mp hform
  obtain ⟨other, hother, hname, hfills⟩ := hgives field x hx
  have hsame : known.1 = field := by simpa using List.find?_some hknown
  obtain rfl : known = other := List.inj_on_of_nodup_map hnodup
    (List.mem_of_find?_eq_some hknown) hother (hsame.trans hname.symm)
  exact hfills

/-- A member that must be there is. -/
theorem Form.Gives.exists_member {field : String} (h : (Form.record name fields).Gives v)
    (hfield : (field, form, true) ∈ fields) : ∃ x, v.get? field = some x := by
  obtain ⟨ms, rfl, -, hthere⟩ := Form.gives_record h
  exact Option.isSome_iff_exists.mp (hthere _ hfield rfl)

/-- A whole text that is read against a form gives a value of that form. -/
theorem gives_of_parseForm (h : parseForm src form cs = .ok v) : form.Gives v := by
  obtain ⟨⟨x, rest⟩, hread, h⟩ := bind_eq_ok_iff.mp h
  obtain rfl : x = v := by
    have hfinish := mapError_eq_ok_iff.mp h
    rw [finish] at hfinish
    split at hfinish
    · exact Except.ok.inj hfinish
    · cases hfinish
  exact ⟨src, _, _, cs, rest, hread⟩

end Dialogue.Json
