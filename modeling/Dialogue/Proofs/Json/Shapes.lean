import Dialogue.Proofs.Json.Objects
import Dialogue.Proofs.Json.Records
import Mathlib.Data.List.Forall2

/-!
# Shapes of values

What a decoder accepts is said by a relation between values and what is made of them: strings,
words, lists, and fields that have to be there, that have a value of their own if they are missing,
or that may be missing or `null`. The relations say nothing of how a value is read.

Main statements: `Accepts.list`, `Accepts.fieldFits_required`, `Accepts.fieldFits_default` and
`Accepts.fieldFits_optional`.
-/

namespace Dialogue.Json

variable {α : Type} {d : Decoder α} {Is : Json → α → Prop} {field : Option Json}

/-- What the decoder accepts, and what it makes of it. -/
def Accepts (d : Decoder α) (Is : Json → α → Prop) : Prop :=
  ∀ v a, d v = .ok a ↔ Is v a

/-- A field that may be missing or `null`. -/
inductive Perhaps (Is : Json → α → Prop) : Option Json → Option α → Prop where
  | missing : Perhaps Is none none
  | null : Perhaps Is (some .null) none
  | given {v : Json} {a : α} : v ≠ .null → Is v a → Perhaps Is (some v) (some a)

/-- An array of such items. -/
def ListOf (Is : Json → α → Prop) (v : Json) (as : List α) : Prop :=
  ∃ xs, v = .arr xs ∧ List.Forall₂ Is xs as

theorem accepts_string : Accepts .string fun v s => v = .str s := by
  intro v s
  cases v <;> simp [Decoder.string, Decoder.refuse]

theorem accepts_boolean : Accepts .boolean fun v b => v = .bool b := by
  intro v b
  cases v <;> simp [Decoder.boolean, Decoder.refuse]

theorem accepts_any : Accepts .any Eq := by
  intro v a
  simp [Decoder.any]

/-- All of a list are read if each of them is. -/
theorem mapM_eq_ok_iff {ε β : Type} {f : α → Except ε β} {xs : List α} {bs : List β} :
    xs.mapM f = .ok bs ↔ List.Forall₂ (fun x b => f x = .ok b) xs bs := by
  induction xs generalizing bs with
  | nil =>
    rw [List.forall₂_nil_left_iff]
    exact ⟨fun h => (Except.ok.inj h).symm, fun h => h ▸ rfl⟩
  | cons x xs ih =>
    simp only [List.mapM_cons, bind_eq_ok_iff, ih, List.forall₂_cons_left_iff]
    constructor
    · rintro ⟨b, hb, bs, hbs, ⟨⟩⟩
      exact ⟨b, bs, hb, hbs, rfl⟩
    · rintro ⟨b, bs, hb, hbs, rfl⟩
      exact ⟨b, hb, bs, hbs, rfl⟩

theorem Accepts.list (h : Accepts d Is) : Accepts (.list d) (ListOf Is) := by
  intro v as
  have hitems : (fun x a => d x = .ok a) = Is := funext₂ fun x a => propext (h x a)
  cases v with
  | arr xs =>
    change xs.mapM d = .ok as ↔ _
    rw [mapM_eq_ok_iff, hitems]
    exact ⟨fun hxs => ⟨xs, rfl, hxs⟩, fun ⟨_, rfl, hxs⟩ => hxs⟩
  | _ => exact ⟨nofun, nofun⟩

theorem Accepts.fieldFits_required (h : Accepts d Is) {a : α} :
    FieldFits d none field a ↔ ∃ v, field = some v ∧ Is v a := by
  cases field with
  | none => simp
  | some v => simp [h v a]

theorem Accepts.fieldFits_default (h : Accepts d Is) {absent a : α} :
    FieldFits d (some absent) field a ↔
      (field = none ∧ a = absent) ∨ ∃ v, field = some v ∧ Is v a := by
  cases field with
  | none => simp [eq_comm]
  | some v => simp [h v a]

theorem Accepts.fieldFits_optional (h : Accepts d Is) {a : Option α} :
    FieldFits (.nullable d) (some none) field a ↔ Perhaps Is field a := by
  rcases field with _ | v
  · rw [fieldFits_none]
    exact ⟨fun ha => Option.some.inj ha ▸ .missing, fun | .missing => rfl⟩
  rw [fieldFits_some]
  by_cases hnull : v = .null
  · subst hnull
    exact ⟨fun ha => Except.ok.inj ha ▸ .null, fun | .null => rfl | .given hne _ => absurd rfl hne⟩
  · rw [nullable_of_ne_null hnull, map_eq_ok_iff]
    constructor
    · rintro ⟨b, hb, rfl⟩
      exact .given hnull ((h v b).mp hb)
    · rintro (_ | _ | ⟨-, hb⟩)
      · exact absurd rfl hnull
      · exact ⟨_, (h v _).mpr hb, rfl⟩

end Dialogue.Json
