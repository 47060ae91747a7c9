import Dialogue.Number.Binary
import Dialogue.Table

/-!
# JSON values

The dynamic value that tools take and give. Numbers are exact integers or binary floating point
numbers, and the two are never equal. An object holds its members in ascending order of their names,
each name once; `Json.object` builds one from members in any order, where the last member of a name
wins.
-/

namespace Dialogue

/-- A number of a JSON value. -/
inductive Number where
  | int (value : Int)
  | float (value : Binary64)
deriving DecidableEq, Repr

/-- A JSON value. -/
inductive Json where
  | null
  | bool (value : Bool)
  | num (value : Number)
  | str (value : String)
  | arr (items : List Json)
  | obj (members : List (String × Json))
deriving Repr, Inhabited

/-- The members of an object. -/
abbrev Members := Table Json

namespace Json

/-! ## Equality -/

mutual

/-- Structural equality of values. -/
def beq : Json → Json → Bool
  | .null, .null => true
  | .bool a, .bool b => a == b
  | .num a, .num b => decide (a = b)
  | .str a, .str b => a == b
  | .arr a, .arr b => beqItems a b
  | .obj a, .obj b => beqMembers a b
  | _, _ => false

/-- Structural equality of lists of values. -/
def beqItems : List Json → List Json → Bool
  | [], [] => true
  | a :: as, b :: bs => beq a b && beqItems as bs
  | _, _ => false

/-- Structural equality of lists of members. -/
def beqMembers : List (String × Json) → List (String × Json) → Bool
  | [], [] => true
  | (j, a) :: as, (k, b) :: bs => j == k && beq a b && beqMembers as bs
  | _, _ => false

end

mutual

theorem eq_of_beq : ∀ {a b : Json}, beq a b = true → a = b
  | .null, b, h => by cases b <;> simp_all [beq]
  | .bool _, b, h => by cases b <;> simp_all [beq]
  | .num _, b, h => by cases b <;> simp_all [beq]
  | .str _, b, h => by cases b <;> simp_all [beq]
  | .arr as, b, h => by
    cases b <;> simp_all [beq]
    exact eq_of_beqItems h
  | .obj as, b, h => by
    cases b <;> simp_all [beq]
    exact eq_of_beqMembers h

theorem eq_of_beqItems : ∀ {a b : List Json}, beqItems a b = true → a = b
  | [], b, h => by cases b <;> simp_all [beqItems]
  | a :: as, [], h => by simp [beqItems] at h
  | a :: as, b :: bs, h => by
    simp only [beqItems, Bool.and_eq_true] at h
    rw [eq_of_beq h.1, eq_of_beqItems h.2]

theorem eq_of_beqMembers : ∀ {a b : List (String × Json)}, beqMembers a b = true → a = b
  | [], b, h => by cases b <;> simp_all [beqMembers]
  | (j, a) :: as, [], h => by simp [beqMembers] at h
  | (j, a) :: as, (k, b) :: bs, h => by
    simp only [beqMembers, Bool.and_eq_true, beq_iff_eq] at h
    rw [h.1.1, eq_of_beq h.1.2, eq_of_beqMembers h.2]

end

mutual

theorem beq_refl : ∀ a : Json, beq a a = true
  | .null => rfl
  | .bool _ => by simp [beq]
  | .num _ => by simp [beq]
  | .str _ => by simp [beq]
  | .arr as => by simpa [beq] using beqItems_refl as
  | .obj as => by simpa [beq] using beqMembers_refl as

theorem beqItems_refl : ∀ a : List Json, beqItems a a = true
  | [] => rfl
  | a :: as => by simp [beqItems, beq_refl a, beqItems_refl as]

theorem beqMembers_refl : ∀ a : List (String × Json), beqMembers a a = true
  | [] => rfl
  | (j, a) :: as => by simp [beqMembers, beq_refl a, beqMembers_refl as]

end

instance : DecidableEq Json := fun a b =>
  if h : beq a b = true then .isTrue (eq_of_beq h)
  else .isFalse fun e => h (e ▸ beq_refl a)

/-! ## Objects -/

/-- The object of members given in any order; the last member of a name wins. -/
def object (members : Members) : Json :=
  .obj (Table.ofList members)

/-! ## Views -/

/-- The members of an object. -/
def members? : Json → Option Members
  | .obj ms => some ms
  | _ => none

/-- The value of a name in an object. -/
def get? (name : String) (v : Json) : Option Json :=
  v.members?.bind (Table.lookup name)

/-- Of the members that an object is made of, the last of a name counts. -/
theorem get?_object (name : String) (members : Members) :
    (object members).get? name = (members.reverse.find? (·.1 == name)).map (·.2) :=
  Table.lookup_ofList name members

/-- The text of a string. -/
def text? : Json → Option String
  | .str s => some s
  | _ => none

/-- The items of an array. -/
def items? : Json → Option (List Json)
  | .arr xs => some xs
  | _ => none

/-- The integer of an integer number; a floating point number has none. -/
def int? : Json → Option Int
  | .num (.int n) => some n
  | _ => none

/-- An integer as a value. -/
def ofInt (n : Int) : Json :=
  .num (.int n)

/-- A natural number as a value. -/
def ofNat (n : Nat) : Json :=
  .num (.int n)

/-- A value that may be absent, `null` when it is. -/
def orNull {α : Type} (f : α → Json) : Option α → Json
  | some a => f a
  | none => .null

end Json

end Dialogue
