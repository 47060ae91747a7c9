import Dialogue.Number.Count

/-!
# Which texts write a count

A count is written with decimal digits, as many as one likes, with a plus in front or without one.
It has to fit 64 bits.

Main statement: `readCount_eq_some_iff`.
-/

namespace Dialogue

/-- A text writes a count of 64 bits. -/
def WritesCount (cs : List Char) (n : Nat) : Prop :=
  ∃ ds, (cs = ds ∨ cs = '+' :: ds) ∧ ds ≠ [] ∧ (∀ d ∈ ds, '0' ≤ d ∧ d ≤ '9') ∧
    n = Nat.ofDigitChars 10 ds 0 ∧ n ≤ 0xFFFFFFFFFFFFFFFF

/-- Digits have a value, and nothing else does. -/
theorem foldlM_digits_eq_some_iff {ds : List Char} {acc n : Nat} :
    ds.foldlM (fun n d => if '0' ≤ d ∧ d ≤ '9' then some (n * 10 + (d.toNat - '0'.toNat)) else none)
        acc = some n ↔
      (∀ d ∈ ds, '0' ≤ d ∧ d ≤ '9') ∧ n = Nat.ofDigitChars 10 ds acc := by
  induction ds generalizing acc with
  | nil => simp [eq_comm]
  | cons d ds ih =>
    rw [List.foldlM_cons, Nat.ofDigitChars_cons, List.forall_mem_cons]
    split
    · next hd =>
      rw [Option.bind_eq_bind, Option.bind_some, ih, Nat.mul_comm acc 10]
      exact ⟨fun h => ⟨⟨hd, h.1⟩, h.2⟩, fun h => ⟨h.1.2, h.2⟩⟩
    · next hd => exact ⟨nofun, fun h => absurd h.1.1 hd⟩

theorem decimalValue?_eq_some_iff {ds : List Char} {n : Nat} :
    decimalValue? ds = some n ↔
      (∀ d ∈ ds, '0' ≤ d ∧ d ≤ '9') ∧ n = Nat.ofDigitChars 10 ds 0 :=
  foldlM_digits_eq_some_iff

theorem eq_withoutPlus (cs : List Char) : cs = withoutPlus cs ∨ cs = '+' :: withoutPlus cs := by
  unfold withoutPlus
  split
  · exact .inr rfl
  · exact .inl rfl

/-- A plus is no digit. -/
theorem withoutPlus_of_digits {ds : List Char} (h : ∀ d ∈ ds, '0' ≤ d ∧ d ≤ '9') :
    withoutPlus ds = ds := by
  unfold withoutPlus
  split
  · exact absurd (h '+' (List.mem_cons_self ..)) (by decide)
  · rfl

/-- **Reading a count** finds exactly what is written. -/
theorem readCount_eq_some_iff {cs : List Char} {n : Nat} :
    readCount cs = some n ↔ WritesCount cs n := by
  unfold readCount
  constructor
  · intro h
    split at h
    · cases h
    · next hne =>
      obtain ⟨hvalue, hle⟩ := Option.filter_eq_some_iff.mp h
      obtain ⟨hdigits, rfl⟩ := decimalValue?_eq_some_iff.mp hvalue
      refine ⟨withoutPlus cs, eq_withoutPlus cs, by simpa using hne, hdigits, rfl, ?_⟩
      exact of_decide_eq_true hle
  · rintro ⟨ds, hcs, hne, hdigits, rfl, hle⟩
    have hplus : withoutPlus cs = ds := by
      rcases hcs with rfl | rfl
      · exact withoutPlus_of_digits hdigits
      · rfl
    rw [hplus, if_neg (by simpa using hne), decimalValue?_eq_some_iff.mpr ⟨hdigits, rfl⟩,
      Option.filter_some, if_pos (decide_eq_true hle)]

end Dialogue
