import Dialogue.Tool.Arithmetic

/-!
# The order of a toolbox

A toolbox comes of adding tools to an empty one. Whatever tools are added, and in whatever order,
they stand in strictly ascending order of their names.

Main statement: `Built.ascending`.
-/

namespace Dialogue.Toolbox

variable {ω : Type}

/-- The toolboxes there are: the empty one, and those that come of adding a tool to one of them. -/
inductive Built : Toolbox ω → Prop where
  | empty : Built .empty
  | register {b b' : Toolbox ω} {t : Tool ω} : Built b → b.register t = .ok b' → Built b'

theorem mem_insertTool {t u : Tool ω} {ts : List (Tool ω)} :
    u ∈ insertTool t ts ↔ u = t ∨ u ∈ ts := by
  induction ts with
  | nil => simp [insertTool]
  | cons v rest ih =>
    unfold insertTool
    split
    · simp
    · rw [List.mem_cons, ih, List.mem_cons]
      exact or_left_comm

/-- A tool whose name is free finds its place. -/
theorem ascending_insertTool {t : Tool ω} {ts : List (Tool ω)}
    (h : ts.Pairwise fun u v => u.name < v.name) (hfree : ∀ u ∈ ts, t.name ≠ u.name) :
    (insertTool t ts).Pairwise fun u v => u.name < v.name := by
  induction ts with
  | nil => exact List.pairwise_singleton _ _
  | cons u rest ih =>
    obtain ⟨hu, hrest⟩ := List.pairwise_cons.mp h
    unfold insertTool
    split
    · next hlt =>
      refine List.pairwise_cons.mpr ⟨fun v hv => ?_, h⟩
      rcases List.mem_cons.mp hv with rfl | hv
      · exact hlt
      · exact String.lt_trans hlt (hu v hv)
    · next hge =>
      have hgt : u.name < t.name := by
        refine String.not_le.mp fun hle => ?_
        exact hfree u (List.mem_cons_self ..) (String.le_antisymm hle (String.not_lt.mp hge))
      refine List.pairwise_cons.mpr ⟨fun v hv => ?_, ih hrest fun v hv => ?_⟩
      · rcases mem_insertTool.mp hv with rfl | hv
        · exact hgt
        · exact hu v hv
      · exact hfree v (List.mem_cons_of_mem _ hv)

/-- Adding a tool puts it at its place, if its name is free. -/
theorem register_eq_ok {b b' : Toolbox ω} {t : Tool ω} (h : b.register t = .ok b') :
    (∀ u ∈ b.tools, t.name ≠ u.name) ∧ b' = ⟨insertTool t b.tools⟩ := by
  unfold register at h
  split at h
  · cases h
  · next hfree =>
    refine ⟨fun u hu hname => hfree ?_, (Except.ok.inj h).symm⟩
    exact hname ▸ List.mem_map_of_mem hu

/-- **Order.** The tools of a toolbox stand in strictly ascending order of their names. -/
theorem Built.ascending {b : Toolbox ω} (h : b.Built) : b.names.Pairwise (· < ·) := by
  rw [names, List.pairwise_map]
  induction h with
  | empty => exact List.Pairwise.nil
  | register _ hadd ih =>
    obtain ⟨hfree, rfl⟩ := register_eq_ok hadd
    exact ascending_insertTool ih hfree

/-! ## Adding several tools -/

/-- Adding tools until one is refused gives a toolbox too. -/
theorem Built.extend {b : Toolbox ω} (h : b.Built) (ts : List (Tool ω)) :
    (b.extend ts).1.Built := by
  induction ts generalizing b with
  | nil => exact h
  | cons t ts ih =>
    unfold Toolbox.extend
    split
    · next hadd => exact ih (h.register hadd)
    · exact h

theorem extendAll_eq_ok {b b' : Toolbox ω} {ts : List (Tool ω)} (h : b.extendAll ts = .ok b') :
    b' = (b.extend ts).1 := by
  unfold extendAll at h
  split at h
  · next heq =>
    cases h
    rw [heq]
  · cases h

/-- The arithmetic tools are added one after another. -/
theorem built_arithmetic : (Arithmetic.toolbox : Toolbox ω).Built := by
  have hadd : (empty : Toolbox ω).register Arithmetic.add = .ok ⟨[Arithmetic.add]⟩ := rfl
  have hmultiply : (⟨[Arithmetic.add]⟩ : Toolbox ω).register Arithmetic.multiply =
      .ok ⟨[Arithmetic.add, Arithmetic.multiply]⟩ := by
    cbv
  have hdivide : (⟨[Arithmetic.add, Arithmetic.multiply]⟩ : Toolbox ω).register
      Arithmetic.divide = .ok Arithmetic.toolbox := by
    cbv
  exact ((Built.empty.register hadd).register hmultiply).register hdivide

end Dialogue.Toolbox
