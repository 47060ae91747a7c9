import Dialogue.Proofs.Tool.Order
import Mathlib.Data.List.Induction
import Mathlib.Data.List.Nodup

/-!
# Adding tools

Several tools can be added to a toolbox exactly if they have names of their own and none of these is
taken. If they cannot, the first one whose name is taken is told, be it by a tool of the toolbox or
by one that stands before it.

Main statements: `exists_extendAll_iff`, `extendAll_eq_error_iff` and `perm_of_extendAll`.
-/

namespace Dialogue.Toolbox

variable {ω : Type} {b b' : Toolbox ω} {t : Tool ω} {ts us : List (Tool ω)} {e : Failure}
  {taken : List String}

/-! ## One tool -/

theorem perm_insertTool (t : Tool ω) (ts : List (Tool ω)) : (insertTool t ts).Perm (t :: ts) := by
  induction ts with
  | nil => exact .refl _
  | cons u rest ih =>
    unfold insertTool
    split
    · exact .refl _
    · exact (ih.cons u).trans (.swap t u rest)

theorem register_of_notMem (h : t.name ∉ b.names) : b.register t = .ok ⟨insertTool t b.tools⟩ :=
  if_neg h

theorem register_of_mem (h : t.name ∈ b.names) : b.register t = .error (.duplicateTool t.name) :=
  if_pos h

/-! ## Several tools -/

/-- Tools have names of their own, and none that is taken. -/
def Fresh (taken : List String) (ts : List (Tool ω)) : Prop :=
  (ts.map Tool.name).Nodup ∧ ∀ t ∈ ts, t.name ∉ taken

/-- A tool is the first in a list whose name is taken, at the start or by a tool before it. -/
def FirstTaken (taken : List String) (ts : List (Tool ω)) (t : Tool ω) : Prop :=
  ∃ before after, ts = before ++ t :: after ∧ Fresh taken before ∧
    (t.name ∈ taken ∨ t.name ∈ before.map Tool.name)

theorem fresh_nil (taken : List String) : Fresh taken ([] : List (Tool ω)) :=
  ⟨List.nodup_nil, List.forall_mem_nil _⟩

theorem fresh_cons_iff :
    Fresh taken (t :: ts) ↔ t.name ∉ taken ∧ Fresh (t.name :: taken) ts := by
  rw [Fresh, Fresh, List.map_cons, List.nodup_cons, List.forall_mem_cons]
  constructor
  · rintro ⟨⟨hnew, hnodup⟩, hfree, hrest⟩
    refine ⟨hfree, hnodup, fun u hu hmem => ?_⟩
    rcases List.mem_cons.mp hmem with hname | hmem
    · exact hnew (hname ▸ List.mem_map_of_mem hu)
    · exact hrest u hu hmem
  · rintro ⟨hfree, hnodup, hrest⟩
    refine ⟨⟨fun hmem => ?_, hnodup⟩, hfree, fun u hu hmem => ?_⟩
    · obtain ⟨u, hu, hname⟩ := List.mem_map.mp hmem
      exact hrest u hu (hname ▸ List.mem_cons_self ..)
    · exact hrest u hu (List.mem_cons_of_mem _ hmem)

theorem Fresh.concat (h : Fresh taken ts) (htaken : t.name ∉ taken)
    (hnew : t.name ∉ ts.map Tool.name) : Fresh taken (ts ++ [t]) := by
  constructor
  · rw [List.map_append, List.map_singleton]
    exact List.Nodup.append h.1 (List.nodup_singleton _) (List.disjoint_singleton.mpr hnew)
  · rw [List.forall_mem_append]
    exact ⟨h.2, List.forall_mem_singleton.mpr htaken⟩

/-- Names that are taken in another order are taken all the same. -/
theorem Fresh.of_perm {taken' : List String} (h : Fresh taken ts) (hperm : taken'.Perm taken) :
    Fresh taken' ts :=
  ⟨h.1, fun t ht hmem => h.2 t ht (hperm.mem_iff.mp hmem)⟩

/-- In a list of tools, either all are fresh or there is a first one whose name is taken. -/
theorem fresh_or_firstTaken (taken : List String) (ts : List (Tool ω)) :
    Fresh taken ts ∨ ∃ t, FirstTaken taken ts t := by
  -- The list is read from its end: the tools before the last are fresh, or the first whose name is
  -- taken is among them.
  induction ts using List.reverseRecOn with
  | nil => exact .inl (fresh_nil taken)
  | append_singleton ts t ih =>
    rcases ih with hfresh | ⟨u, before, after, rfl, hfirst⟩
    · by_cases htaken : t.name ∈ taken ∨ t.name ∈ ts.map Tool.name
      · exact .inr ⟨t, ts, [], rfl, hfresh, htaken⟩
      · obtain ⟨hfree, hnew⟩ := not_or.mp htaken
        exact .inl (hfresh.concat hfree hnew)
    · exact .inr ⟨u, before, after ++ [t], by simp, hfirst⟩

@[simp]
theorem extendAll_nil (b : Toolbox ω) : b.extendAll [] = .ok b :=
  rfl

theorem extendAll_cons (b : Toolbox ω) (t : Tool ω) (ts : List (Tool ω)) :
    b.extendAll (t :: ts) = (b.register t).bind (·.extendAll ts) := by
  simp only [extendAll, extend]
  rcases b.register t with e | b' <;> rfl

/-- The second of two lists of tools is added to what the first gives. -/
theorem extendAll_append (b : Toolbox ω) (ts us : List (Tool ω)) :
    b.extendAll (ts ++ us) = (b.extendAll ts).bind (·.extendAll us) := by
  induction ts generalizing b with
  | nil => rfl
  | cons t ts ih =>
    rw [List.cons_append, extendAll_cons, extendAll_cons]
    rcases b.register t with e | b'
    · rfl
    · exact ih b'

/-- Fresh tools can be added, and then the toolbox has them besides those it had. -/
theorem exists_extendAll (h : Fresh b.names ts) :
    ∃ b', b.extendAll ts = .ok b' ∧ b'.tools.Perm (b.tools ++ ts) := by
  induction ts generalizing b with
  | nil => exact ⟨b, rfl, by simp⟩
  | cons t ts ih =>
    obtain ⟨hfree, hrest⟩ := fresh_cons_iff.mp h
    have hinsert := perm_insertTool t b.tools
    obtain ⟨b', hadd, hperm⟩ := ih (hrest.of_perm (hinsert.map Tool.name))
    refine ⟨b', ?_, hperm.trans ((hinsert.append_right ts).trans List.perm_middle.symm)⟩
    rw [extendAll_cons, register_of_notMem hfree]
    exact hadd

/-- At the first tool whose name is taken, adding stops. -/
theorem FirstTaken.extendAll_eq (h : FirstTaken b.names ts t) :
    b.extendAll ts = .error (.duplicateTool t.name) := by
  obtain ⟨before, after, rfl, hfresh, htaken⟩ := h
  obtain ⟨b', hadd, hperm⟩ := exists_extendAll hfresh
  have hmem : t.name ∈ b'.names := by
    rw [names, (hperm.map Tool.name).mem_iff, List.map_append, List.mem_append]
    exact htaken
  rw [extendAll_append, hadd, Except.bind, extendAll_cons, register_of_mem hmem]
  rfl

/-- **Adding tools** comes out if and only if they are fresh. -/
theorem exists_extendAll_iff : (∃ b', b.extendAll ts = .ok b') ↔ Fresh b.names ts := by
  refine ⟨fun ⟨b', hadd⟩ => ?_, fun h => (exists_extendAll h).imp fun _ => And.left⟩
  rcases fresh_or_firstTaken b.names ts with hfresh | ⟨t, hfirst⟩
  · exact hfresh
  · cases hadd.symm.trans hfirst.extendAll_eq

/-- **A name that is taken** is told, and it is the first in the order of the list. -/
theorem extendAll_eq_error_iff :
    b.extendAll ts = .error e ↔ ∃ t, FirstTaken b.names ts t ∧ e = .duplicateTool t.name := by
  constructor
  · intro h
    rcases fresh_or_firstTaken b.names ts with hfresh | ⟨t, hfirst⟩
    · obtain ⟨b', hadd, -⟩ := exists_extendAll hfresh
      cases h.symm.trans hadd
    · exact ⟨t, hfirst, Except.error.inj (h.symm.trans hfirst.extendAll_eq)⟩
  · rintro ⟨t, hfirst, rfl⟩
    exact hfirst.extendAll_eq

/-- What a toolbox has when tools were added. -/
theorem perm_of_extendAll (h : b.extendAll ts = .ok b') : b'.tools.Perm (b.tools ++ ts) := by
  obtain ⟨b'', hadd, hperm⟩ := exists_extendAll (exists_extendAll_iff.mp ⟨b', h⟩)
  obtain rfl := Except.ok.inj (h.symm.trans hadd)
  exact hperm

end Dialogue.Toolbox
