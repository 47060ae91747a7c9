import Dialogue.Proofs.Text.Order
import Dialogue.Proofs.Tool.Adding
import Dialogue.Proofs.Tool.Refusal

/-!
# The history of a toolbox

A toolbox is changed by adding one tool or several. What the changes of a history add is settled by
names alone: `Adds` says it of one change, and `AddsAll` of changes one after another. A toolbox
has what its history has added, in the order of the names.

Main statement: `history_of_changes`. Its step lemma is `exists_adds`, its run lemma
`exists_addsAll`.
-/

namespace Dialogue

variable {ω : Type}

/-- What is done to a toolbox: one tool is added, or several up to the first that is refused. -/
inductive Change (ω : Type) where
  | register (tool : Tool ω)
  | extend (tools : List (Tool ω))

namespace Change

/-- With these names taken, a change adds these tools, and it comes out or fails. -/
inductive Adds (taken : List String) : Change ω → List (Tool ω) → Option Failure → Prop where
  | registered {t : Tool ω} : t.name ∉ taken → Adds taken (.register t) [t] none
  | refused {t : Tool ω} : t.name ∈ taken →
      Adds taken (.register t) [] (some (.duplicateTool t.name))
  | extended {ts : List (Tool ω)} : Toolbox.Fresh taken ts → Adds taken (.extend ts) ts none
  | stopped {before after : List (Tool ω)} {t : Tool ω} : Toolbox.Fresh taken before →
      t.name ∈ taken ∨ t.name ∈ before.map Tool.name →
      Adds taken (.extend (before ++ t :: after)) before (some (.duplicateTool t.name))

/-- What changes add one after another, in the order in which it is added. -/
inductive AddsAll : (taken : List String) → List (Change ω) → List (Tool ω) → Prop where
  | nil {taken : List String} : AddsAll taken [] []
  | cons {taken : List String} {c : Change ω} {cs : List (Change ω)} {ts us : List (Tool ω)}
      {e : Option Failure} : Adds taken c ts e → AddsAll (taken ++ ts.map Tool.name) cs us →
      AddsAll taken (c :: cs) (ts ++ us)

variable {taken taken' : List String} {c : Change ω} {cs : List (Change ω)} {ts : List (Tool ω)}
  {e : Option Failure}

/-- Names that are taken in another order are taken all the same. -/
theorem Adds.of_perm (h : c.Adds taken ts e) (hperm : taken'.Perm taken) :
    c.Adds taken' ts e := by
  cases h with
  | registered hfree => exact .registered fun hmem => hfree (hperm.mem_iff.mp hmem)
  | refused htaken => exact .refused (hperm.mem_iff.mpr htaken)
  | extended hfresh => exact .extended (hfresh.of_perm hperm)
  | stopped hfresh htaken =>
    exact .stopped (hfresh.of_perm hperm) (htaken.imp_left hperm.mem_iff.mpr)

theorem AddsAll.of_perm (h : AddsAll taken cs ts) (hperm : taken'.Perm taken) :
    AddsAll taken' cs ts := by
  induction h generalizing taken' with
  | nil => exact .nil
  | cons hadds _ ih => exact .cons (hadds.of_perm hperm) (ih (hperm.append_right _))

end Change

namespace Toolbox

open Change (Adds AddsAll)

variable {b : Toolbox ω}

/-- The toolbox after a change, and the failure if there was one. A tool that is refused leaves the
toolbox as it was. -/
def change (b : Toolbox ω) : Change ω → Toolbox ω × Option Failure
  | .register t =>
    match b.register t with
    | .ok b' => (b', none)
    | .error e => (b, some e)
  | .extend ts => b.extend ts

/-- The toolbox after changes one after another. -/
def changeAll (b : Toolbox ω) (cs : List (Change ω)) : Toolbox ω :=
  cs.foldl (fun b c => (b.change c).1) b

/-! ## One change -/

theorem change_register_of_notMem {t : Tool ω} (h : t.name ∉ b.names) :
    b.change (.register t) = (⟨insertTool t b.tools⟩, none) := by
  rw [change, register_of_notMem h]

theorem change_register_of_mem {t : Tool ω} (h : t.name ∈ b.names) :
    b.change (.register t) = (b, some (.duplicateTool t.name)) := by
  rw [change, register_of_mem h]

/-- Fresh tools are all added. -/
theorem exists_extend_of_fresh {ts : List (Tool ω)} (h : Fresh b.names ts) :
    ∃ b', b.extend ts = (b', none) ∧ b'.tools.Perm (b.tools ++ ts) := by
  obtain ⟨b', hadd, hperm⟩ := exists_extendAll h
  refine ⟨b', ?_, hperm⟩
  unfold extendAll at hadd
  split at hadd
  · next heq =>
    cases hadd
    exact heq
  · cases hadd

/-- What is added after tools that are all added, is added to what they leave. -/
theorem extend_append {ts : List (Tool ω)} {b' : Toolbox ω} (h : b.extend ts = (b', none))
    (us : List (Tool ω)) : b.extend (ts ++ us) = b'.extend us := by
  induction ts generalizing b with
  | nil =>
    cases h
    rfl
  | cons t ts ih =>
    rw [extend] at h
    rw [List.cons_append, extend]
    rcases hregister : b.register t with e | b₁
    · rw [hregister] at h
      cases h
    · rw [hregister] at h
      exact ih h

/-- At the first tool whose name is taken, those before it have been added. -/
theorem exists_extend_of_taken {before : List (Tool ω)} {t : Tool ω} (after : List (Tool ω))
    (hfresh : Fresh b.names before) (htaken : t.name ∈ b.names ∨ t.name ∈ before.map Tool.name) :
    ∃ b', b.extend before = (b', none) ∧ b'.tools.Perm (b.tools ++ before) ∧
      b.extend (before ++ t :: after) = (b', some (.duplicateTool t.name)) := by
  obtain ⟨b', hadd, hperm⟩ := exists_extend_of_fresh hfresh
  refine ⟨b', hadd, hperm, ?_⟩
  have hmem : t.name ∈ b'.names := by
    rw [names, (hperm.map Tool.name).mem_iff, List.map_append, List.mem_append]
    exact htaken
  rw [extend_append hadd, extend, register_of_mem hmem]

theorem change_register_eq_none_iff {t : Tool ω} :
    (b.change (.register t)).2 = none ↔ t.name ∉ b.names := by
  by_cases hmem : t.name ∈ b.names
  · simp [change_register_of_mem hmem, hmem]
  · simp [change_register_of_notMem hmem, hmem]

theorem change_extend_eq_none_iff {ts : List (Tool ω)} :
    (b.change (.extend ts)).2 = none ↔ Fresh b.names ts := by
  constructor
  · intro h
    rcases fresh_or_firstTaken b.names ts with hfresh | ⟨t, before, after, rfl, hfresh, htaken⟩
    · exact hfresh
    · obtain ⟨b', -, -, hextend⟩ := exists_extend_of_taken after hfresh htaken
      rw [change, hextend] at h
      cases h
  · intro hfresh
    obtain ⟨b', hextend, -⟩ := exists_extend_of_fresh hfresh
    rw [change, hextend]

theorem change_extend_ne_none_iff {ts : List (Tool ω)} :
    (b.change (.extend ts)).2 ≠ none ↔ ∃ t, FirstTaken b.names ts t := by
  constructor
  · intro h
    exact (fresh_or_firstTaken b.names ts).resolve_left (mt change_extend_eq_none_iff.mpr h)
  · rintro ⟨t, before, after, rfl, hfresh, htaken⟩
    obtain ⟨b', -, -, hextend⟩ := exists_extend_of_taken after hfresh htaken
    rw [change, hextend]
    exact Option.some_ne_none _

/-- **A change** adds what its names allow, and nothing is taken away. -/
theorem exists_adds (b : Toolbox ω) (c : Change ω) :
    ∃ ts, c.Adds b.names ts (b.change c).2 ∧ (b.change c).1.tools.Perm (b.tools ++ ts) := by
  cases c with
  | register t =>
    by_cases hmem : t.name ∈ b.names
    · rw [change_register_of_mem hmem]
      exact ⟨[], .refused hmem, by rw [List.append_nil]⟩
    · rw [change_register_of_notMem hmem]
      exact ⟨[t], .registered hmem,
        (perm_insertTool t b.tools).trans (List.perm_append_singleton t b.tools).symm⟩
  | extend ts =>
    rcases fresh_or_firstTaken b.names ts with hfresh | ⟨t, before, after, rfl, hfresh, htaken⟩
    · obtain ⟨b', hextend, hperm⟩ := exists_extend_of_fresh hfresh
      rw [change, hextend]
      exact ⟨ts, .extended hfresh, hperm⟩
    · obtain ⟨b', -, hperm, hextend⟩ := exists_extend_of_taken after hfresh htaken
      rw [change, hextend]
      exact ⟨before, .stopped hfresh htaken, hperm⟩

theorem Built.change (h : b.Built) (c : Change ω) : (b.change c).1.Built := by
  cases c with
  | register t =>
    by_cases hmem : t.name ∈ b.names
    · rwa [change_register_of_mem hmem]
    · rw [change_register_of_notMem hmem]
      exact h.register (register_of_notMem hmem)
  | extend ts => exact h.extend ts

/-! ## Changes one after another -/

/-- A toolbox has what it had, and what changes have added since. -/
theorem exists_addsAll (b : Toolbox ω) (cs : List (Change ω)) :
    ∃ added, AddsAll b.names cs added ∧ (b.changeAll cs).tools.Perm (b.tools ++ added) := by
  induction cs generalizing b with
  | nil => exact ⟨[], .nil, by rw [List.append_nil]; rfl⟩
  | cons c cs ih =>
    obtain ⟨ts, hadds, hperm⟩ := b.exists_adds c
    obtain ⟨us, haddsAll, hpermAll⟩ := ih (b.change c).1
    have hnames : (b.names ++ ts.map Tool.name).Perm (b.change c).1.names := by
      rw [names, names, ← List.map_append]
      exact (hperm.map Tool.name).symm
    refine ⟨ts ++ us, .cons hadds (haddsAll.of_perm hnames), ?_⟩
    rw [← List.append_assoc]
    exact hpermAll.trans (hperm.append_right us)

theorem Built.changeAll (h : b.Built) (cs : List (Change ω)) : (b.changeAll cs).Built := by
  induction cs generalizing b with
  | nil => exact h
  | cons c cs ih => exact ih (h.change c)

/-- In a toolbox with these tools, in whatever order they are given, a name leads to the first of
them that has it. -/
theorem Built.get?_eq_find? (h : b.Built) {ts : List (Tool ω)} (hperm : b.tools.Perm ts)
    (name : String) : b.get? name = ts.find? (·.name == name) := by
  cases hfind : ts.find? (·.name == name) with
  | none =>
    refine List.find?_eq_none.mpr fun u hu => ?_
    exact List.find?_eq_none.mp hfind u (hperm.mem_iff.mp hu)
  | some t =>
    obtain rfl : t.name = name := by simpa using List.find?_some hfind
    exact h.get?_eq_some (hperm.mem_iff.mpr (List.mem_of_find?_eq_some hfind))

/-- **The history of a toolbox.** Take any changes of a toolbox that was empty or had the arithmetic
tools. Its names stand in ascending order of their octets, there are as many tools as names, and the
signatures stand in the order of the names, each under its own. The tools are those of the start and
those that the changes added, and each name leads to the first tool that was added under it.

A tool can be added if and only if its name is free; if it is refused, the toolbox is as it was.
Several can be added if and only if they have names of their own and none is taken; otherwise the
first tool whose name is taken, or is the name of one before it, is told, and the toolbox then is
the one that has come of adding the tools before it, and has these and no others besides its own. -/
theorem history_of_changes (start : Toolbox ω)
    (hstart : start = .empty ∨ start = Arithmetic.toolbox) (changes : List (Change ω)) :
    let b := start.changeAll changes
    (b.names.Pairwise fun m n => Text.Utf8.encode m.toList < Text.Utf8.encode n.toList) ∧
    b.size = b.names.length ∧
    b.signatures.map (·.name) = b.names ∧
    (∃ added, AddsAll start.names changes added ∧
      b.signatures.Perm ((start.tools ++ added).map (·.signature)) ∧
      ∀ name, b.get? name = (start.tools ++ added).find? (·.name == name)) ∧
    (∀ t, ((b.change (.register t)).2 = none ↔ t.name ∉ b.names) ∧
      (t.name ∈ b.names → b.change (.register t) = (b, some (.duplicateTool t.name)))) ∧
    (∀ ts, ((b.change (.extend ts)).2 = none ↔ Fresh b.names ts) ∧
      ((b.change (.extend ts)).2 ≠ none ↔ ∃ t, FirstTaken b.names ts t)) ∧
    ∀ before t after, Fresh b.names before →
      t.name ∈ b.names ∨ t.name ∈ before.map Tool.name →
      ∃ b', b.change (.extend before) = (b', none) ∧ b'.tools.Perm (b.tools ++ before) ∧
        b.change (.extend (before ++ t :: after)) = (b', some (.duplicateTool t.name)) := by
  intro b
  have hbuilt : b.Built := by
    rcases hstart with rfl | rfl
    · exact Built.empty.changeAll changes
    · exact built_arithmetic.changeAll changes
  obtain ⟨added, hadded, hperm⟩ := start.exists_addsAll changes
  refine ⟨?_, List.length_map _ |>.symm, List.map_map, ⟨added, hadded, hperm.map _, fun name =>
    hbuilt.get?_eq_find? hperm name⟩, fun t => ⟨change_register_eq_none_iff,
    change_register_of_mem⟩, fun ts => ⟨change_extend_eq_none_iff, change_extend_ne_none_iff⟩,
    fun before t after hfresh htaken => exists_extend_of_taken after hfresh htaken⟩
  exact hbuilt.ascending.imp fun h => Text.Utf8.encode_lt (String.lt_iff.mp h)

/-- A tool that says its name. -/
def herald (name : String) : Tool Unit :=
  .ofFunction ⟨name, "", [], none⟩ fun _ => .ok (.str name)

/-- A second `add` cuts a batch off, so that the tool behind it can be added later on; a third tool
then stops at the one before it. -/
theorem history_of_changes_batch :
    let b := (Arithmetic.toolbox : Toolbox Unit).changeAll
      [.extend [herald "x", herald "add", herald "y"]]
    Fresh b.names [herald "y"] ∧ (herald "x").name ∈ b.names ∧
    b.get? "add" = some Arithmetic.add ∧
    ∃ b', b.change (.extend [herald "y"]) = (b', none) ∧ b'.tools.Perm (b.tools ++ [herald "y"]) ∧
      b.change (.extend [herald "y", herald "x", herald "z"]) =
        (b', some (.duplicateTool "x")) := by
  intro b
  have hfresh : Fresh b.names [herald "y"] := by
    unfold Fresh
    decide +kernel
  have htaken : (herald "x").name ∈ b.names := by decide +kernel
  obtain ⟨-, -, -, ⟨added, hadded, -, hget⟩, -, -, hstop⟩ :=
    history_of_changes (Arithmetic.toolbox : Toolbox Unit) (.inr rfl)
      [.extend [herald "x", herald "add", herald "y"]]
  exact ⟨hfresh, htaken, hget "add",
    hstop [herald "y"] (herald "x") [herald "z"] hfresh (.inl htaken)⟩

end Toolbox

end Dialogue
