import Dialogue.Proofs.Tool.Failure
import Dialogue.Proofs.Tool.Order

/-!
# Calls that are refused

A toolbox refuses a call before any tool runs: if there is no tool of the name, or if the arguments
do not fit the signature of the tool. Whether it does is settled by the signatures alone, so it
makes no difference what the tools do, and the world is left as it is.

Main statements: `Refuses.execute` and `Refuses.of_signatures` (what a refusal is),
`refuses_or_runs` (a call that is not refused is what the tool makes of it), and
`check_eq_error_iff` (which arguments do not fit).
-/

namespace Dialogue

variable {ω σ : Type}

theorem Json.members?_eq_some_iff {v : Json} {ms : Members} :
    v.members? = some ms ↔ v = .obj ms := by
  cases v <;> simp [members?]

namespace Tool

/-- The arguments of a call do not fit a list of required names: they are not an object, or a name
is missing, and then the first that is missing is told. -/
inductive Lacks (required : List String) (c : Call) : (detail : String) → Prop where
  | notObject : (∀ ms, c.arguments ≠ .obj ms) →
      Lacks required c ("Arguments for '" ++ c.name ++ "' must be a JSON object")
  | missing {ms : Members} {before after : List String} {name : String} :
      c.arguments = .obj ms → required = before ++ name :: after →
      (∀ n ∈ before, n ∈ ms.map (·.1)) → name ∉ ms.map (·.1) →
      Lacks required c ("Missing required parameter: " ++ name)

/-- Arguments do not fit if they are not an object, or if a name is missing. -/
theorem exists_lacks_iff {required : List String} {c : Call} :
    (∃ detail, Lacks required c detail) ↔
      (∀ ms, c.arguments ≠ .obj ms) ∨
        ∃ ms, c.arguments = .obj ms ∧ ∃ n ∈ required, n ∉ ms.map (·.1) := by
  constructor
  · rintro ⟨-, hnot | ⟨hobj, rfl, -, hmissing⟩⟩
    · exact .inl hnot
    · exact .inr ⟨_, hobj, _, by simp, hmissing⟩
  · rintro (hnot | ⟨ms, hobj, n, hn, hmissing⟩)
    · exact ⟨_, .notObject hnot⟩
    · have hfind : ∃ m, required.find? (fun n => decide (n ∉ ms.map (·.1))) = some m := by
        rw [← Option.isSome_iff_exists, List.find?_isSome]
        exact ⟨n, hn, decide_eq_true hmissing⟩
      obtain ⟨m, hm⟩ := hfind
      obtain ⟨hlast, before, after, hsplit, hbefore⟩ := List.find?_eq_some_iff_append.mp hm
      refine ⟨_, .missing hobj hsplit (fun k hk => ?_) (of_decide_eq_true hlast)⟩
      simpa using hbefore k hk

/-- The missing name that is told is the first in the order of the list. -/
theorem missing?_eq_some_iff {t : Tool ω} {ms : Members} {name : String} :
    t.missing? ms = some name ↔
      ∃ before after, t.signature.requiredArguments = before ++ name :: after ∧
        (∀ n ∈ before, n ∈ ms.map (·.1)) ∧ name ∉ ms.map (·.1) := by
  have hnone (n : String) : (Table.lookup n ms).isNone = true ↔ n ∉ ms.map (·.1) := by
    rw [Option.isNone_iff_eq_none, Table.lookup_eq_none_iff]
  rw [missing?, List.find?_eq_some_iff_append, hnone]
  constructor
  · rintro ⟨hname, before, after, hsplit, hbefore⟩
    refine ⟨before, after, hsplit, fun n hn => ?_, hname⟩
    exact Decidable.not_not.mp fun h => by simpa [(hnone n).mpr h] using hbefore n hn
  · rintro ⟨before, after, hsplit, hbefore, hname⟩
    refine ⟨hname, before, after, hsplit, fun n hn => ?_⟩
    rw [Bool.not_eq_true', ← Bool.not_eq_true]
    exact fun h => (hnone n).mp h (hbefore n hn)

/-- Which arguments do not fit a tool, and what is said of them. -/
theorem check_eq_error_iff {t : Tool ω} {c : Call} {e : Failure} :
    t.check c = .error e ↔
      ∃ detail, e = .badArguments detail ∧ Lacks t.signature.requiredArguments c detail := by
  unfold check
  constructor
  · intro h
    split at h
    · next hnone =>
      cases h
      refine ⟨_, rfl, .notObject fun ms hobj => ?_⟩
      rw [hobj] at hnone
      cases hnone
    · next ms hsome =>
      split at h
      · next name hmissing =>
        cases h
        obtain ⟨before, after, hsplit, hbefore, hname⟩ := missing?_eq_some_iff.mp hmissing
        exact ⟨_, rfl, .missing (Json.members?_eq_some_iff.mp hsome) hsplit hbefore hname⟩
      · cases h
  · rintro ⟨detail, rfl, hnot | ⟨hobj, hsplit, hbefore, hname⟩⟩
    · have hnone : c.arguments.members? = none :=
        Option.eq_none_iff_forall_ne_some.mpr fun ms h => hnot ms (Json.members?_eq_some_iff.mp h)
      simp only [hnone]
    · have hmissing := missing?_eq_some_iff.mpr ⟨_, _, hsplit, hbefore, hname⟩
      simp only [Json.members?_eq_some_iff.mpr hobj, hmissing]

/-- Arguments fit a list of required names: they are an object that has all of them. -/
def Fits (required : List String) (arguments : Json) : Prop :=
  ∃ ms, arguments = .obj ms ∧ ∀ n ∈ required, n ∈ ms.map (·.1)

/-- Arguments of which something is told do not fit. -/
theorem Lacks.not_fits {required : List String} {c : Call} {detail : String}
    (h : Lacks required c detail) : ¬Fits required c.arguments := by
  rintro ⟨ms, hms, hall⟩
  rcases exists_lacks_iff.mp ⟨detail, h⟩ with hnot | ⟨ms', hms', n, hn, hmissing⟩
  · exact hnot ms hms
  · cases Json.obj.inj (hms.symm.trans hms')
    exact hmissing (hall n hn)

/-- A call is checked well if its arguments fit. -/
theorem check_eq_ok_iff {t : Tool ω} {c : Call} :
    t.check c = .ok () ↔ Fits t.signature.requiredArguments c.arguments := by
  unfold check
  split
  · next hnone =>
    constructor
    · intro h
      cases h
    · rintro ⟨ms, hobj, -⟩
      rw [hobj] at hnone
      cases hnone
  · next ms hsome =>
    have hobj := Json.members?_eq_some_iff.mp hsome
    split
    · next name hmissing =>
      constructor
      · intro h
        cases h
      · rintro ⟨ms', hobj', hall⟩
        obtain rfl := Json.obj.inj (hobj.symm.trans hobj')
        obtain ⟨before, after, hsplit, -, hname⟩ := missing?_eq_some_iff.mp hmissing
        exact absurd (hall name (hsplit ▸ by simp)) hname
    · next hnone =>
      refine ⟨fun _ => ⟨ms, hobj, fun n hn => ?_⟩, fun _ => rfl⟩
      have hfound := List.find?_eq_none.mp hnone n hn
      rw [Option.isNone_iff_eq_none, Table.lookup_eq_none_iff] at hfound
      exact Decidable.not_not.mp hfound

/-- Tools of one signature check alike. -/
theorem check_of_signature {t : Tool ω} {u : Tool σ} (h : t.signature = u.signature) (c : Call) :
    t.check c = u.check c := by
  unfold check missing?
  rw [h]

end Tool

namespace Toolbox

variable {b : Toolbox ω} {c : Call} {e : Failure}

/-- A call fails before any tool runs. -/
inductive Refuses (b : Toolbox ω) (c : Call) : Failure → Prop where
  | notFound : b.get? c.name = none → Refuses b c (.toolNotFound c.name)
  | unfit {t : Tool ω} {e : Failure} : b.get? c.name = some t → t.check c = .error e →
      Refuses b c e

/-- A call that is refused leaves the world as it is. -/
theorem Refuses.execute (h : b.Refuses c e) (w : ω) : b.execute c w = (.error e, w) := by
  cases h with
  | notFound hnone => simp only [Toolbox.execute, hnone]
  | unfit hsome hcheck => simp only [Toolbox.execute, hsome, hcheck]

/-- A call that is not refused is what its tool makes of it. -/
theorem refuses_or_runs (b : Toolbox ω) (c : Call) :
    (∃ e, b.Refuses c e) ∨ ∃ t, b.get? c.name = some t ∧ t.check c = .ok () ∧
      ∀ w, b.execute c w = t.run c w := by
  rcases hget : b.get? c.name with _ | t
  · exact .inl ⟨_, .notFound hget⟩
  · rcases hcheck : t.check c with e | ⟨⟩
    · exact .inl ⟨e, .unfit hget hcheck⟩
    · refine .inr ⟨t, rfl, hcheck, fun w => ?_⟩
      simp only [execute, hget, hcheck]

/-- The signature of a tool is found under the same name. -/
theorem signature_get? (b : Toolbox ω) (name : String) :
    (b.get? name).map (·.signature) = b.signatures.find? (·.name == name) := by
  rw [signatures, List.find?_map]
  rfl

/-- What is refused depends on the signatures alone. -/
theorem Refuses.of_signatures {b' : Toolbox σ} (h : b.Refuses c e)
    (hsignatures : b'.signatures = b.signatures) : b'.Refuses c e := by
  have hget : (b'.get? c.name).map (·.signature) = (b.get? c.name).map (·.signature) := by
    rw [signature_get?, signature_get?, hsignatures]
  cases h with
  | notFound hnone =>
    rw [hnone, Option.map_none, Option.map_eq_none_iff] at hget
    exact .notFound hget
  | unfit hsome hcheck =>
    rw [hsome, Option.map_some] at hget
    obtain ⟨u, hu, hsignature⟩ := Option.map_eq_some_iff.mp hget
    exact .unfit hu ((Tool.check_of_signature hsignature c).trans hcheck)

/-- A call of a name without a tool is refused, and no other call for that reason. -/
theorem refuses_notFound_iff {name : String} :
    b.Refuses c (.toolNotFound name) ↔ name = c.name ∧ b.get? c.name = none := by
  constructor
  · intro h
    cases h with
    | notFound hnone => exact ⟨rfl, hnone⟩
    | unfit _ hcheck =>
      obtain ⟨detail, hdetail, -⟩ := Tool.check_eq_error_iff.mp hcheck
      cases hdetail
  · rintro ⟨rfl, hnone⟩
    exact .notFound hnone

/-- A call of a name with a tool is refused if its arguments do not fit. -/
theorem refuses_badArguments_iff {t : Tool ω} {detail : String} (ht : b.get? c.name = some t) :
    b.Refuses c (.badArguments detail) ↔
      Tool.Lacks t.signature.requiredArguments c detail := by
  constructor
  · intro h
    cases h with
    | unfit hsome hcheck =>
      obtain rfl : t = _ := Option.some.inj (ht.symm.trans hsome)
      obtain ⟨_, ⟨⟩, hlacks⟩ := Tool.check_eq_error_iff.mp hcheck
      exact hlacks
  · intro h
    exact .unfit ht (Tool.check_eq_error_iff.mpr ⟨detail, rfl, h⟩)

/-- Functions and tools of servers do not fail in the ways in which calls are refused. -/
theorem execute_eq_error_iff {w : ω} (htools : ∀ t ∈ b.tools, t.IsFunction ∨ t.IsRemote)
    (he : (∃ name, e = .toolNotFound name) ∨ ∃ detail, e = .badArguments detail) :
    (b.execute c w).1 = .error e ↔ b.Refuses c e := by
  refine ⟨fun h => ?_, fun h => by rw [h.execute w]⟩
  rcases b.refuses_or_runs c with ⟨e', hrefuses⟩ | ⟨t, ht, -, hrun⟩
  · rw [hrefuses.execute w] at h
    cases h
    exact hrefuses
  · have hkind : (∃ detail, e = .toolFailed detail) ∨ ∃ detail, e = .toolServer detail := by
      rw [hrun w] at h
      rcases htools t (List.mem_of_find?_eq_some ht) with hfunction | hremote
      · exact .inl (hfunction.run_failure (Prod.ext h rfl))
      · exact hremote.run_failure (Prod.ext h rfl)
    rcases he with ⟨name, rfl⟩ | ⟨detail, rfl⟩ <;> simp at hkind

/-- In a toolbox that was put together one tool after another, a name has one tool. -/
theorem Built.get?_eq_some (h : b.Built) {t : Tool ω} (ht : t ∈ b.tools) :
    b.get? t.name = some t := by
  have hasc := h.ascending
  rw [names, List.pairwise_map] at hasc
  obtain ⟨before, after, hsplit⟩ := List.append_of_mem ht
  rw [get?, List.find?_eq_some_iff_append]
  refine ⟨beq_self_eq_true _, before, after, hsplit, fun u hu => ?_⟩
  rw [hsplit, List.pairwise_append] at hasc
  have hlt : u.name < t.name := hasc.2.2 u hu t (List.mem_cons_self ..)
  simpa using String.ne_of_lt hlt

end Toolbox

end Dialogue
