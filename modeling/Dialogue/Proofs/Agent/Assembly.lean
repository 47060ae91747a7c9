import Dialogue.Agent.Assembly
import Dialogue.Program.Arguments
import Dialogue.Proofs.Json.Records
import Dialogue.Proofs.Tool.Adding
import Dialogue.Proofs.Tool.Refusal

/-!
# What agents are put together from

An agent is put together exactly if its toolbox is, and everything else of it is taken over from the
settings and from what overrides them. Its toolbox has the arithmetic tools and those of servers,
each under its own name. The limit comes from two places, and in both of them zero says that there
is no limit; so no agent has a limit of zero.

Main statements: `Agent.assemble_eq_ok_iff`, `Agent.assemble_eq_error_iff`, `Agent.get?_of_assemble`
and `Agent.limit_ne_zero_of_assemble`.
-/

namespace Dialogue

variable {ω : Type} {settings : Settings} {backend : Backend ω} {remote : List (Tool ω)}
  {overrides : Overrides} {a : Agent ω} {e : Failure}

namespace Agent

/-- An agent is put together if the tools of servers can be added to the arithmetic ones. -/
theorem assemble_eq_ok_iff :
    assemble settings backend remote overrides = .ok a ↔
      ∃ toolbox, Arithmetic.toolbox.extendAll remote = .ok toolbox ∧
        ⟨backend, toolbox, settings.instructions.getD defaultInstructions, .unset,
          settings.patience, overrides.limit.getD settings.limit⟩ = a := by
  unfold assemble
  rw [Json.bind_eq_ok_iff]
  simp only [Except.ok.injEq]

/-- It is not if one of them is refused, and for that reason. -/
theorem assemble_eq_error_iff :
    assemble settings backend remote overrides = .error e ↔
      Arithmetic.toolbox.extendAll remote = .error e := by
  unfold assemble
  rcases Arithmetic.toolbox.extendAll remote with e' | b
  · exact ⟨fun h => congrArg Except.error (Except.error.inj h),
      fun h => congrArg Except.error (Except.error.inj h)⟩
  · exact ⟨nofun, nofun⟩

/-- The toolbox of an agent is that of the arithmetic tools with the others added. -/
theorem extendAll_of_assemble (h : assemble settings backend remote overrides = .ok a) :
    Arithmetic.toolbox.extendAll remote = .ok a.toolbox := by
  obtain ⟨toolbox, hadd, rfl⟩ := assemble_eq_ok_iff.mp h
  exact hadd

theorem exists_assemble_iff :
    (∃ a, assemble settings backend remote overrides = .ok a) ↔
      ∃ toolbox, Arithmetic.toolbox.extendAll remote = .ok toolbox :=
  ⟨fun ⟨_, h⟩ => ⟨_, extendAll_of_assemble h⟩,
    fun ⟨_, h⟩ => ⟨_, assemble_eq_ok_iff.mpr ⟨_, h, rfl⟩⟩⟩

/-- The toolbox of an agent was put together one tool after another. -/
theorem built_of_assemble (h : assemble settings backend remote overrides = .ok a) :
    a.toolbox.Built := by
  rw [Toolbox.extendAll_eq_ok (extendAll_of_assemble h)]
  exact Toolbox.built_arithmetic.extend remote

/-- It has the arithmetic tools and those of servers, and no others. -/
theorem mem_tools_of_assemble (h : assemble settings backend remote overrides = .ok a)
    {t : Tool ω} : t ∈ a.toolbox.tools ↔ t ∈ Arithmetic.toolbox.tools ∨ t ∈ remote := by
  rw [(Toolbox.perm_of_extendAll (extendAll_of_assemble h)).mem_iff, List.mem_append]

/-- Every tool, arithmetic or of a server, is found under its name. -/
theorem get?_of_assemble (h : assemble settings backend remote overrides = .ok a) {t : Tool ω}
    (ht : t ∈ Arithmetic.toolbox.tools ∨ t ∈ remote) : a.toolbox.get? t.name = some t :=
  (built_of_assemble h).get?_eq_some ((mem_tools_of_assemble h).mpr ht)

/-- What overrides the limit of the settings comes first. -/
theorem limit_of_assemble (h : assemble settings backend remote overrides = .ok a) :
    a.limit = overrides.limit.getD settings.limit := by
  obtain ⟨toolbox, -, rfl⟩ := assemble_eq_ok_iff.mp h
  rfl

end Agent

/-! ## Limits -/

namespace Settings

@[simp]
theorem unlessZero_ne_zero (n : Nat) : unlessZero n ≠ some 0 := by
  unfold unlessZero
  split
  · exact nofun
  · next hn => exact fun h => hn (Option.some.inj h)

/-- The number of a variable that is set is the one that its value stands for. -/
theorem count_eq_ok_some_iff {vars : Variables} {name : String} {n : Nat} :
    count vars name = .ok (some n) ↔
      ∃ v, vars.value? name = some v ∧ readCount v.toList = some n := by
  unfold count
  rcases vars.value? name with _ | v
  · simp
  · rcases hread : readCount v.toList with _ | m <;> simp [broken, hread]

theorem count_eq_ok_none_iff {vars : Variables} {name : String} :
    count vars name = .ok none ↔ vars.value? name = none := by
  unfold count
  rcases vars.value? name with _ | v
  · simp
  · rcases hread : readCount v.toList with _ | m <;> simp [broken, hread]

/-- The limit of settings is the number of its variable, if it is set. -/
theorem exists_count_of_read {vars : Variables} (h : read vars = .ok settings) :
    ∃ iterations, count vars "AGENT_MAX_ITERATIONS" = .ok iterations ∧
      settings.limit = (iterations.map unlessZero).getD (some defaultLimit) := by
  simp only [read, readBeside, Json.bind_eq_ok_iff] at h
  obtain ⟨_, _, _, _, _, _, _, _, _, _, _, _, iterations, hcount, _, _, hsettings⟩ := h
  obtain rfl := Except.ok.inj hsettings
  refine ⟨iterations, hcount, ?_⟩
  cases iterations <;> rfl

/-- Where the limit of settings comes from. -/
theorem limit_of_read {vars : Variables} (h : read vars = .ok settings) :
    (∀ v, vars.value? "AGENT_MAX_ITERATIONS" = some v →
      ∃ n, readCount v.toList = some n ∧ settings.limit = unlessZero n) ∧
    (vars.value? "AGENT_MAX_ITERATIONS" = none → settings.limit = some defaultLimit) := by
  obtain ⟨iterations, hcount, hlimit⟩ := exists_count_of_read h
  cases iterations with
  | none =>
    have hunset := count_eq_ok_none_iff.mp hcount
    exact ⟨fun v hv => (nomatch hunset.symm.trans hv), fun _ => hlimit⟩
  | some n =>
    obtain ⟨v, hv, hread⟩ := count_eq_ok_some_iff.mp hcount
    refine ⟨fun v' hv' => ?_, fun hunset => nomatch hunset.symm.trans hv⟩
    obtain rfl := Option.some.inj (hv.symm.trans hv')
    exact ⟨n, hread, hlimit⟩

theorem limit_ne_zero_of_read {vars : Variables} (h : read vars = .ok settings) :
    settings.limit ≠ some 0 := by
  obtain ⟨iterations, -, hlimit⟩ := exists_count_of_read h
  rw [hlimit]
  cases iterations with
  | none => exact nofun
  | some n => exact unlessZero_ne_zero n

end Settings

/-- No agent has a limit of zero, whatever the settings and the options say. -/
theorem Agent.limit_ne_zero_of_assemble {vars : Variables} {options : Program.Options}
    (hread : Settings.read vars = .ok settings)
    (h : assemble settings backend remote options.overrides = .ok a) : a.limit ≠ some 0 := by
  rw [limit_of_assemble h]
  rcases hoption : options.limit with _ | n
  · simp only [Program.Options.overrides, hoption, Option.map_none, Option.getD_none]
    exact Settings.limit_ne_zero_of_read hread
  · simp only [Program.Options.overrides, hoption, Option.map_some, Option.getD_some]
    exact Settings.unlessZero_ne_zero n

end Dialogue
