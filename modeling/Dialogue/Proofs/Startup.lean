import Dialogue.Proofs.Agent.Assembly
import Dialogue.Startup

/-!
# Agents that are started

An agent that comes of `Startup.build` has the arithmetic tools and, unless the servers are left
alone, the tools that discovery found. So what is asked of a toolbox elsewhere holds of every agent
that is started: it was put together one tool after another, and its tools are functions or tools of
servers.

Main statements: `exists_found_of_build` and `toolbox_of_build`.
-/

namespace Dialogue

open ToolServer (Discovery)

variable {ω : Type}

/-- What is discovered are tools of servers. -/
theorem ToolServer.Discovery.isRemote {net : Http.Network ω} {servers : List ToolServer.Found}
    {t : Tool (World ω)} (h : t ∈ Discovery.tools net servers) : t.IsRemote := by
  obtain ⟨f, -, ht⟩ := List.mem_flatMap.mp h
  obtain ⟨d, -, rfl⟩ := List.mem_map.mp ht
  exact .intro net f.server d

namespace Startup

variable {outside : Outside ω} {schedule : List Nat} {fuel : Nat} {settings : Settings}
  {overrides : Overrides} {w : World ω} {a : Agent (World ω)}

theorem assemble_eq_ready_iff {remote : List (Tool (World ω))} :
    assemble outside settings overrides remote = .ready a ↔
      Agent.assemble settings (backendOf outside settings) remote overrides = .ok a := by
  unfold assemble
  rcases Agent.assemble settings (backendOf outside settings) remote overrides with e | a' <;> simp

/-- An agent that is started with tools of servers has those that discovery found, and their clients
are at hand. -/
theorem exists_found_of_build (hremote : overrides.localToolsOnly = false)
    (h : (build outside schedule fuel settings overrides w).1 = .ready a) :
    ∃ found o, Discovery.run outside.network schedule fuel settings.toolServers w.outside =
        (.found found, o) ∧
      Agent.assemble settings (backendOf outside settings)
        (Discovery.tools outside.network found) overrides = .ok a ∧
      (build outside schedule fuel settings overrides w).2 =
        Discovery.withClients found { w with outside := o } := by
  rcases hrun : Discovery.run outside.network schedule fuel settings.toolServers w.outside with
    ⟨found | e | _, o⟩ <;>
  simp only [build, hremote, Bool.false_eq_true, if_false, hrun, reduceCtorEq] at h ⊢
  exact ⟨found, o, rfl, assemble_eq_ready_iff.mp h, rfl⟩

/-- The tools of an agent, however many of servers it is put together with. -/
theorem toolbox_of_assemble {backend : Backend (World ω)} {remote : List (Tool (World ω))}
    (hremote : ∀ t ∈ remote, t.IsRemote)
    (h : Agent.assemble settings backend remote overrides = .ok a) :
    a.toolbox.Built ∧ ∀ t ∈ a.toolbox.tools, t.IsFunction ∨ t.IsRemote := by
  refine ⟨Agent.built_of_assemble h, fun t ht => ?_⟩
  rcases (Agent.mem_tools_of_assemble h).mp ht with hlocal | hadded
  · exact .inl (Arithmetic.isFunction hlocal)
  · exact .inr (hremote t hadded)

/-- **What agents are started with.** Whatever the settings and the servers, the toolbox of an agent
that is started was put together one tool after another from functions and tools of servers. -/
theorem toolbox_of_build (h : (build outside schedule fuel settings overrides w).1 = .ready a) :
    a.toolbox.Built ∧ ∀ t ∈ a.toolbox.tools, t.IsFunction ∨ t.IsRemote := by
  cases hremote : overrides.localToolsOnly with
  | true =>
    rw [build, if_pos hremote] at h
    exact toolbox_of_assemble (List.forall_mem_nil _) (assemble_eq_ready_iff.mp h)
  | false =>
    obtain ⟨found, o, -, hassemble, -⟩ := exists_found_of_build hremote h
    exact toolbox_of_assemble (fun _ => Discovery.isRemote) hassemble

end Startup

end Dialogue
