import Dialogue.Proofs.Startup
import Dialogue.Proofs.ToolServer.Dispatch

/-!
# Which tool a call reaches

An agent is put together from the arithmetic tools and from those of several servers, so a call has
to reach the one tool that has its name, and through it the one server that listed the tool.

Main statements: `Agent.dispatch_of_assemble` and `Startup.dispatch_of_build`.
-/

namespace Dialogue

open Http (Network Sent)
open ToolServer (Definition Discovery Dispatches Found remoteTool)

variable {ω : Type}

namespace Agent

variable {net : Network ω} {settings : Settings} {backend : Backend (World (ω × List Sent))}
  {overrides : Overrides} {remote : List (Tool (World (ω × List Sent)))}
  {a : Agent (World (ω × List Sent))} {server url : String} {d : Definition} {call : Call}
  {w : World (ω × List Sent)}

/-- A call of a tool that a server listed, with arguments that fit, is run by that tool. -/
theorem execute_remoteTool (h : assemble settings backend remote overrides = .ok a)
    (hremote : remoteTool net.recorded server d ∈ remote) (hname : call.name = d.name)
    (hfits : Tool.Fits d.signature.requiredArguments call.arguments) :
    a.toolbox.execute call w = (remoteTool net.recorded server d).run call w := by
  have hget : a.toolbox.get? call.name = some (remoteTool net.recorded server d) := by
    rw [hname]
    exact get?_of_assemble h (.inr hremote)
  have hcheck : (remoteTool net.recorded server d).check call = .ok () :=
    Tool.check_eq_ok_iff.mpr hfits
  simp only [Toolbox.execute, hget, hcheck]

/-- Such a call is one message to the server that listed the tool. -/
theorem dispatches_of_assemble (h : assemble settings backend remote overrides = .ok a)
    (hremote : remoteTool net.recorded server d ∈ remote) (hname : call.name = d.name)
    (hfits : Tool.Fits d.signature.requiredArguments call.arguments)
    (hspeaks : (w.clients server).SpeaksWith server url) :
    Dispatches net server url call w (a.toolbox.execute call w).2 := by
  rw [execute_remoteTool h hremote hname hfits]
  exact ToolServer.dispatches_remoteTool net d call hspeaks

/-- **Assembly and dispatch.** Whatever the settings, the backend and what overrides the settings,
an agent is put together if and only if the tools of servers have names of their own, other than
those of the arithmetic tools; otherwise the first of them whose name is taken is told. Its toolbox
has the names of both, in ascending order, and each name leads to its tool. A call of a tool of a
server, with arguments that fit, is one message to the address at which the client of that server
has a session. It carries the name and the arguments of the call; nothing else is sent, and no
client but that of the server is used. -/
theorem dispatch_of_assemble (net : Network ω) (settings : Settings)
    (backend : Backend (World (ω × List Sent))) (overrides : Overrides)
    (remote : List (Tool (World (ω × List Sent)))) :
    let builtIn := ["add", "divide", "multiply"]
    let outcome := assemble settings backend remote overrides
    ((∃ a, outcome = .ok a) ↔ Toolbox.Fresh builtIn remote) ∧
    (∀ e, outcome = .error e ↔
      ∃ t, Toolbox.FirstTaken builtIn remote t ∧ e = .duplicateTool t.name) ∧
    ∀ a, outcome = .ok a →
      a.toolbox.names.Pairwise (· < ·) ∧
      a.toolbox.names.Perm (builtIn ++ remote.map Tool.name) ∧
      a.toolbox.get? "add" = some Arithmetic.add ∧
      a.toolbox.get? "divide" = some Arithmetic.divide ∧
      a.toolbox.get? "multiply" = some Arithmetic.multiply ∧
      (∀ t ∈ remote, a.toolbox.get? t.name = some t) ∧
      ∀ server d, remoteTool net.recorded server d ∈ remote →
        ∀ (call : Call) (w : World (ω × List Sent)) (url : String), call.name = d.name →
          Tool.Fits d.signature.requiredArguments call.arguments →
          (w.clients server).SpeaksWith server url →
          Dispatches net server url call w (a.toolbox.execute call w).2 := by
  intro builtIn outcome
  have hnames : (Arithmetic.toolbox : Toolbox (World (ω × List Sent))).names = builtIn := rfl
  refine ⟨?_, fun e => ?_, fun a ha => ⟨(built_of_assemble ha).ascending, ?_, ?_, ?_, ?_,
    fun t ht => get?_of_assemble ha (.inr ht), ?_⟩⟩
  · rw [exists_assemble_iff, Toolbox.exists_extendAll_iff, hnames]
  · rw [assemble_eq_error_iff, Toolbox.extendAll_eq_error_iff, hnames]
  · have hperm := Toolbox.perm_of_extendAll (extendAll_of_assemble ha)
    rw [← hnames, Toolbox.names, Toolbox.names, ← List.map_append]
    exact hperm.map Tool.name
  · exact get?_of_assemble (t := Arithmetic.add) ha (.inl (by simp [Arithmetic.toolbox]))
  · exact get?_of_assemble (t := Arithmetic.divide) ha (.inl (by simp [Arithmetic.toolbox]))
  · exact get?_of_assemble (t := Arithmetic.multiply) ha (.inl (by simp [Arithmetic.toolbox]))
  · intro server d hremote call w url hname hfits hspeaks
    exact dispatches_of_assemble ha hremote hname hfits hspeaks

/-- Two servers that each list a tool; a call of the second tool goes to the second server. -/
theorem dispatch_of_assemble_pair :
    let servers := [("first", "http://a/"), ("second", "http://b/")]
    let schema := Json.object [("required", .arr [.str "q"])]
    let x : Definition := ⟨"x", none, Definition.anyObject⟩
    let y : Definition := ⟨"y", none, schema⟩
    let texts := ["\x7b\"id\":1\x7d", "",
      "\x7b\"id\":2,\"result\":\x7b\"tools\":[\x7b\"name\":\"x\"\x7d]\x7d\x7d",
      "\x7b\"id\":1\x7d", "", "\x7b\"id\":2,\"result\":\x7b\"tools\":[\x7b\"name\":\"y\"," ++
        "\"inputSchema\":\x7b\"required\":[\"q\"]\x7d\x7d]\x7d\x7d"]
    let net : Network (List String) := fun r => Discovery.recite r.url r
    let found : List Found := [⟨"first", [x], ⟨"first", "http://a/", 3, none⟩⟩,
      ⟨"second", [y], ⟨"second", "http://b/", 3, none⟩⟩]
    let settings : Settings :=
      ⟨"test", false, ⟨"https://host", "gpt", "v1", none, none⟩, servers, none, none, none⟩
    let backend : Backend (World (List String × List Sent)) :=
      ⟨"none", fun _ w => (⟨.error (.backendUnavailable "none"), 0⟩, w), fun w => (.ok true, w)⟩
    let remote := Discovery.tools net.recorded found
    let w := Discovery.withClients found (World.initial (([] : List String), ([] : List Sent)))
    let call : Call := ⟨"1", "y", .obj [("q", .str "z")]⟩
    (Discovery.run net (Discovery.oneByOne 1 2) 1 servers texts).1 = .found found ∧
      ∃ a, assemble settings backend remote ⟨false, none⟩ = .ok a ∧
        Dispatches net "second" "http://b/" call w (a.toolbox.execute call w).2 := by
  intro servers schema x y texts net found settings backend remote w call
  have hfound : (Discovery.run net (Discovery.oneByOne 1 2) 1 servers texts).1 = .found found := by
    decide +kernel
  obtain ⟨hassemble, -, hagent⟩ :=
    dispatch_of_assemble net settings backend ⟨false, none⟩ remote
  have hfresh : Toolbox.Fresh ["add", "divide", "multiply"] remote := by
    unfold Toolbox.Fresh
    decide +kernel
  obtain ⟨a, ha⟩ := hassemble.mpr hfresh
  obtain ⟨-, -, -, -, -, -, hcall⟩ := hagent a ha
  have hspeaks : (w.clients "second").SpeaksWith "second" "http://b/" := by
    obtain ⟨url, hurl, hspeaks⟩ := Discovery.speaksWith_of_run hfound
      ⟨"second", [y], ⟨"second", "http://b/", 3, none⟩⟩ (by simp [found])
    obtain rfl : url = "http://b/" := by simpa [servers] using hurl
    exact hspeaks
  have hfits : Tool.Fits y.signature.requiredArguments call.arguments :=
    ⟨[("q", .str "z")], rfl, by decide +kernel⟩
  exact ⟨hfound, a, ha,
    hcall "second" y (.tail _ (.head _)) call w "http://b/" rfl hfits hspeaks⟩

end Agent

/-! ## Agents that are started -/

namespace Startup

variable {outside : Outside ω} {schedule : List Nat} {fuel : Nat} {settings : Settings}
  {overrides : Overrides} {w : World ω} {a : Agent (World ω)}

/-- No tool of an agent with tools that discovery found closes a session. -/
theorem keepsSessions_of_assemble {backend : Backend (World ω)} {net : Network ω}
    {found : List Found}
    (h : Agent.assemble settings backend (Discovery.tools net found) overrides = .ok a) :
    ∀ t ∈ a.toolbox.tools, ToolServer.KeepsSessions t := by
  intro t ht
  rcases (Agent.mem_tools_of_assemble h).mp ht with hlocal | hremote
  · exact ToolServer.keepsSessions_of_isFunction (Arithmetic.isFunction hlocal)
  · obtain ⟨f, -, ht⟩ := List.mem_flatMap.mp hremote
    obtain ⟨d, -, rfl⟩ := List.mem_map.mp ht
    exact ToolServer.keepsSessions_remoteTool net f.server d

/-- **Dispatch after startup.** When an agent was started with tools of servers and any calls were
run since, a call of a tool that a server listed, with arguments that fit, is one message to the
address that the settings have for that server. -/
theorem dispatch_of_build {net : Network ω} {outside : Outside (ω × List Sent)}
    {w : World (ω × List Sent)} {a : Agent (World (ω × List Sent))}
    (hnet : outside.network = net.recorded) (hservers : settings.toolServers.Ascending)
    (hremote : overrides.localToolsOnly = false)
    (h : (build outside schedule fuel settings overrides w).1 = .ready a) (now : Time.Instant)
    (calls : List Call) :
    let started := (build outside schedule fuel settings overrides w).2
    let w' := (a.toolbox.runCalls now calls started).2
    ∃ found, (Discovery.run net.recorded schedule fuel settings.toolServers w.outside).1 =
        .found found ∧
      ∀ f ∈ found, ∀ d ∈ f.definitions, ∀ call : Call, call.name = d.name →
        Tool.Fits d.signature.requiredArguments call.arguments →
        ∃ url, (f.server, url) ∈ settings.toolServers ∧
          Dispatches net f.server url call w' (a.toolbox.execute call w').2 := by
  intro started w'
  obtain ⟨found, o, hrun, hassemble, hstarted⟩ := exists_found_of_build hremote h
  rw [hnet] at hrun hassemble
  have hfound := congrArg Prod.fst hrun
  refine ⟨found, hfound, fun f hf d hd call hname hfits => ?_⟩
  obtain ⟨url, hurl, hspeaks⟩ := Discovery.speaksWith_of_run hfound f hf
  have hclient : started.clients f.server = f.client := by
    simp only [started, hstarted]
    exact Discovery.clients_withClients _ (Discovery.nodup_server_of_run hservers hfound) f hf
  have hopen : (w'.clients f.server).SpeaksWith f.server url := by
    refine ToolServer.speaksWith_runCalls (keepsSessions_of_assemble hassemble) now calls ?_
    rw [hclient]
    exact hspeaks
  have hmem : remoteTool net.recorded f.server d ∈ Discovery.tools net.recorded found :=
    List.mem_flatMap.mpr ⟨f, hf, List.mem_map_of_mem hd⟩
  exact ⟨url, hurl, Agent.dispatches_of_assemble hassemble hmem hname hfits hopen⟩

end Startup

end Dialogue
