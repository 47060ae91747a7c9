import Dialogue.Proofs.Chat.Groups
import Dialogue.Proofs.Tool.Refusal

/-!
# What is offered is what is enforced

A request offers tools to the model: each with its name and a schema for the arguments. Calls of the
model are checked by other code than writes the offers. Here the two are compared: an offer is read
as the model sees it, with no word about signatures, and decides which calls are refused, with which
message, and that nothing runs then.

Main statement: `execute_of_offers`. It puts together how an offer is read back
(`listedNames_toolBody`, `exists_tool_of_offer`) and which calls are refused
(`Toolbox.refuses_notFound_iff`, `Toolbox.refuses_badArguments_iff`).
-/

namespace Dialogue.Chat

/-- The names that an offer lists as required, in its order: the strings of an array `required` in
the schema of the arguments. -/
def listedNames (offer : Json) : List String :=
  match ((offer.get? "function").bind (·.get? "parameters")).bind (·.get? "required") with
  | some (.arr items) => items.filterMap Json.text?
  | _ => []

theorem offeredName_toolBody (s : Signature) : offeredName (toolBody s) = some (.str s.name) := by
  simp [toolBody, offeredName, Json.get?_object]

/-- The required names that the model is shown are those that are checked, whatever the schema. -/
theorem listedNames_toolBody (s : Signature) : listedNames (toolBody s) = s.requiredArguments := by
  have hschema : ((toolBody s).get? "function").bind (·.get? "parameters") =
      some s.argumentSchema := by
    simp [toolBody, Json.get?_object]
  rw [listedNames, hschema, Option.bind_some, Signature.requiredArguments, Signature.requiredOf]
  rcases s.argumentSchema.get? "required" with _ | v
  · rfl
  · cases v <;> rfl

section

variable {ω : Type} {b : Toolbox ω}

/-- What is offered under a name is the tool that is found under it. -/
theorem exists_tool_of_offer (hbuilt : b.Built) {v : Json} {name : String}
    (hv : v ∈ toolsBody b.signatures) (hname : offeredName v = some (.str name)) :
    ∃ t, b.get? name = some t ∧ t ∈ b.tools ∧ v = toolBody t.signature := by
  obtain ⟨s, hs, rfl⟩ := List.mem_map.mp hv
  obtain ⟨t, ht, rfl⟩ := List.mem_map.mp hs
  rw [offeredName_toolBody] at hname
  obtain rfl : t.signature.name = name := by simpa using hname
  exact ⟨t, hbuilt.get?_eq_some ht, ht, rfl⟩

/-- A name is without a tool if nothing is offered under it. -/
theorem get?_eq_none_iff {name : String} :
    b.get? name = none ↔ ∀ v ∈ toolsBody b.signatures, offeredName v ≠ some (.str name) := by
  rw [Toolbox.get?, List.find?_eq_none, toolsBody, Toolbox.signatures, List.map_map,
    List.forall_mem_map]
  refine forall₂_congr fun t _ => ?_
  rw [Function.comp_apply, offeredName_toolBody]
  simp [Tool.name]

/-- **What is offered is what is enforced.** Take a toolbox that was put together one tool after
another from functions and tools of servers, and what it offers. A call is of an unknown tool
exactly if nothing is offered under its name. Else there is one offer, and the arguments are refused
exactly if they are not an object or lack a name that the offer lists; the message tells the first
such name in the order of the list. A call that is refused in either way is refused in the same
words by every toolbox with these signatures, whatever its tools do, and leaves every world as it
is. A call that is not refused gives what the tool makes of it. -/
theorem execute_of_offers (hbuilt : b.Built)
    (htools : ∀ t ∈ b.tools, t.IsFunction ∨ t.IsRemote) (c : Call) (w : ω) :
    (∀ name, (b.execute c w).1 = .error (.toolNotFound name) ↔
      name = c.name ∧ ∀ v ∈ toolsBody b.signatures, offeredName v ≠ some (.str c.name)) ∧
    (∀ v ∈ toolsBody b.signatures, offeredName v = some (.str c.name) →
      (∀ detail, (b.execute c w).1 = .error (.badArguments detail) ↔
        Tool.Lacks (listedNames v) c detail) ∧
      ((∃ detail, (b.execute c w).1 = .error (.badArguments detail)) ↔
        (∀ ms, c.arguments ≠ .obj ms) ∨
          ∃ ms, c.arguments = .obj ms ∧ ∃ n ∈ listedNames v, n ∉ ms.map (·.1)) ∧
      ((∀ detail, (b.execute c w).1 ≠ .error (.badArguments detail)) →
        ∃ t ∈ b.tools, v = toolBody t.signature ∧ b.execute c w = t.run c w)) ∧
    ∀ e, (b.execute c w).1 = .error e →
      ((∃ name, e = .toolNotFound name) ∨ ∃ detail, e = .badArguments detail) →
      ∀ (σ : Type) (b' : Toolbox σ), b'.signatures = b.signatures →
        ∀ w', b'.execute c w' = (.error e, w') := by
  refine ⟨fun name => ?_, fun v hv hname => ?_, fun e he hkind σ b' hsignatures w' => ?_⟩
  · rw [Toolbox.execute_eq_error_iff htools (.inl ⟨name, rfl⟩), Toolbox.refuses_notFound_iff,
      get?_eq_none_iff]
  · obtain ⟨t, ht, hmem, rfl⟩ := exists_tool_of_offer hbuilt hv hname
    have hrefused (detail : String) : (b.execute c w).1 = .error (.badArguments detail) ↔
        Tool.Lacks (listedNames (toolBody t.signature)) c detail := by
      rw [Toolbox.execute_eq_error_iff htools (.inr ⟨detail, rfl⟩),
        Toolbox.refuses_badArguments_iff ht, listedNames_toolBody]
    refine ⟨hrefused, ?_, fun hfits => ⟨t, hmem, rfl, ?_⟩⟩
    · rw [← Tool.exists_lacks_iff]
      exact exists_congr hrefused
    · rcases b.refuses_or_runs c with ⟨e, hrefuses⟩ | ⟨u, hu, -, hrun⟩
      · -- The name is known, so the arguments would have to be refused.
        cases hrefuses with
        | notFound hnone => cases hnone.symm.trans ht
        | unfit hsome hcheck =>
          obtain ⟨detail, rfl, -⟩ := Tool.check_eq_error_iff.mp hcheck
          have hrefuses : b.Refuses c (.badArguments detail) := .unfit hsome hcheck
          exact absurd (congrArg Prod.fst (hrefuses.execute w)) (hfits detail)
      · obtain rfl : u = t := Option.some.inj (hu.symm.trans ht)
        exact hrun w
  · have hrefuses : b.Refuses c e := (Toolbox.execute_eq_error_iff htools hkind).mp he
    exact (hrefuses.of_signatures hsignatures).execute w'

end

/-- A tool of a server, whose schema lists a number among the required names. -/
def searchTool : Tool (World Unit) :=
  ToolServer.remoteTool .offline "web"
    ⟨"search", none, Json.object [("required", .arr [.str "query", .ofInt 5, .str "site"])]⟩

/-- A search without a site is refused for the site; the number in the list is passed over. -/
theorem execute_of_offers_search :
    (Toolbox.mk [searchTool]).Built ∧
    (∀ t ∈ (Toolbox.mk [searchTool]).tools, t.IsFunction ∨ t.IsRemote) ∧
    toolBody searchTool.signature ∈ toolsBody (Toolbox.mk [searchTool]).signatures ∧
    offeredName (toolBody searchTool.signature) = some (.str "search") ∧
    ((Toolbox.mk [searchTool]).execute ⟨"1", "search", .obj [("query", .null)]⟩
      (.initial ())).1 = .error (.badArguments "Missing required parameter: site") := by
  have hbuilt : (Toolbox.mk [searchTool]).Built := .register .empty rfl
  have htools : ∀ t ∈ (Toolbox.mk [searchTool]).tools, t.IsFunction ∨ t.IsRemote := by
    intro t ht
    obtain rfl : t = searchTool := List.mem_singleton.mp ht
    exact .inr (.intro _ _ _)
  have hoffer : toolBody searchTool.signature ∈
      toolsBody (Toolbox.mk [searchTool]).signatures := List.mem_singleton.mpr rfl
  have hname := offeredName_toolBody searchTool.signature
  have hlisted : listedNames (toolBody searchTool.signature) = ["query"] ++ "site" :: [] := by
    cbv
  obtain ⟨-, hoffered, -⟩ := execute_of_offers hbuilt htools
    ⟨"1", "search", .obj [("query", .null)]⟩ (.initial ())
  refine ⟨hbuilt, htools, hoffer, hname, ((hoffered _ hoffer hname).1 _).mpr ?_⟩
  exact .missing rfl hlisted (by simp) (by simp)

end Dialogue.Chat
