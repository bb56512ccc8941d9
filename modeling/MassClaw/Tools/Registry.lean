import MassClaw.Core.Models
import MassClaw.Lib.Assoc

/-!
# Tools, `app/tools/registry.py`

The registry of a process holds the tools by name.  An agent is offered the
tools its `supported_tools` value names; a value that names none sends the
registry back to the capabilities of the agent.
-/

namespace MassClaw

/-- `ToolProvider`, without its `execute` method. -/
structure ToolProvider where
  name : String
  description : String
  parametersSchema : Json := .dict []
  requiredCapabilities : List String := []
  estimatedCostCredits : ℚ := 0

/-- `to_schema`. -/
def ToolProvider.toSchema (tool : ToolProvider) : Json :=
  .dict [("name", .str tool.name), ("description", .str tool.description),
    ("input_schema", tool.parametersSchema)]

/-- `ToolRegistry`: each tool under its own name, once. -/
structure ToolRegistry where
  tools : List (String × ToolProvider)
  nodup : (Assoc.keys tools).Nodup
  named : ∀ entry ∈ tools, entry.2.name = entry.1

namespace ToolRegistry

/-- The registry without tools. -/
def empty : ToolRegistry where
  tools := []
  nodup := List.nodup_nil
  named := by simp

/-- `register`: a tool of the same name is replaced. -/
def register (registry : ToolRegistry) (tool : ToolProvider) : ToolRegistry where
  tools := Assoc.set registry.tools tool.name tool
  nodup := Assoc.nodup_set tool.name tool registry.nodup
  named := by
    intro entry hentry
    unfold Assoc.set at hentry
    split at hentry
    · obtain ⟨old, hold, rfl⟩ := List.mem_map.1 hentry
      split
      · rename_i hname
        exact hname.symm
      · exact registry.named old hold
    · rcases List.mem_append.1 hentry with hold | hnew
      · exact registry.named entry hold
      · rw [List.mem_singleton.1 hnew]

/-- `get`. -/
def get (registry : ToolRegistry) (name : String) : Option ToolProvider :=
  (registry.tools.find? (fun entry => entry.1 = name)).map Prod.snd

/-- `list_tools`. -/
def listTools (registry : ToolRegistry) : List ToolProvider := registry.tools.map Prod.snd

/-- `get_tools_for_capabilities`. -/
def getToolsForCapabilities (registry : ToolRegistry) (capabilities : List String) :
    List ToolProvider :=
  registry.listTools.filter (fun tool =>
    tool.requiredCapabilities.any (fun capability => capability ∈ capabilities))

/-- A value that can be put into a Python set. -/
def hashable : Json → Bool
  | .list _ | .dict _ => false
  | _ => true

/-- `allowed_names`; `none` is the `TypeError` of a list with an element that
cannot be hashed. -/
def allowedNames (supported : Json) : Option (List Json) :=
  match supported with
  | .dict entries =>
    some ((entries.filter (fun entry => entry.2.truthy)).map (fun entry => .str entry.1))
  | .list items => if items.all hashable then some items else none
  | _ => some []

/-- `get_tools_for_agent`; `none` is the `TypeError`. -/
def getToolsForAgent (registry : ToolRegistry) (agent : Agent) : Option (List ToolProvider) :=
  let byCapabilities := registry.getToolsForCapabilities agent.capabilities
  if agent.supportedTools.truthy then
    (allowedNames agent.supportedTools).map (fun allowed =>
      if allowed.isEmpty then byCapabilities
      else (registry.tools.filter (fun entry =>
        allowed.any (fun name => name.asString? = some entry.1))).map Prod.snd)
  else some byCapabilities

/-! ## Lookups -/

/-- A lookup returns the tool of that name. -/
theorem get_eq_some {registry : ToolRegistry} {name : String} {tool : ToolProvider}
    (h : registry.get name = some tool) : (name, tool) ∈ registry.tools ∧ tool.name = name := by
  obtain ⟨entry, hentry, rfl⟩ := Option.map_eq_some_iff.1 h
  have hmem := List.mem_of_find?_eq_some hentry
  have hname : entry.1 = name := by simpa using List.find?_some hentry
  subst hname
  exact ⟨hmem, registry.named entry hmem⟩

/-- The tool registered last is the one that is found. -/
theorem get_register_self (registry : ToolRegistry) (tool : ToolProvider) :
    (registry.register tool).get tool.name = some tool := by
  have hentry : (tool.name, tool) ∈ (registry.register tool).tools := by
    show (tool.name, tool) ∈ Assoc.set registry.tools tool.name tool
    unfold Assoc.set
    split
    · rename_i hkey
      obtain ⟨old, hold, hname⟩ := List.mem_map.1 hkey
      exact List.mem_map.2 ⟨old, hold, by rw [if_pos hname, hname]⟩
    · exact List.mem_append_right _ (List.mem_singleton_self _)
  cases hfind : (registry.register tool).tools.find? (fun entry => entry.1 = tool.name) with
  | none =>
    have hnone := List.find?_eq_none.1 hfind _ hentry
    simp at hnone
  | some found =>
    have hname : found.1 = tool.name := by simpa using List.find?_some hfind
    have hfound := List.mem_of_find?_eq_some hfind
    have heq : found = (tool.name, tool) :=
      List.inj_on_of_nodup_map (registry.register tool).nodup hfound hentry hname
    rw [get, hfind, heq]
    rfl

/-- Other tools are found as before. -/
theorem get_register_ne (registry : ToolRegistry) (tool : ToolProvider) {name : String}
    (h : name ≠ tool.name) : (registry.register tool).get name = registry.get name := by
  unfold get register
  rw [Assoc.find?_set]
  intro entry hentry
  simpa [hentry] using Ne.symm h

end ToolRegistry

end MassClaw
