import MassClaw.Scheduler.Completion
import MassClaw.Tools.Registry

/-!
# The tool loop, `_run_tool_loop` and `app/tools/executor.py`

A node with tools is answered in rounds: the LLM returns tool calls, each of
them is executed, and the results go into the next prompt.  The loop offers the
LLM the tools of the agent, but the executor looks a call up by its name in the
registry of the process, whatever was offered.

The loop sends prompts and keeps the texts of results for them; an answer may
be anything, so the prompts are left out.
-/

namespace MassClaw

/-! ## Executing a call -/

/-- `ToolCall`. -/
structure ToolCall where
  name : String
  arguments : List (String × Json) := []

/-- `ToolResult`. -/
structure ToolResult where
  content : String
  success : Bool
  metadata : List (String × Json) := []
  costCredits : ℚ := 0

/-- `InjectionAssessment`, with the risk score as the message prints it. -/
structure InjectionAssessment where
  isSuspicious : Bool
  recommendation : String
  riskScore : String := "0.00"

/-- An answer of the LLM. -/
structure Generation where
  response : LLMResponse
  toolCalls : List ToolCall := []
  metadata : List (String × Json) := []

/-- What the tool loop meets outside its own state.  The calls of a loop are
numbered in the order in which they are dispatched. -/
structure ToolEnvironment where
  host : Host
  /-- `settings.tool_max_iterations`. -/
  toolMaxIterations : Int
  /-- The registry when the loop starts, and when a call is dispatched. -/
  offered : ToolRegistry
  registry : Nat → ToolRegistry
  /-- The injection detector on the text of the arguments; `none` when it times
  out or raises. -/
  assess : Nat → String → Option InjectionAssessment
  /-- What `execute` of the tool ends with. -/
  execute : Nat → Except String ToolResult
  /-- The redacted content, when the filter finds personal data. -/
  redact : Nat → String → Option String
  /-- The answer of the LLM by iteration, or the text of its exception. -/
  generate : Nat → Except String Generation
  /-- The answer to the final call without tools. -/
  summary : Except String Generation

namespace ToolExecutor

/-- The detector wants the call blocked. -/
def blocked (env : ToolEnvironment) (position : Nat) (call : ToolCall) :
    Option InjectionAssessment :=
  (env.assess position ((Json.dict call.arguments).pyStr env.host.repr)).filter (fun assessment =>
    assessment.isSuspicious && assessment.recommendation == "block")

/-- The result of a tool after the content filter. -/
def filterContent (env : ToolEnvironment) (position : Nat) (result : ToolResult) : ToolResult :=
  if result.success ∧ result.content ≠ "" then
    match env.redact position result.content with
    | none => result
    | some content =>
      { result with
        content
        metadata := Assoc.set result.metadata "pii_redacted" (.bool true) }
  else result

/-- `execute_tool`, with the tool whose `execute` method has run. -/
def executeTool (env : ToolEnvironment) (position : Nat) (call : ToolCall) :
    ToolResult × Option ToolProvider :=
  match (env.registry position).get call.name with
  | none => ({ content := s!"Tool not found: {call.name}", success := false }, none)
  | some tool =>
    match blocked env position call with
    | some assessment =>
      ({ content := "Tool execution blocked: input flagged as potentially unsafe " ++
           s!"(risk: {assessment.riskScore})."
         success := false
         metadata := [("blocked_reason", .str "injection_detection")] }, none)
    | none =>
      match env.execute position with
      | .error message =>
        ({ content := s!"Tool execution failed: {message}", success := false }, some tool)
      | .ok result =>
        ({ filterContent env position result with costCredits := tool.estimatedCostCredits },
          some tool)

/-- A tool runs exactly when it is registered and the call is not blocked. -/
theorem executeTool_eq_some {env : ToolEnvironment} {position : Nat} {call : ToolCall}
    {tool : ToolProvider} :
    (executeTool env position call).2 = some tool ↔
      (env.registry position).get call.name = some tool ∧ blocked env position call = none := by
  unfold executeTool
  cases (env.registry position).get call.name with
  | none => simp
  | some found =>
    cases blocked env position call with
    | some assessment => simp
    | none =>
      cases env.execute position with
      | error message => simp
      | ok result => simp

end ToolExecutor

namespace WorkflowScheduler

/-! ## The loop -/

/-- The local variables of the loop, with the tools that have run. -/
structure ToolLoop where
  totalCost : ℚ := 0
  allToolCalls : List Json := []
  dispatched : Nat := 0
  executed : List ToolProvider := []

/-- One call of a round. -/
def dispatchCall (env : ToolEnvironment) (state : ToolLoop) (call : ToolCall) : ToolLoop :=
  let (result, tool) := ToolExecutor.executeTool env state.dispatched call
  { totalCost := state.totalCost + result.costCredits
    allToolCalls := state.allToolCalls ++ [.dict
      [ ("tool", .str call.name)
      , ("arguments", .dict call.arguments)
      , ("result", .str (String.ofList (result.content.toList.take 500)))
      , ("success", .bool result.success) ]]
    dispatched := state.dispatched + 1
    executed := state.executed ++ tool.toList }

/-- `_can_afford_another_round`. -/
def canAffordAnotherRound (workflow : Workflow) (spentThisNode : ℚ) (model : String)
    (maxOutputTokens : Nat) : Bool :=
  let remaining := toFloat workflow.budgetLimit - toFloat workflow.budgetUsed -
    tokensToCredits spentThisNode
  tokensToCredits (estimateCost assumedPromptTokens maxOutputTokens model) ≤ remaining

/-- How the rounds end: by an exception, with an answer, or exhausted after the
last answer. -/
inductive RoundsEnd
  | raised (message : String)
  | answered (answer : Generation)
  | exhausted (last : Option Generation)

/-- The answer of the loop carries the cost of all its calls. -/
def Generation.withCost (generation : Generation) (cost : ℚ) : Generation :=
  { generation with response := { generation.response with cost } }

section Loop

variable (env : ToolEnvironment) (workflow : Workflow) (node : DAGNode)

/-- The rounds that are left, from the given iteration. -/
def toolRounds : Nat → Nat → ToolLoop → Option Generation → RoundsEnd × ToolLoop
  | 0, _, state, last => (.exhausted last, state)
  | remaining + 1, iteration, state, _ =>
    match env.generate iteration with
    | .error message => (.raised message, state)
    | .ok answer =>
      let state := { state with totalCost := state.totalCost + answer.response.cost }
      if answer.toolCalls.isEmpty then
        let metadata :=
          if state.allToolCalls.isEmpty then answer.metadata
          else Assoc.set (Assoc.set answer.metadata "tool_calls" (.list state.allToolCalls))
            "tool_iterations" (.int (iteration + 1))
        (.answered { Generation.withCost answer state.totalCost with metadata }, state)
      else
        let state := answer.toolCalls.foldl (dispatchCall env) state
        if canAffordAnotherRound workflow state.totalCost (selectModel node).1
            (selectModel node).2 then
          toolRounds remaining (iteration + 1) state (some answer)
        else (.exhausted (some answer), state)

/-- A character that `str.strip` removes. -/
def isPySpace (c : Char) : Bool :=
  c.toNat ∈ [0x09, 0x0a, 0x0b, 0x0c, 0x0d, 0x1c, 0x1d, 0x1e, 0x1f, 0x20, 0x85, 0xa0, 0x1680,
    0x2000, 0x2001, 0x2002, 0x2003, 0x2004, 0x2005, 0x2006, 0x2007, 0x2008, 0x2009, 0x200a,
    0x2028, 0x2029, 0x202f, 0x205f, 0x3000]

/-- The keys a forced summary adds to the metadata. -/
def summaryMetadata (state : ToolLoop) (metadata : List (String × Json)) : List (String × Json) :=
  Assoc.set (Assoc.set (Assoc.set (Assoc.set metadata "tool_calls" (.list state.allToolCalls))
    "tool_iterations" (.int env.toolMaxIterations)) "max_iterations_reached" (.bool true))
    "summary_forced" (.bool true)

/-- What the loop returns when it has no text answer. -/
def emptyAnswer (state : ToolLoop) (answer : Generation) : Generation :=
  { response := { answer.response with cost := state.totalCost, content := "" }
    toolCalls := answer.toolCalls
    metadata := Assoc.set (summaryMetadata env state answer.metadata) "summary_empty" (.bool true) }

/-- The `AssertionError` of a loop without a round. -/
def noResponse : String := "tool loop must have produced at least one response"

/-- The end of an exhausted loop. -/
def summarise (state : ToolLoop) (last : Option Generation) : Except String Generation :=
  if canAffordAnotherRound workflow state.totalCost (selectModel node).1 (selectModel node).2 then
    match env.summary with
    | .ok summary =>
      let state := { state with totalCost := state.totalCost + summary.response.cost }
      if summary.response.content.toList.all isPySpace then .ok (emptyAnswer env state summary)
      else
        .ok { Generation.withCost summary state.totalCost with
          metadata := summaryMetadata env state summary.metadata }
    | .error _ =>
      match last with
      | none => .error noResponse
      | some answer => .ok (emptyAnswer env state answer)
  else
    match last with
    | none => .error noResponse
    | some answer => .ok
      { response := { answer.response with cost := state.totalCost, content := "" }
        toolCalls := answer.toolCalls
        metadata := Assoc.set (Assoc.set answer.metadata "tool_calls" (.list state.allToolCalls))
          "budget_truncated" (.bool true) }

/-- What the loop leaves behind. -/
structure ToolLoopResult where
  /-- The schemas the LLM is offered; `none` without tools. -/
  toolSchemas : Option (List Json)
  outcome : Except String Generation
  executed : List ToolProvider

/-- `_run_tool_loop`. -/
def runToolLoop (agent : Agent) : ToolLoopResult :=
  match env.offered.getToolsForAgent agent with
  | none =>
    { toolSchemas := none, outcome := .error "unhashable type", executed := [] }
  | some tools =>
    let (ending, state) := toolRounds env workflow node env.toolMaxIterations.toNat 0 {} none
    { toolSchemas := if tools.isEmpty then none else some (tools.map ToolProvider.toSchema)
      outcome := match ending with
        | .raised message => .error message
        | .answered answer => .ok answer
        | .exhausted last => summarise env workflow node state last
      executed := state.executed }

end Loop

/-! ## The tools that run -/

section Executed

variable {env : ToolEnvironment} {workflow : Workflow} {node : DAGNode}

theorem executed_dispatchCall (state : ToolLoop) (call : ToolCall) :
    (dispatchCall env state call).executed =
      state.executed ++ (ToolExecutor.executeTool env state.dispatched call).2.toList := rfl

theorem dispatched_foldl (calls : List ToolCall) (state : ToolLoop) :
    (calls.foldl (dispatchCall env) state).dispatched = state.dispatched + calls.length := by
  induction calls generalizing state with
  | nil => rfl
  | cons call rest ih =>
    rw [List.foldl_cons, ih, List.length_cons]
    show state.dispatched + 1 + rest.length = _
    omega

/-- A round keeps the tools that have run. -/
theorem executed_foldl (calls : List ToolCall) (state : ToolLoop) :
    state.executed ⊆ (calls.foldl (dispatchCall env) state).executed := by
  induction calls generalizing state with
  | nil => exact List.Subset.refl _
  | cons call rest ih =>
    rw [List.foldl_cons]
    exact List.Subset.trans (List.subset_append_left _ _) (ih (dispatchCall env state call))

/-- The loop keeps the tools that have run. -/
theorem executed_toolRounds (remaining iteration : Nat) (state : ToolLoop)
    (last : Option Generation) :
    state.executed ⊆ (toolRounds env workflow node remaining iteration state last).2.executed := by
  induction remaining generalizing iteration state last with
  | zero => exact List.Subset.refl _
  | succ remaining ih =>
    unfold toolRounds
    cases env.generate iteration with
    | error message => exact List.Subset.refl _
    | ok answer =>
      dsimp only
      split
      · exact List.Subset.refl _
      · have hround := @executed_foldl env answer.toolCalls
          { state with totalCost := state.totalCost + answer.response.cost }
        split
        · exact List.Subset.trans hround (ih _ _ _)
        · exact hround

/-- A tool that has run was dispatched by some call. -/
def RanFrom (env : ToolEnvironment) (state : ToolLoop) (tool : ToolProvider) : Prop :=
  tool ∈ state.executed ∨ ∃ position call, (ToolExecutor.executeTool env position call).2 = some tool

theorem ranFrom_foldl {calls : List ToolCall} {state : ToolLoop} {tool : ToolProvider}
    (h : tool ∈ (calls.foldl (dispatchCall env) state).executed) : RanFrom env state tool := by
  induction calls generalizing state with
  | nil => exact Or.inl h
  | cons call rest ih =>
    rw [List.foldl_cons] at h
    rcases ih h with hstate | hcall
    · rcases List.mem_append.1 hstate with hold | hnew
      · exact Or.inl hold
      · exact Or.inr ⟨state.dispatched, call, Option.mem_toList.1 hnew⟩
    · exact Or.inr hcall

theorem ranFrom_toolRounds {remaining iteration : Nat} {state : ToolLoop}
    {last : Option Generation} {tool : ToolProvider}
    (h : tool ∈ (toolRounds env workflow node remaining iteration state last).2.executed) :
    RanFrom env state tool := by
  induction remaining generalizing iteration state last with
  | zero => exact Or.inl h
  | succ remaining ih =>
    unfold toolRounds at h
    cases hanswer : env.generate iteration with
    | error message =>
      rw [hanswer] at h
      exact Or.inl h
    | ok answer =>
      rw [hanswer] at h
      dsimp only at h
      split at h
      · exact Or.inl h
      · have hround : RanFrom env
            (answer.toolCalls.foldl (dispatchCall env)
              { state with totalCost := state.totalCost + answer.response.cost }) tool := by
          split at h
          · exact ih h
          · exact Or.inl h
        rcases hround with hstate | hcall
        · have hran := ranFrom_foldl hstate
          exact hran
        · exact Or.inr hcall

end Executed

/-! ## The allowlist -/

/-- The tool is named in `supported_tools` with a truthy flag. -/
def Allowed (agent : Agent) (tool : ToolProvider) : Prop :=
  match agent.supportedTools with
  | .dict entries => ∃ entry ∈ entries, entry.1 = tool.name ∧ entry.2.truthy = true
  | .list items => ∃ item ∈ items, item.asString? = some tool.name
  | _ => False

/-- The list form holds a value that cannot be put into a set. -/
def Unhashable (agent : Agent) : Prop :=
  ∃ items, agent.supportedTools = .list items ∧ items.all ToolRegistry.hashable = false

/-- Every tool that a call can reach is allowed, or the detector blocks whatever
it is called with. -/
def OnlyAllowed (env : ToolEnvironment) (agent : Agent) : Prop :=
  ∀ position tool arguments, (env.registry position).get tool.name = some tool →
    ToolExecutor.blocked env position { name := tool.name, arguments } = none →
      Allowed agent tool

theorem getToolsForAgent_eq_none_iff {registry : ToolRegistry} {agent : Agent} :
    registry.getToolsForAgent agent = none ↔ Unhashable agent := by
  unfold ToolRegistry.getToolsForAgent Unhashable
  by_cases htruthy : agent.supportedTools.truthy = true
  · rw [if_pos htruthy, Option.map_eq_none_iff]
    cases agent.supportedTools with
    | list items =>
      constructor
      · intro h
        refine ⟨items, rfl, ?_⟩
        by_contra hall
        rw [ToolRegistry.allowedNames, if_pos (by simpa using hall)] at h
        cases h
      · rintro ⟨_, ⟨⟩, hall⟩
        rw [ToolRegistry.allowedNames, hall]
        rfl
    | _ => constructor <;> nofun
  · rw [if_neg htruthy]
    constructor
    · nofun
    · rintro ⟨items, hitems, hall⟩
      rw [hitems] at htruthy
      cases items with
      | nil => cases hall
      | cons item rest => exact absurd rfl htruthy

/-- The LLM calls one tool over and over in its first answer. -/
def insisting (count : Nat) (call : ToolCall) (_ : Nat) : Except String Generation :=
  .ok { response := { content := "", model := "" }, toolCalls := List.replicate count call ++ [call] }

/-- The tool runs that is called at its position. -/
theorem mem_executed_of_insisting {env : ToolEnvironment} {workflow : Workflow} {node : DAGNode}
    {position : Nat} {call : ToolCall} {tool : ToolProvider}
    (hgenerate : env.generate = insisting position call) (hrounds : 0 < env.toolMaxIterations)
    (hruns : (ToolExecutor.executeTool env position call).2 = some tool) :
    tool ∈ (toolRounds env workflow node env.toolMaxIterations.toNat 0 {} none).2.executed := by
  obtain ⟨remaining, hremaining⟩ : ∃ remaining, env.toolMaxIterations.toNat = remaining + 1 :=
    ⟨env.toolMaxIterations.toNat - 1, by omega⟩
  have hround : ∀ state : ToolLoop, state.dispatched = 0 →
      tool ∈ ((List.replicate position call ++ [call]).foldl (dispatchCall env) state).executed := by
    intro state hstate
    rw [List.foldl_append, List.foldl_cons, List.foldl_nil]
    have hposition : ((List.replicate position call).foldl (dispatchCall env) state).dispatched =
        position := by
      rw [dispatched_foldl, hstate, List.length_replicate, Nat.zero_add]
    rw [executed_dispatchCall, hposition, hruns]
    exact List.mem_append_right _ (List.mem_singleton_self _)
  rw [hremaining]
  unfold toolRounds
  rw [hgenerate]
  dsimp only [insisting]
  rw [if_neg (by simp)]
  split
  · exact executed_toolRounds _ _ _ _ (hround _ rfl)
  · exact hround _ rfl

/-- Whatever the LLM answers, only allowed tools run, exactly if no other tool
can be reached by a call, or no call is dispatched at all. -/
theorem executed_allowed_iff (env : ToolEnvironment) (workflow : Workflow) (node : DAGNode)
    (agent : Agent) :
    (∀ generate, ∀ tool ∈ (runToolLoop { env with generate } workflow node agent).executed,
      Allowed agent tool) ↔
      Unhashable agent ∨ env.toolMaxIterations ≤ 0 ∨ OnlyAllowed env agent := by
  constructor
  · intro h
    by_contra hnone
    obtain ⟨hhashable, hnone⟩ := not_or.1 hnone
    obtain ⟨hrounds, honly⟩ := not_or.1 hnone
    refine honly ?_
    intro position tool arguments hget hblocked
    have hruns : (ToolExecutor.executeTool env position
        { name := tool.name, arguments }).2 = some tool :=
      ToolExecutor.executeTool_eq_some.2 ⟨hget, hblocked⟩
    apply h (insisting position { name := tool.name, arguments })
    unfold runToolLoop
    split
    · rename_i hoffered
      exact absurd (getToolsForAgent_eq_none_iff.1 hoffered) hhashable
    · exact @mem_executed_of_insisting { env with generate := insisting position _ }
        workflow node position _ tool rfl (not_le.1 hrounds) hruns
  · intro hcases generate tool htool
    unfold runToolLoop at htool
    split at htool
    · cases htool
    · rename_i hoffered
      rcases hcases with hunhashable | hrounds | honly
      · rw [getToolsForAgent_eq_none_iff.2 hunhashable] at hoffered
        cases hoffered
      · dsimp only at htool
        rw [Int.toNat_of_nonpos hrounds] at htool
        cases htool
      · rcases ranFrom_toolRounds htool with hstart | ⟨position, call, hcall⟩
        · cases hstart
        · obtain ⟨hget, hblocked⟩ := ToolExecutor.executeTool_eq_some.1 hcall
          have hname := (ToolRegistry.get_eq_some hget).2
          refine honly position tool call.arguments ?_ ?_
          · rw [hname]
            exact hget
          · rw [hname]
            exact hblocked

end WorkflowScheduler

/-! ## A call past the allowlist -/

namespace SchedulerExample

/-- The agent may search the web and nothing else. -/
def searching : Agent := { agent with supportedTools := .list [.str "web_search"] }

def webSearch : ToolProvider := { name := "web_search", description := "" }

def codeExecute : ToolProvider := { name := "code_execute", description := "" }

/-- Both tools are registered; the LLM asks for the one it was not offered. -/
def toolbelt : ToolEnvironment where
  host := host
  toolMaxIterations := 1
  offered := (ToolRegistry.empty.register webSearch).register codeExecute
  registry _ := (ToolRegistry.empty.register webSearch).register codeExecute
  assess _ _ := none
  execute _ := .ok { content := "done", success := true }
  redact _ _ := none
  generate _ := .ok { response, toolCalls := [{ name := "code_execute" }] }
  summary := .error "unavailable"

end SchedulerExample

namespace WorkflowScheduler

open SchedulerExample in
/-- An agent with an allowlist runs a tool that is neither on it nor offered to
the LLM. -/
theorem executed_allowed_fails : ∃ (env : ToolEnvironment) (agent : Agent) (node : DAGNode),
    agent.supportedTools.truthy = true ∧
      ∃ tool ∈ (runToolLoop env workflow node agent).executed,
        ¬ Allowed agent tool := by
  have hrun : ∃ tool ∈ (runToolLoop toolbelt workflow (root "t1" "risk-assessment")
      searching).executed, tool.name = "code_execute" := by
    decide +kernel
  obtain ⟨tool, htool, hname⟩ := hrun
  refine ⟨toolbelt, searching, root "t1" "risk-assessment", rfl, tool, htool, ?_⟩
  rintro ⟨item, hitem, hitemName⟩
  rw [List.mem_singleton.1 hitem, hname] at hitemName
  exact absurd hitemName (by decide)

end WorkflowScheduler

end MassClaw
