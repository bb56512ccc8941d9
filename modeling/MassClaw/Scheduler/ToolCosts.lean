import MassClaw.Scheduler.ToolLoop

/-!
# What a tool loop costs

The loop adds up two kinds of amounts.  The cost of an LLM call is in dollars,
and the cost of a tool is in credits.  Its caller converts the total to credits
as if all of it were dollars, so a credit spent on a tool counts a thousand
times.

`modelCalls` lists the calls of the LLM in the order in which the loop makes
them, and `toolCalls` the calls that it dispatches to the executor.
-/

namespace MassClaw

namespace WorkflowScheduler

section Trace

variable (env : ToolEnvironment) (workflow : Workflow) (node : DAGNode)

/-- What the LLM calls of the rounds end with. -/
def roundCalls : Nat → Nat → ToolLoop → List (Except String Generation)
  | 0, _, _ => []
  | remaining + 1, iteration, state =>
    match env.generate iteration with
    | .error message => [.error message]
    | .ok answer =>
      let state := { state with totalCost := state.totalCost + answer.response.cost }
      if answer.toolCalls.isEmpty then [.ok answer]
      else
        let state := answer.toolCalls.foldl (dispatchCall env) state
        if canAffordAnotherRound workflow state.totalCost (selectModel node).1
            (selectModel node).2 then
          .ok answer :: roundCalls remaining (iteration + 1) state
        else [.ok answer]

/-- What the call without tools ends with, when it is made. -/
def summaryCall (result : RoundsEnd × ToolLoop) : List (Except String Generation) :=
  match result.1 with
  | .exhausted _ =>
    if canAffordAnotherRound workflow result.2.totalCost (selectModel node).1
        (selectModel node).2 then [env.summary] else []
  | _ => []

/-- What the calls of `model_router.generate` end with. -/
def modelCalls (agent : Agent) : List (Except String Generation) :=
  match env.offered.getToolsForAgent agent with
  | none => []
  | some _ =>
    roundCalls env workflow node env.toolMaxIterations.toNat 0 {} ++
      summaryCall env workflow node
        (toolRounds env workflow node env.toolMaxIterations.toNat 0 {} none)

/-- The answers among the results. -/
def answers (calls : List (Except String Generation)) : List Generation :=
  calls.filterMap Except.toOption

/-- The calls that the loop dispatches, numbered in their order. -/
def toolCalls (agent : Agent) : List (ToolCall × Nat) :=
  match env.offered.getToolsForAgent agent with
  | none => []
  | some _ =>
    ((answers (roundCalls env workflow node env.toolMaxIterations.toNat 0 {})).flatMap
      Generation.toolCalls).zipIdx

/-- `cost_credits` of the result of a call. -/
def creditsOf (call : ToolCall × Nat) : ℚ :=
  (ToolExecutor.executeTool env call.2 call.1).1.costCredits

/-- A call costs nothing: it names no tool, it is blocked, the tool raises, or
the tool is free. -/
def IsFree (call : ToolCall × Nat) : Prop :=
  ∀ tool result, (env.registry call.2).get call.1.name = some tool →
    ToolExecutor.blocked env call.2 call.1 = none → env.execute call.2 = .ok result →
      tool.estimatedCostCredits = 0

/-- No registered tool has a negative cost. -/
def CostsNonneg : Prop :=
  ∀ position name tool, (env.registry position).get name = some tool →
    0 ≤ tool.estimatedCostCredits

end Trace

@[simp] theorem answers_nil : answers [] = [] := rfl

@[simp] theorem answers_ok (answer : Generation) (calls : List (Except String Generation)) :
    answers (.ok answer :: calls) = answer :: answers calls := rfl

@[simp] theorem answers_error (message : String) (calls : List (Except String Generation)) :
    answers (.error message :: calls) = answers calls := rfl

@[simp] theorem answers_append (calls more : List (Except String Generation)) :
    answers (calls ++ more) = answers calls ++ answers more :=
  List.filterMap_append

section Costs

variable {env : ToolEnvironment} {workflow : Workflow} {node : DAGNode}

theorem creditsOf_eq_zero_iff (call : ToolCall × Nat) : creditsOf env call = 0 ↔ IsFree env call := by
  unfold creditsOf IsFree ToolExecutor.executeTool
  cases (env.registry call.2).get call.1.name with
  | none => simp
  | some tool =>
    cases ToolExecutor.blocked env call.2 call.1 with
    | some assessment => simp
    | none =>
      cases env.execute call.2 with
      | error message => simp
      | ok result => simp

theorem creditsOf_nonneg (hcosts : CostsNonneg env) (call : ToolCall × Nat) :
    0 ≤ creditsOf env call := by
  unfold creditsOf ToolExecutor.executeTool
  cases hget : (env.registry call.2).get call.1.name with
  | none => exact le_refl _
  | some tool =>
    cases ToolExecutor.blocked env call.2 call.1 with
    | some assessment => exact le_refl _
    | none =>
      cases env.execute call.2 with
      | error message => exact le_refl _
      | ok result => exact hcosts call.2 call.1.name tool hget

/-- A round adds the credits of its calls. -/
theorem totalCost_foldl (calls : List ToolCall) (state : ToolLoop) :
    (calls.foldl (dispatchCall env) state).totalCost =
      state.totalCost + ((calls.zipIdx state.dispatched).map (creditsOf env)).sum := by
  induction calls generalizing state with
  | nil => simp
  | cons call rest ih =>
    rw [List.foldl_cons, ih, List.zipIdx_cons, List.map_cons, List.sum_cons]
    show state.totalCost + creditsOf env (call, state.dispatched) + _ = _
    rw [add_assoc]
    rfl

/-- The rounds add the dollars of the answers and the credits of the calls. -/
theorem totalCost_toolRounds (remaining iteration : Nat) (state : ToolLoop)
    (last : Option Generation) :
    (toolRounds env workflow node remaining iteration state last).2.totalCost =
      state.totalCost +
        ((answers (roundCalls env workflow node remaining iteration state)).map
          (fun answer => answer.response.cost)).sum +
        ((((answers (roundCalls env workflow node remaining iteration state)).flatMap
          Generation.toolCalls).zipIdx state.dispatched).map (creditsOf env)).sum := by
  induction remaining generalizing iteration state last with
  | zero => simp [toolRounds, roundCalls]
  | succ remaining ih =>
    unfold toolRounds roundCalls
    cases env.generate iteration with
    | error message => simp
    | ok answer =>
      dsimp only
      have hfold := @totalCost_foldl env answer.toolCalls
        { state with totalCost := state.totalCost + answer.response.cost }
      split
      · rename_i hempty
        rw [List.isEmpty_iff] at hempty
        simp [hempty]
      · split
        · rw [ih, hfold, dispatched_foldl, answers_ok]
          simp only [List.map_cons, List.sum_cons, List.flatMap_cons, List.zipIdx_append,
            List.map_append, List.sum_append]
          ring
        · rw [hfold]
          simp

/-- A text answer of the rounds carries the total. -/
theorem cost_of_answered {remaining iteration : Nat} {state : ToolLoop} {last : Option Generation}
    {answer : Generation}
    (h : (toolRounds env workflow node remaining iteration state last).1 = .answered answer) :
    answer.response.cost =
      (toolRounds env workflow node remaining iteration state last).2.totalCost := by
  induction remaining generalizing iteration state last with
  | zero => cases h
  | succ remaining ih =>
    unfold toolRounds at h ⊢
    cases hanswer : env.generate iteration with
    | error message =>
      rw [hanswer] at h
      cases h
    | ok given =>
      rw [hanswer] at h
      dsimp only at h ⊢
      by_cases hempty : given.toolCalls.isEmpty = true
      · rw [if_pos hempty] at h ⊢
        cases h
        rfl
      · rw [if_neg hempty] at h ⊢
        split at h
        · rename_i hafford
          rw [if_pos hafford]
          exact ih h
        · cases h

/-- An exhausted loop adds the call without tools, when it is answered. -/
theorem cost_of_summarise {state : ToolLoop} {last : Option Generation} {answer : Generation}
    (h : summarise env workflow node state last = .ok answer) :
    answer.response.cost = state.totalCost +
      ((answers (summaryCall env workflow node (.exhausted last, state))).map
        (fun call => call.response.cost)).sum := by
  unfold summarise at h
  unfold summaryCall
  dsimp only
  split at h
  · rename_i hafford
    rw [if_pos hafford]
    cases hsummary : env.summary with
    | ok summary =>
      rw [hsummary] at h
      dsimp only at h
      split at h
      · cases h
        simp [emptyAnswer]
      · cases h
        simp [Generation.withCost]
    | error message =>
      rw [hsummary] at h
      cases last with
      | none => cases h
      | some given =>
        cases h
        simp [emptyAnswer]
  · rename_i hafford
    rw [if_neg hafford]
    cases last with
    | none => cases h
    | some given =>
      cases h
      simp

/-- The answer of a loop carries the dollars of all its LLM calls and the
credits of all its tool calls. -/
theorem cost_eq {agent : Agent} {answer : Generation}
    (h : (runToolLoop env workflow node agent).outcome = .ok answer) :
    answer.response.cost =
      ((answers (modelCalls env workflow node agent)).map (fun call => call.response.cost)).sum +
        ((toolCalls env workflow node agent).map (creditsOf env)).sum := by
  have hrounds := @totalCost_toolRounds env workflow node env.toolMaxIterations.toNat 0 {} none
  unfold runToolLoop at h
  unfold modelCalls toolCalls
  cases hoffered : env.offered.getToolsForAgent agent with
  | none =>
    rw [hoffered] at h
    cases h
  | some tools =>
    rw [hoffered] at h
    dsimp only at h ⊢
    rw [answers_append, List.map_append, List.sum_append]
    rw [zero_add] at hrounds
    generalize hresult : toolRounds env workflow node env.toolMaxIterations.toNat 0 {} none =
      result at h hrounds
    obtain ⟨ending, state⟩ := result
    dsimp only at h hrounds
    cases ending with
    | raised message => cases h
    | answered given =>
      cases h
      have hcost := cost_of_answered (congrArg Prod.fst hresult)
      rw [hresult] at hcost
      rw [hcost, hrounds]
      simp [summaryCall]
    | exhausted last =>
      rw [cost_of_summarise h, hrounds]
      ring

end Costs

/-! ## One total in two units -/

/-- The returned cost, in credits, is the sum of the credits of the LLM calls
and of the credits of the tool calls. -/
def CostsAddUp (env : ToolEnvironment) (workflow : Workflow) (node : DAGNode) (agent : Agent)
    (answer : Generation) : Prop :=
  tokensToCredits answer.response.cost =
    ((answers (modelCalls env workflow node agent)).map
      (fun call => tokensToCredits call.response.cost)).sum +
    ((toolCalls env workflow node agent).map (creditsOf env)).sum

section AddUp

variable {env : ToolEnvironment} {workflow : Workflow} {node : DAGNode} {agent : Agent}

private theorem sum_eq_zero_iff {α : Type} {f : α → ℚ} {items : List α}
    (h : ∀ item ∈ items, 0 ≤ f item) :
    (items.map f).sum = 0 ↔ ∀ item ∈ items, f item = 0 := by
  induction items with
  | nil => simp
  | cons item rest ih =>
    have hitem := h item List.mem_cons_self
    have hrest : 0 ≤ (rest.map f).sum := by
      refine List.sum_nonneg (fun x hx => ?_)
      obtain ⟨other, hother, rfl⟩ := List.mem_map.1 hx
      exact h other (List.mem_cons_of_mem item hother)
    rw [List.map_cons, List.sum_cons, List.forall_mem_cons,
      ← ih (fun other hother => h other (List.mem_cons_of_mem item hother))]
    constructor
    · intro hsum
      constructor
      · linarith
      · linarith
    · intro hzero
      rw [hzero.1, hzero.2, add_zero]

private theorem tokensToCredits_sum (costs : List ℚ) :
    tokensToCredits costs.sum = (costs.map tokensToCredits).sum := by
  induction costs with
  | nil => simp
  | cons cost rest ih =>
    rw [List.sum_cons, List.map_cons, List.sum_cons, ← ih]
    unfold tokensToCredits
    ring

/-- The amounts add up in a run exactly if every call it dispatches is free. -/
theorem costsAddUp_iff (hcosts : CostsNonneg env) {answer : Generation}
    (h : (runToolLoop env workflow node agent).outcome = .ok answer) :
    CostsAddUp env workflow node agent answer ↔
      ∀ call ∈ toolCalls env workflow node agent, IsFree env call := by
  have hzero := @sum_eq_zero_iff _ (creditsOf env) (toolCalls env workflow node agent)
    (fun call _ => creditsOf_nonneg hcosts call)
  simp only [creditsOf_eq_zero_iff] at hzero
  unfold CostsAddUp
  rw [← hzero, cost_eq h]
  have hllm := tokensToCredits_sum ((answers (modelCalls env workflow node agent)).map
    (fun call => call.response.cost))
  rw [List.map_map] at hllm
  have hadd : ∀ a b : ℚ, tokensToCredits (a + b) = tokensToCredits a + b * 1000 := by
    intro a b
    unfold tokensToCredits
    ring
  rw [hadd, hllm]
  show _ + _ = ((answers (modelCalls env workflow node agent)).map
    (tokensToCredits ∘ fun call => call.response.cost)).sum + _ ↔ _
  constructor
  · intro heq
    linarith
  · intro heq
    rw [heq]
    ring

/-- The first answer dispatches a call at the given position, and a second
answer has none. -/
def callingOnce (count : Nat) (call : ToolCall) : Nat → Except String Generation
  | 0 => .ok { response := { content := "", model := "" }
               toolCalls := List.replicate count call ++ [call] }
  | _ => .ok { response := { content := "", model := "" } }

theorem summarise_returns {state : ToolLoop} {given : Generation}
    (hsummary : ∃ summary, env.summary = .ok summary) :
    ∃ answer, summarise env workflow node state (some given) = .ok answer := by
  obtain ⟨summary, hsummary⟩ := hsummary
  unfold summarise
  rw [hsummary]
  split
  · dsimp only
    split
    · exact ⟨_, rfl⟩
    · exact ⟨_, rfl⟩
  · exact ⟨_, rfl⟩

section CallingOnce

variable {position : Nat} {call : ToolCall} (hgenerate : env.generate = callingOnce position call)

include hgenerate

/-- The first round dispatches the calls. -/
theorem generate_callingOnce : env.generate 0 =
    .ok { response := { content := "", model := "" }
          toolCalls := List.replicate position call ++ [call] } := by
  rw [hgenerate]
  rfl

/-- The rounds end with an answer, or with a last one. -/
theorem toolRounds_callingOnce (remaining : Nat) : ∃ state,
    (∃ answer, toolRounds env workflow node (remaining + 1) 0 {} none = (.answered answer, state)) ∨
      ∃ given, toolRounds env workflow node (remaining + 1) 0 {} none =
        (.exhausted (some given), state) := by
  have hnonempty : ¬(List.replicate position call ++ [call]).isEmpty = true := by simp
  unfold toolRounds
  rw [generate_callingOnce hgenerate]
  dsimp only
  rw [if_neg hnonempty]
  split
  · cases remaining with
    | zero => exact ⟨_, Or.inr ⟨_, rfl⟩⟩
    | succ remaining =>
      unfold toolRounds
      rw [hgenerate]
      exact ⟨_, Or.inl ⟨_, rfl⟩⟩
  · exact ⟨_, Or.inr ⟨_, rfl⟩⟩

theorem roundCalls_callingOnce (remaining : Nat) : ∃ more,
    roundCalls env workflow node (remaining + 1) 0 {} =
      .ok { response := { content := "", model := "" }
            toolCalls := List.replicate position call ++ [call] } :: more := by
  have hnonempty : ¬(List.replicate position call ++ [call]).isEmpty = true := by simp
  unfold roundCalls
  rw [generate_callingOnce hgenerate]
  dsimp only
  rw [if_neg hnonempty]
  split
  · exact ⟨_, rfl⟩
  · exact ⟨_, rfl⟩

/-- A run with these answers returns, and it has dispatched the call. -/
theorem returns_of_callingOnce (hsummary : ∃ summary, env.summary = .ok summary)
    (hrounds : 0 < env.toolMaxIterations) (hhashable : ¬Unhashable agent) :
    (∃ answer, (runToolLoop env workflow node agent).outcome = .ok answer) ∧
      (call, position) ∈ toolCalls env workflow node agent := by
  obtain ⟨remaining, hremaining⟩ : ∃ remaining, env.toolMaxIterations.toNat = remaining + 1 :=
    ⟨env.toolMaxIterations.toNat - 1, by omega⟩
  unfold runToolLoop toolCalls
  cases hoffered : env.offered.getToolsForAgent agent with
  | none => exact absurd (getToolsForAgent_eq_none_iff.1 hoffered) hhashable
  | some tools =>
    dsimp only
    rw [hremaining]
    constructor
    · obtain ⟨state, ⟨answer, hrun⟩ | ⟨given, hrun⟩⟩ :=
        @toolRounds_callingOnce env workflow node position call hgenerate remaining
      · rw [hrun]
        exact ⟨_, rfl⟩
      · rw [hrun]
        exact summarise_returns hsummary
    · obtain ⟨more, hcalls⟩ :=
        @roundCalls_callingOnce env workflow node position call hgenerate remaining
      rw [hcalls, answers_ok, List.flatMap_cons, List.mem_zipIdx_iff_getElem?, List.append_assoc,
        List.getElem?_append_right (by simp)]
      simp

end CallingOnce

end AddUp

/-- The amounts add up in a run exactly if every call it dispatches is free.
They do so whatever the LLM answers and the tools return exactly if every tool
that a call can reach is free, or no call is dispatched at all. -/
theorem costsAddUp_iff_free (env : ToolEnvironment) (hcosts : CostsNonneg env)
    (workflow : Workflow) (node : DAGNode) (agent : Agent) :
    (∀ answer, (runToolLoop env workflow node agent).outcome = .ok answer →
      (CostsAddUp env workflow node agent answer ↔
        ∀ call ∈ toolCalls env workflow node agent, IsFree env call)) ∧
    ((∀ generate execute summary answer,
      (runToolLoop { env with generate, execute, summary } workflow node agent).outcome =
        .ok answer →
      CostsAddUp { env with generate, execute, summary } workflow node agent answer) ↔
      Unhashable agent ∨ env.toolMaxIterations ≤ 0 ∨
        ∀ position call tool, (env.registry position).get call.name = some tool →
          ToolExecutor.blocked env position call = none → tool.estimatedCostCredits = 0) := by
  refine ⟨fun answer h => costsAddUp_iff hcosts h, ?_⟩
  constructor
  · intro h
    by_contra hnone
    obtain ⟨hhashable, hnone⟩ := not_or.1 hnone
    obtain ⟨hrounds, hfree⟩ := not_or.1 hnone
    refine hfree (fun position call tool hget hblocked => ?_)
    let spending : ToolEnvironment :=
      { env with
        generate := callingOnce position call
        execute := fun _ => .ok { content := "", success := true }
        summary := .ok { response := { content := "", model := "" } } }
    obtain ⟨⟨answer, hanswer⟩, hmem⟩ := @returns_of_callingOnce spending workflow node agent
      position call rfl ⟨_, rfl⟩ (not_le.1 hrounds) hhashable
    have hall := (@costsAddUp_iff spending workflow node agent hcosts answer hanswer).1
      (h _ _ _ answer hanswer)
    exact hall (call, position) hmem tool _ hget hblocked rfl
  · intro hcases generate execute summary answer hanswer
    refine (@costsAddUp_iff { env with generate, execute, summary } workflow node agent hcosts
      answer hanswer).2 ?_
    rcases hcases with hunhashable | hrounds | hfree
    · unfold runToolLoop at hanswer
      dsimp only at hanswer
      rw [getToolsForAgent_eq_none_iff.2 hunhashable] at hanswer
      cases hanswer
    · intro call hcall
      unfold toolCalls at hcall
      dsimp only at hcall
      rw [Int.toNat_of_nonpos hrounds] at hcall
      split at hcall
      · cases hcall
      · cases hcall
    · intro call _ tool result hget hblocked _
      exact hfree call.2 call.1 tool hget hblocked

end WorkflowScheduler

/-! ## A tool that costs a tenth of a credit -/

namespace SchedulerExample

def meteredSearch : ToolProvider := { webSearch with estimatedCostCredits := 1 / 10 }

/-- The LLM calls a tool and then answers; each of its calls costs a cent. -/
def toolAnswers : Nat → Except String Generation
  | 0 => .ok { response := { response with cost := 1 / 100 }, toolCalls := [{ name := "web_search" }] }
  | _ => .ok { response := { response with cost := 1 / 100 } }

/-- A registry with one tool. -/
def oneTool (tool : ToolProvider) : ToolEnvironment :=
  { toolbelt with
    toolMaxIterations := 5
    offered := ToolRegistry.empty.register tool
    registry := fun _ => ToolRegistry.empty.register tool
    generate := toolAnswers }

theorem oneTool_costsNonneg {tool : ToolProvider} (h : 0 ≤ tool.estimatedCostCredits) :
    WorkflowScheduler.CostsNonneg (oneTool tool) := by
  intro position name found hget
  have hmem := (ToolRegistry.get_eq_some hget).1
  have hfound : (name, found) = (tool.name, tool) := List.mem_singleton.1 hmem
  rw [(Prod.mk.inj hfound).2]
  exact h

end SchedulerExample

namespace WorkflowScheduler

open SchedulerExample

/-- With a free tool the total is that of the two LLM calls. -/
theorem costsAddUp_iff_free_search : ∃ answer,
    (runToolLoop (oneTool webSearch) workflow (root "t1" "risk-assessment") searching).outcome =
      .ok answer ∧
    CostsAddUp (oneTool webSearch) workflow (root "t1" "risk-assessment") searching answer := by
  have hreturns : (runToolLoop (oneTool webSearch) workflow (root "t1" "risk-assessment")
      searching).outcome.isOk = true := by decide +kernel
  cases houtcome : (runToolLoop (oneTool webSearch) workflow (root "t1" "risk-assessment")
      searching).outcome with
  | error message =>
    rw [houtcome] at hreturns
    cases hreturns
  | ok answer =>
    have hcosts := @oneTool_costsNonneg webSearch (le_refl 0)
    obtain ⟨-, hall⟩ := costsAddUp_iff_free (oneTool webSearch) hcosts workflow
      (root "t1" "risk-assessment") searching
    refine ⟨answer, rfl, hall.2 (Or.inr (Or.inr ?_)) _ _ _ answer houtcome⟩
    intro position call tool hget _
    have hmem := List.mem_singleton.1 (ToolRegistry.get_eq_some hget).1
    rw [(Prod.mk.inj hmem).2]
    rfl

/-- A call of a tool of a tenth of a credit is returned as a hundred credits. -/
theorem costsAddUp_fails :
    CostsNonneg (oneTool meteredSearch) ∧ ∃ answer,
      (runToolLoop (oneTool meteredSearch) workflow (root "t1" "risk-assessment")
        searching).outcome = .ok answer ∧
      tokensToCredits answer.response.cost = 120 ∧
      ¬CostsAddUp (oneTool meteredSearch) workflow (root "t1" "risk-assessment") searching
        answer := by
  refine ⟨oneTool_costsNonneg (by decide +kernel), ?_⟩
  have hcost : (runToolLoop (oneTool meteredSearch) workflow (root "t1" "risk-assessment")
      searching).outcome.toOption.map (fun answer => answer.response.cost) = some (3 / 25) := by
    decide +kernel
  cases houtcome : (runToolLoop (oneTool meteredSearch) workflow (root "t1" "risk-assessment")
      searching).outcome with
  | error message =>
    rw [houtcome] at hcost
    cases hcost
  | ok answer =>
    rw [houtcome] at hcost
    have hanswer : answer.response.cost = 3 / 25 := Option.some.inj hcost
    refine ⟨answer, rfl, ?_, ?_⟩
    · rw [hanswer]
      decide +kernel
    · unfold CostsAddUp
      rw [hanswer]
      decide +kernel

end WorkflowScheduler

end MassClaw
