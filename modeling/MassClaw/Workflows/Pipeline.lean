import MassClaw.Dag.Revalidation
import MassClaw.Scheduler.Selector
import MassClaw.Scheduler.Termination
import MassClaw.Workflows.Decomposer

/-!
# From a request to the scheduler, `app/intelligence/strategy_router.py`

`_dag_pipeline` decomposes the request into tasks for the capabilities of the
available agents, gives every node an agent within the remaining budget, and
hands both to the scheduler.

The agents are read twice, before the decomposition and for the selection; the
second time they can be others.
-/

namespace MassClaw

/-- An agent that the queries return. -/
def AgentRow.IsAvailable (row : AgentRow) : Prop := row.status = .active ∨ row.status = .degraded

instance (row : AgentRow) : Decidable row.IsAvailable := by
  unfold AgentRow.IsAvailable; infer_instance

namespace AgentSelector

variable {rows : List AgentRow} {dag : DAG} {state : Assignment}

theorem best?_eq_none {score : AgentRow → ℚ} (h : best? score rows = none) : rows = [] := by
  cases rows with
  | nil => rfl
  | cons row rest =>
    unfold best? at h
    split at h
    · cases h
    · split at h <;> cases h

/-- A selection fails when every available agent with the capability costs more
than what is left. -/
theorem selectAgent_eq_error {capability : String} {budget : ℚ} {error : AgentUnavailableError}
    (h : selectAgent rows capability (some budget) [] = .error error) :
    error = { capability, budgetRemaining := some budget } ∧
      ∀ row ∈ rows, row.IsAvailable → capability ∈ row.capabilities →
        budget < row.avgCostPerCall := by
  unfold selectAgent at h
  dsimp only at h
  split at h
  · rename_i hnone
    cases h
    refine ⟨rfl, fun row hrow havailable hcapability => not_le.1 (fun hfits => ?_)⟩
    have hmem := List.eq_nil_iff_forall_not_mem.1 (best?_eq_none hnone) row
    simp only [List.mem_filter, decide_eq_true_eq, Option.all_some] at hmem
    exact hmem ⟨⟨⟨⟨hrow, havailable⟩, hcapability⟩, List.not_mem_nil⟩, hfits⟩
  · cases h

/-- What an error of the selection says about the agents. -/
def TooExpensive (rows : List AgentRow) (dag : DAG) (error : AgentUnavailableError) : Prop :=
  (∃ node ∈ dag.nodes, node.capability = error.capability) ∧
    ∃ remaining, error.budgetRemaining = some remaining ∧
      ∀ row ∈ rows, row.IsAvailable → error.capability ∈ row.capabilities →
        remaining < row.avgCostPerCall

/-- Along the loop the nodes that are done have an agent. -/
theorem selectAgentsForDag_holds (rows : List AgentRow) (dag : DAG) (budget : ℚ) :
    Outcome.Holds
      (fun state => ∀ node ∈ dag.topologicalSort, node.nodeId ∈ Assoc.keys state.assignments)
      (TooExpensive rows dag) (selectAgentsForDag rows dag budget) := by
  refine (Outcome.Holds.foldlM (I := fun rest (state : Assignment) =>
    rest ⊆ dag.topologicalSort ∧ ∀ node ∈ dag.topologicalSort,
      node ∈ rest ∨ node.nodeId ∈ Assoc.keys state.assignments) ?_ dag.topologicalSort
    { dag, remainingBudget := budget } ⟨fun _ hmem => hmem, fun _ hmem => Or.inl hmem⟩).mono ?_
    (fun _ herror => herror)
  · rintro node rest state ⟨hrest, hdone⟩
    have hnode : node ∈ dag.nodes := DAG.mem_of_topologicalSort (hrest List.mem_cons_self)
    unfold assignNode
    cases hrow : selectAgent rows node.capability (some state.remainingBudget) [] with
    | error error =>
      obtain ⟨rfl, hexpensive⟩ := selectAgent_eq_error hrow
      exact ⟨⟨node, hnode, rfl⟩, state.remainingBudget, rfl, hexpensive⟩
    | ok row =>
      refine ⟨fun other hother => hrest (List.mem_cons_of_mem node hother), fun other hother => ?_⟩
      have hkept : ∀ nodeId, nodeId = node.nodeId ∨ nodeId ∈ Assoc.keys state.assignments →
          nodeId ∈ Assoc.keys (Assoc.set state.assignments node.nodeId row.toAgent) := by
        intro nodeId hnodeId
        rw [Assoc.keys_set]
        split
        · rename_i hmem
          rcases hnodeId with rfl | hold
          · exact hmem
          · exact hold
        · rcases hnodeId with rfl | hold
          · exact List.mem_append_right _ (List.mem_singleton_self _)
          · exact List.mem_append_left _ hold
      rcases hdone other hother with hmem | hkeys
      · rcases List.mem_cons.1 hmem with rfl | hlater
        · exact Or.inr (hkept _ (Or.inl rfl))
        · exact Or.inl hlater
      · exact Or.inr (hkept _ (Or.inr hkeys))
  · rintro state ⟨-, hdone⟩ node hnode
    rcases hdone node hnode with hnone | hmem
    · cases hnone
    · exact hmem

/-- A sorted node has an agent with its capability. -/
theorem agents_of_sorted {budget : ℚ} (hselect : selectAgentsForDag rows dag budget = .ok state)
    {node : DAGNode} (hnode : node ∈ dag.topologicalSort) :
    ∃ agent, state.agents node.nodeId = some agent ∧ node.capability ∈ agent.capabilities := by
  obtain ⟨entry, hentry, hkey⟩ := List.mem_map.1
    ((selectAgentsForDag_holds rows dag budget).of_ok hselect node hnode)
  have hfound : (state.agents node.nodeId).isSome := by
    unfold Assignment.agents
    rw [Option.isSome_map, List.find?_isSome]
    exact ⟨entry, hentry, decide_eq_true hkey⟩
  obtain ⟨agent, hagent⟩ := Option.isSome_iff_exists.1 hfound
  obtain ⟨other, hother, hid, hcapability⟩ := capability_of_agents hselect hagent
  have hsame : other = node := List.inj_on_of_nodup_map dag.nodup hother
    (DAG.mem_of_topologicalSort hnode) hid
  exact ⟨agent, hagent, hsame ▸ hcapability⟩

end AgentSelector

/-! ## The pipeline -/

/-- What stops the pipeline before the scheduler. -/
inductive PipelineError
  | orchestration (text : String)
  | unavailable (error : AgentUnavailableError)

namespace StrategyRouter

/-- `sorted(all_caps)` over the available agents. -/
def availableCapabilities (rows : List AgentRow) : List String :=
  ((rows.filter (fun row => row.IsAvailable)).flatMap (fun row => row.capabilities)).dedup.insertionSort
    (· ≤ ·)

theorem mem_availableCapabilities {rows : List AgentRow} {capability : String} :
    capability ∈ availableCapabilities rows ↔
      ∃ row ∈ rows, row.IsAvailable ∧ capability ∈ row.capabilities := by
  unfold availableCapabilities
  rw [List.mem_insertionSort, List.mem_dedup, List.mem_flatMap]
  simp only [List.mem_filter, decide_eq_true_eq, and_assoc]

/-- `_dag_pipeline` up to `execute_workflow`: the DAG that is stored as the
snapshot, the domain, and the assignment, with the agents as they are before the
decomposition and for the selection. -/
def dagPipeline (env : DecomposerEnv) (rows rows' : List AgentRow) (prompt : String)
    (domainHint : Option String) (budgetLimit budgetUsed : ℚ) :
    Except PipelineError (DAG × String × AgentSelector.Assignment) :=
  match (TaskDecomposer.decompose env prompt (availableCapabilities rows) domainHint).2 with
  | .error text => .error (.orchestration text)
  | .ok (dag, domain) =>
    match AgentSelector.selectAgentsForDag rows' dag (max (budgetLimit - budgetUsed) 0) with
    | .error error => .error (.unavailable error)
    | .ok assignment => .ok (dag, domain, assignment)

open TaskDecomposer (Plan)

/-- The result of the pipeline is that of its two steps. -/
theorem dagPipeline_eq_ok {env : DecomposerEnv} {rows rows' : List AgentRow} {prompt : String}
    {domainHint : Option String} {budgetLimit budgetUsed : ℚ} {dag : DAG} {domain : String}
    {assignment : AgentSelector.Assignment}
    (h : dagPipeline env rows rows' prompt domainHint budgetLimit budgetUsed =
      .ok (dag, domain, assignment)) :
    (∃ tasks, Plan (availableCapabilities rows) tasks dag) ∧
      AgentSelector.selectAgentsForDag rows' dag (max (budgetLimit - budgetUsed) 0) =
        .ok assignment := by
  unfold dagPipeline at h
  cases hdecomposed : (TaskDecomposer.decompose env prompt (availableCapabilities rows)
      domainHint).2 with
  | error text =>
    rw [hdecomposed] at h
    cases h
  | ok result =>
    obtain ⟨planned, found⟩ := result
    rw [hdecomposed] at h
    dsimp only at h
    cases hselected : AgentSelector.selectAgentsForDag rows' planned
        (max (budgetLimit - budgetUsed) 0) with
    | error error =>
      rw [hselected] at h
      cases h
    | ok selected =>
      rw [hselected] at h
      cases h
      obtain ⟨-, -, tasks, -, -, -, hplan, -⟩ := TaskDecomposer.decompose_eq_ok hdecomposed
      exact ⟨⟨tasks, hplan⟩, hselected⟩

/-- A selection that fails does so on a plan. -/
theorem dagPipeline_eq_unavailable {env : DecomposerEnv} {rows rows' : List AgentRow}
    {prompt : String} {domainHint : Option String} {budgetLimit budgetUsed : ℚ}
    {error : AgentUnavailableError}
    (h : dagPipeline env rows rows' prompt domainHint budgetLimit budgetUsed =
      .error (.unavailable error)) :
    ∃ tasks dag, Plan (availableCapabilities rows) tasks dag ∧
      AgentSelector.TooExpensive rows' dag error := by
  unfold dagPipeline at h
  cases hdecomposed : (TaskDecomposer.decompose env prompt (availableCapabilities rows)
      domainHint).2 with
  | error text =>
    rw [hdecomposed] at h
    cases h
  | ok result =>
    obtain ⟨planned, found⟩ := result
    rw [hdecomposed] at h
    dsimp only at h
    cases hselected : AgentSelector.selectAgentsForDag rows' planned
        (max (budgetLimit - budgetUsed) 0) with
    | error failure =>
      rw [hselected] at h
      cases h
      obtain ⟨-, -, tasks, -, -, -, hplan, -⟩ := TaskDecomposer.decompose_eq_ok hdecomposed
      exact ⟨tasks, planned, hplan,
        (AgentSelector.selectAgentsForDag_holds rows' planned _).of_error hselected⟩
    | ok selected =>
      rw [hselected] at h
      cases h

/-- A plan gives its nodes capabilities of available agents. -/
theorem capability_of_plan {rows : List AgentRow} {tasks : List DecomposedTask} {dag : DAG}
    (h : Plan (availableCapabilities rows) tasks dag) {node : DAGNode} (hnode : node ∈ dag.nodes) :
    ∃ row ∈ rows, row.IsAvailable ∧ node.capability ∈ row.capabilities := by
  obtain ⟨task, htask, rfl⟩ := h.node hnode
  exact mem_availableCapabilities.1 (h.capability task htask)

/-- With distinct ids a plan is accepted, and sorted completely. -/
theorem sorted_of_plan {available : List String} {tasks : List DecomposedTask} {dag : DAG}
    (h : Plan available tasks dag) (hnodup : (tasks.map DecomposedTask.id).Nodup) :
    dag.Accepted ∧ dag.topologicalSort.Perm dag.nodes := by
  have hids : ((tasks.map DecomposedTask.toNode).map DAGNode.nodeId).Nodup := by
    rw [List.map_map]
    exact hnodup
  exact ⟨⟨_, hids, h.accepted⟩, (DAG.topologicalSort_perm_iff_wellFounded h.accepted).2
    (DAG.wellFoundedDeps_of_nodup hids h.accepted)⟩

/-- Whatever the model answers and whichever agents there are: what reaches the
scheduler is a plan for the agents that were available; if the model has used no
id twice, the plan is acyclic, its snapshot reads back, and every node has an
agent with its capability; and no run with it comes to the guard against a
runaway loop.  A request that finds no agent for a node, while no agent has gone,
fails for its budget. -/
theorem dagPipeline_spec (env : DecomposerEnv) (rows rows' : List AgentRow) (prompt : String)
    (domainHint : Option String) (budgetLimit budgetUsed : ℚ) :
    (∀ dag domain assignment,
      dagPipeline env rows rows' prompt domainHint budgetLimit budgetUsed =
        .ok (dag, domain, assignment) →
      ∃ tasks, Plan (availableCapabilities rows) tasks dag ∧
        (∀ node ∈ dag.nodes, ∃ row ∈ rows, row.IsAvailable ∧ node.capability ∈ row.capabilities) ∧
        ((tasks.map DecomposedTask.id).Nodup → dag.Acyclic ∧ DAG.fromDict dag.toDict = .ok dag ∧
          ∀ node ∈ dag.nodes, ∃ agent, assignment.agents node.nodeId = some agent ∧
            node.capability ∈ agent.capabilities) ∧
        ∀ (scheduler : Environment) (workflowId : UUID) (db : Db),
          WorkflowScheduler.iterations scheduler workflowId assignment.agents
              (WorkflowScheduler.maxIterations assignment.dag) 1
              (WorkflowScheduler.startRun scheduler workflowId db assignment.dag) ≤
            3 * (dag.nodes.length + 3) ∧
          ∀ run, WorkflowScheduler.loop scheduler workflowId assignment.agents
              (WorkflowScheduler.maxIterations assignment.dag) 1
              (WorkflowScheduler.startRun scheduler workflowId db assignment.dag) ≠
            .ok (true, run)) ∧
    (∀ error, dagPipeline env rows rows' prompt domainHint budgetLimit budgetUsed =
        .error (.unavailable error) →
      (∀ row ∈ rows, row.IsAvailable → row ∈ rows') →
      (∃ row ∈ rows', row.IsAvailable ∧ error.capability ∈ row.capabilities) ∧
        ∃ remaining, error.budgetRemaining = some remaining ∧
          ∀ row ∈ rows', row.IsAvailable → error.capability ∈ row.capabilities →
            remaining < row.avgCostPerCall) := by
  constructor
  · intro dag domain assignment hreturned
    obtain ⟨⟨tasks, hplan⟩, hselect⟩ := dagPipeline_eq_ok hreturned
    have hids := AgentSelector.ids_of_selectAgentsForDag hselect
    refine ⟨tasks, hplan, fun node hnode => capability_of_plan hplan hnode, fun hnodup => ?_,
      fun scheduler workflowId db => ?_⟩
    · obtain ⟨haccepted, hsorted⟩ := sorted_of_plan hplan hnodup
      refine ⟨haccepted.rebuildable.acyclic, ?_, fun node hnode => ?_⟩
      · rw [DAG.fromDict_toDict, haccepted.rebuildable.new_of_rebuildable]
        rfl
      · exact AgentSelector.agents_of_sorted hselect (hsorted.mem_iff.2 hnode)
    · have hagents : WorkflowScheduler.AssignsOnly assignment.agents assignment.dag := by
        intro nodeId hnot
        cases hagent : assignment.agents nodeId with
        | none => rfl
        | some agent =>
          obtain ⟨node, hnode, rfl, -⟩ := AgentSelector.capability_of_agents hselect hagent
          rw [hids] at hnot
          exact absurd (List.mem_map_of_mem hnode) hnot
      have hlength : assignment.dag.nodes.length = dag.nodes.length := by
        have hmapped := congrArg List.length hids
        simpa [DAG.ids] using hmapped
      have hstart := WorkflowScheduler.potential_startRun scheduler workflowId assignment.agents db
        assignment.dag
      have hgrown : assignment.dag.ids ⊆
          (WorkflowScheduler.startRun scheduler workflowId db assignment.dag).dag.ids :=
        fun _ hmem => hmem
      constructor
      · have hbound := @WorkflowScheduler.iterations_le_potential assignment.agents scheduler
          workflowId assignment.dag hagents
          (WorkflowScheduler.maxIterations assignment.dag) 1 _ hgrown
        omega
      · intro run hloop
        have hbound := WorkflowScheduler.le_potential_of_runaway hagents _ _ _ _ hgrown hloop
        unfold WorkflowScheduler.maxIterations at hbound
        omega
  · intro error hreturned hstay
    obtain ⟨tasks, dag, hplan, ⟨node, hnode, hcapability⟩, hexpensive⟩ :=
      dagPipeline_eq_unavailable hreturned
    obtain ⟨row, hrow, havailable, hhas⟩ := capability_of_plan hplan hnode
    exact ⟨⟨row, hstay row hrow havailable, havailable, hcapability ▸ hhas⟩, hexpensive⟩

end StrategyRouter

end MassClaw
