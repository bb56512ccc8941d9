import MassClaw.Dag.TopologicalSort
import MassClaw.Lib.Assoc
import MassClaw.Lib.Outcome
import MassClaw.Core.Models

/-!
# The selection of the agents, `app/orchestration/selector.py`

Before a workflow is executed, every node of its DAG gets an agent.  The nodes
are taken in topological order; a node gets the agent with the highest score
among those that are available, have its capability and cost no more on
average than what is left of the budget.
-/

namespace MassClaw

/-- `AgentStatus`. -/
inductive AgentStatus
  | active | inactive | suspended | degraded
  deriving DecidableEq

/-- A row of `agents` as the selector reads it. -/
structure AgentRow extends Agent where
  status : AgentStatus
  /-- `latency_profile["p95_ms"]`. -/
  p95Ms : ℚ := 5000

/-- `AgentUnavailableError`, with the values of its message. -/
structure AgentUnavailableError where
  capability : String
  budgetRemaining : Option ℚ

namespace AgentSelector

/-- `_compute_score`. -/
def computeScore (capability : String) (row : AgentRow) : ℚ :=
  let costEff := max 0 (1 - min (row.avgCostPerCall / (5 / 100)) 1)
  let latencyScore := max 0 (1 - min (row.p95Ms / 15000) 1)
  let matchScore : ℚ := if capability ∈ row.capabilities then 1 else 0
  let health : ℚ := if row.status = .active then 1 else 1 / 2
  35 / 100 * row.trustScore + 20 / 100 * costEff + 15 / 100 * latencyScore +
    15 / 100 * matchScore + 15 / 100 * health

/-- The first of the rows with the highest score, as a stable descending sort
puts it to the front. -/
def best? (score : AgentRow → ℚ) : List AgentRow → Option AgentRow
  | [] => none
  | row :: rest =>
    match best? score rest with
    | none => some row
    | some best => if score row < score best then some best else some row

theorem mem_of_best? {score : AgentRow → ℚ} {rows : List AgentRow} {best : AgentRow}
    (h : best? score rows = some best) : best ∈ rows := by
  induction rows with
  | nil => cases h
  | cons row rest ih =>
    unfold best? at h
    split at h
    · cases h
      exact List.mem_cons_self
    · rename_i other hother
      split at h
      · cases h
        exact List.mem_cons_of_mem _ (ih hother)
      · cases h
        exact List.mem_cons_self

/-- `select_agent` among the rows the query returns. -/
def selectAgent (rows : List AgentRow) (capability : String) (budgetRemaining : Option ℚ)
    (excludeAgentIds : List UUID) : Except AgentUnavailableError AgentRow :=
  let available := rows.filter (fun row => row.status = .active ∨ row.status = .degraded)
  let candidates := available.filter (fun row => capability ∈ row.capabilities)
  let candidates := candidates.filter (fun row => row.agentId ∉ excludeAgentIds)
  let candidates := candidates.filter (fun row =>
    budgetRemaining.all (fun budget => row.avgCostPerCall ≤ budget))
  match best? (computeScore capability) candidates with
  | none => .error { capability, budgetRemaining }
  | some row => .ok row

theorem capability_of_selectAgent {rows : List AgentRow} {capability : String}
    {budgetRemaining : Option ℚ} {excludeAgentIds : List UUID} {row : AgentRow}
    (h : selectAgent rows capability budgetRemaining excludeAgentIds = .ok row) :
    row ∈ rows ∧ capability ∈ row.capabilities := by
  unfold selectAgent at h
  dsimp only at h
  split at h
  · cases h
  · rename_i best hbest
    cases h
    have hmem := mem_of_best? hbest
    simp only [List.mem_filter, decide_eq_true_eq] at hmem
    exact ⟨hmem.1.1.1.1, hmem.1.1.2⟩

/-- The variables of `select_agents_for_dag`; it assigns to the nodes in place. -/
structure Assignment where
  assignments : List (String × Agent) := []
  dag : DAG
  remainingBudget : ℚ

/-- The body of the loop of `select_agents_for_dag`. -/
def assignNode (rows : List AgentRow) (state : Assignment) (node : DAGNode) :
    Except AgentUnavailableError Assignment := do
  let row ← selectAgent rows node.capability (some state.remainingBudget) []
  return {
    assignments := Assoc.set state.assignments node.nodeId row.toAgent
    dag := state.dag.modify node.nodeId (fun node =>
      { node with assignedAgentId := some row.agentId })
    remainingBudget := state.remainingBudget - row.avgCostPerCall }

/-- `select_agents_for_dag`. -/
def selectAgentsForDag (rows : List AgentRow) (dag : DAG) (budget : ℚ) :
    Except AgentUnavailableError Assignment :=
  dag.topologicalSort.foldlM (assignNode rows) { dag, remainingBudget := budget }

/-- `agents.get(node_id)`. -/
def Assignment.agents (state : Assignment) (nodeId : String) : Option Agent :=
  (state.assignments.find? (fun entry => entry.1 = nodeId)).map Prod.snd

/-- The assigned agents belong to nodes of the DAG that need their capability. -/
structure Assigns (rows : List AgentRow) (dag : DAG) (state : Assignment) : Prop where
  ids : state.dag.ids = dag.ids
  matched : ∀ entry ∈ state.assignments, ∃ node ∈ dag.nodes, node.nodeId = entry.1 ∧
    node.capability ∈ entry.2.capabilities

theorem Assigns.assignNode {rows : List AgentRow} {dag : DAG} {state : Assignment}
    {node : DAGNode} (h : Assigns rows dag state) (hnode : node ∈ dag.nodes) :
    Outcome.Holds (Assigns rows dag) (fun _ => True) (assignNode rows state node) := by
  unfold AgentSelector.assignNode
  cases hrow : selectAgent rows node.capability (some state.remainingBudget) [] with
  | error error => trivial
  | ok row =>
    refine ⟨?_, ?_⟩
    · show (state.dag.modify node.nodeId _).ids = dag.ids
      rw [DAG.ids_modify, h.ids]
    · intro entry hentry
      rcases Assoc.mem_set hentry with rfl | ⟨hold, -⟩
      · exact ⟨node, hnode, rfl, (capability_of_selectAgent hrow).2⟩
      · exact h.matched entry hold

theorem selectAgentsForDag_assigns (rows : List AgentRow) (dag : DAG) (budget : ℚ) :
    Outcome.Holds (Assigns rows dag) (fun _ => True) (selectAgentsForDag rows dag budget) := by
  refine Outcome.Holds.foldlM_mem _ _ ?_ ⟨rfl, ?_⟩
  · intro node hnode state hstate
    exact hstate.assignNode (DAG.mem_of_topologicalSort hnode)
  · intro entry hentry
    cases hentry

/-- A node with an agent is a node of the DAG, and the agent has its
capability. -/
theorem capability_of_agents {rows : List AgentRow} {dag : DAG} {budget : ℚ}
    {state : Assignment} {nodeId : String} {agent : Agent}
    (hselect : selectAgentsForDag rows dag budget = .ok state)
    (h : state.agents nodeId = some agent) :
    ∃ node ∈ dag.nodes, node.nodeId = nodeId ∧ node.capability ∈ agent.capabilities := by
  obtain ⟨entry, hentry, rfl⟩ := Option.map_eq_some_iff.1 h
  obtain ⟨node, hnode, hid, hcapability⟩ :=
    ((selectAgentsForDag_assigns rows dag budget).of_ok hselect).matched entry
      (List.mem_of_find?_eq_some hentry)
  have hkey : entry.1 = nodeId := by simpa using List.find?_some hentry
  exact ⟨node, hnode, hid.trans hkey, hcapability⟩

/-- The DAG keeps its ids. -/
theorem ids_of_selectAgentsForDag {rows : List AgentRow} {dag : DAG} {budget : ℚ}
    {state : Assignment} (hselect : selectAgentsForDag rows dag budget = .ok state) :
    state.dag.ids = dag.ids :=
  ((selectAgentsForDag_assigns rows dag budget).of_ok hselect).ids

end AgentSelector

end MassClaw
