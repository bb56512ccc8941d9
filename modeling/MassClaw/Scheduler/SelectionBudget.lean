import MassClaw.Core.Money
import MassClaw.Scheduler.Selector

/-!
# The budget of an assignment

`select_agents_for_dag` gets a budget in credits and takes the average costs of
the agents, which are in dollars, from it.  A credit is a thousandth of a dollar,
so an agent can fit into what is left of the budget and cost more than that.
-/

namespace MassClaw

namespace AgentSelector

/-- The average costs of the assigned agents, in credits. -/
def Assignment.credits (state : Assignment) : ℚ :=
  (state.assignments.map (fun entry => tokensToCredits entry.2.avgCostPerCall)).sum

/-- Every node finds an agent. -/
def FindsAll (rows : List AgentRow) : List DAGNode → ℚ → Prop
  | [], _ => True
  | node :: rest, remainingBudget =>
    ∃ row, selectAgent rows node.capability (some remainingBudget) [] = .ok row ∧
      FindsAll rows rest (remainingBudget - row.avgCostPerCall)

/-- The agents that are found also fit into what is left in credits. -/
def FitsInCredits (rows : List AgentRow) : List DAGNode → ℚ → ℚ → Prop
  | [], _, _ => True
  | node :: rest, remainingBudget, remainingCredits =>
    ∃ row, selectAgent rows node.capability (some remainingBudget) [] = .ok row ∧
      tokensToCredits row.avgCostPerCall ≤ remainingCredits ∧
      FitsInCredits rows rest (remainingBudget - row.avgCostPerCall)
        (remainingCredits - tokensToCredits row.avgCostPerCall)

/-- An assignment that is returned costs no more than the budget. -/
def StaysInBudget (rows : List AgentRow) (dag : DAG) (budget : ℚ) : Prop :=
  ∀ state, selectAgentsForDag rows dag budget = .ok state → state.credits ≤ budget

variable {rows : List AgentRow} {state final : Assignment} {nodes : List DAGNode}

theorem tokensToCredits_sub (a b : ℚ) :
    tokensToCredits (a - b) = tokensToCredits a - tokensToCredits b := by
  unfold tokensToCredits
  ring

/-! ## The loop -/

/-- What the body of the loop does with the agent that is found. -/
theorem assignNode_eq_ok {node : DAGNode} {next : Assignment}
    (h : assignNode rows state node = .ok next) :
    ∃ row, selectAgent rows node.capability (some state.remainingBudget) [] = .ok row ∧
      next.assignments = Assoc.set state.assignments node.nodeId row.toAgent ∧
      next.remainingBudget = state.remainingBudget - row.avgCostPerCall := by
  unfold assignNode at h
  cases hrow : selectAgent rows node.capability (some state.remainingBudget) [] with
  | error error =>
    rw [hrow] at h
    cases h
  | ok row =>
    rw [hrow] at h
    cases h
    exact ⟨row, rfl, rfl, rfl⟩

theorem foldlM_cons_eq_ok {node : DAGNode}
    (h : (node :: nodes).foldlM (assignNode rows) state = .ok final) :
    ∃ next, assignNode rows state node = .ok next ∧
      nodes.foldlM (assignNode rows) next = .ok final := by
  rw [List.foldlM_cons] at h
  cases hnext : assignNode rows state node with
  | error error =>
    rw [hnext] at h
    cases h
  | ok next =>
    rw [hnext] at h
    exact ⟨next, rfl, h⟩

/-- An assignment is returned exactly if every node finds an agent. -/
theorem foldlM_ok_iff : (∃ final, nodes.foldlM (assignNode rows) state = .ok final) ↔
    FindsAll rows nodes state.remainingBudget := by
  induction nodes generalizing state with
  | nil => exact ⟨fun _ => trivial, fun _ => ⟨state, rfl⟩⟩
  | cons node rest ih =>
    constructor
    · intro ⟨final, hfinal⟩
      obtain ⟨next, hnext, hrest⟩ := foldlM_cons_eq_ok hfinal
      obtain ⟨row, hrow, -, hbudget⟩ := assignNode_eq_ok hnext
      refine ⟨row, hrow, ?_⟩
      rw [← hbudget]
      exact ih.1 ⟨final, hrest⟩
    · intro ⟨row, hrow, hall⟩
      rw [List.foldlM_cons]
      unfold assignNode
      rw [hrow]
      exact ih.2 hall

/-- The costs of new nodes are what the budget loses. -/
theorem credits_foldlM (h : nodes.foldlM (assignNode rows) state = .ok final)
    (hnodup : (Assoc.keys state.assignments ++ nodes.map DAGNode.nodeId).Nodup) :
    final.credits =
      state.credits + tokensToCredits (state.remainingBudget - final.remainingBudget) := by
  induction nodes generalizing state with
  | nil =>
    cases h
    simp
  | cons node rest ih =>
    obtain ⟨next, hnext, hrest⟩ := foldlM_cons_eq_ok h
    obtain ⟨row, -, hassign, hbudget⟩ := assignNode_eq_ok hnext
    have hnew : node.nodeId ∉ Assoc.keys state.assignments := by
      intro hmem
      exact (List.nodup_append.1 hnodup).2.2 _ hmem _ (by simp) rfl
    have hset : next.assignments = state.assignments ++ [(node.nodeId, row.toAgent)] := by
      rw [hassign, Assoc.set, if_neg hnew]
    have hcredits : next.credits = state.credits + tokensToCredits row.avgCostPerCall := by
      rw [Assignment.credits, hset, List.map_append, List.sum_append, Assignment.credits]
      simp
    have hkeys : (Assoc.keys next.assignments ++ rest.map DAGNode.nodeId).Nodup := by
      rw [hset, Assoc.keys, List.map_append, List.append_assoc]
      exact hnodup
    rw [ih hrest hkeys, hcredits, hbudget, tokensToCredits_sub, tokensToCredits_sub,
      tokensToCredits_sub]
    ring

/-! ## What fits -/

/-- Agents that fit leave a budget in credits that is not negative. -/
theorem FitsInCredits.le {remainingCredits : ℚ}
    (h : FitsInCredits rows nodes state.remainingBudget remainingCredits)
    (hnonneg : 0 ≤ remainingCredits)
    (hfinal : nodes.foldlM (assignNode rows) state = .ok final) :
    tokensToCredits (state.remainingBudget - final.remainingBudget) ≤ remainingCredits := by
  induction nodes generalizing state remainingCredits with
  | nil =>
    cases hfinal
    simpa using hnonneg
  | cons node rest ih =>
    obtain ⟨next, hnext, hrest⟩ := foldlM_cons_eq_ok hfinal
    obtain ⟨row, hrow, -, hbudget⟩ := assignNode_eq_ok hnext
    obtain ⟨row', hrow', hfits, hlater⟩ := h
    cases hrow.symm.trans hrow'
    rw [← hbudget] at hlater
    have hle := ih hlater (by linarith) hrest
    rw [tokensToCredits_sub] at hle ⊢
    rw [hbudget, tokensToCredits_sub] at hle
    linarith

section Nonneg

variable (hcosts : ∀ row ∈ rows, 0 ≤ row.avgCostPerCall)

include hcosts

/-- Costs that are not negative only take from the budget. -/
theorem remainingBudget_foldlM (h : nodes.foldlM (assignNode rows) state = .ok final) :
    final.remainingBudget ≤ state.remainingBudget := by
  induction nodes generalizing state with
  | nil =>
    cases h
    exact le_refl _
  | cons node rest ih =>
    obtain ⟨next, hnext, hrest⟩ := foldlM_cons_eq_ok h
    obtain ⟨row, hrow, -, hbudget⟩ := assignNode_eq_ok hnext
    have hcost := hcosts row (capability_of_selectAgent hrow).1
    have hle := ih hrest
    linarith

/-- An assignment within the budget fits at every node. -/
theorem fitsInCredits_of_le {remainingCredits : ℚ}
    (hfinal : nodes.foldlM (assignNode rows) state = .ok final)
    (hle : tokensToCredits (state.remainingBudget - final.remainingBudget) ≤ remainingCredits) :
    FitsInCredits rows nodes state.remainingBudget remainingCredits := by
  induction nodes generalizing state remainingCredits with
  | nil => trivial
  | cons node rest ih =>
    obtain ⟨next, hnext, hrest⟩ := foldlM_cons_eq_ok hfinal
    obtain ⟨row, hrow, -, hbudget⟩ := assignNode_eq_ok hnext
    have hlater := remainingBudget_foldlM hcosts hrest
    have hspent : 0 ≤ tokensToCredits (next.remainingBudget - final.remainingBudget) :=
      tokensToCredits_nonneg (by linarith)
    have hsplit : tokensToCredits (state.remainingBudget - final.remainingBudget) =
        tokensToCredits row.avgCostPerCall +
          tokensToCredits (next.remainingBudget - final.remainingBudget) := by
      rw [hbudget, tokensToCredits_sub, tokensToCredits_sub, tokensToCredits_sub]
      ring
    refine ⟨row, hrow, by linarith, ?_⟩
    rw [← hbudget]
    exact ih hrest (by linarith)

end Nonneg

/-- The sort returns no id twice. -/
theorem nodup_topologicalSort (dag : DAG) : (dag.topologicalSort.map DAGNode.nodeId).Nodup := by
  obtain ⟨s, hs, horder⟩ := Kahn.run_loose dag.ids_nodup dag.children_closed
    (fun nodeId => (dag.parents nodeId).length)
  rw [DAG.topologicalSort, DAG.map_filterMap_node? (fun _ hmem => DAG.mem_ids_of_mem_run hmem),
    ← horder]
  have hnodup := hs.nodup
  rw [List.append_nil] at hnodup
  exact hnodup

/-- An assignment costs what the budget has lost. -/
theorem credits_selectAgentsForDag {dag : DAG} {budget : ℚ}
    (h : selectAgentsForDag rows dag budget = .ok state) :
    state.credits = tokensToCredits (budget - state.remainingBudget) := by
  have hnodup : (Assoc.keys ([] : List (String × Agent)) ++
      dag.topologicalSort.map DAGNode.nodeId).Nodup := nodup_topologicalSort dag
  rw [credits_foldlM h hnodup]
  exact zero_add _

namespace OneCredit

def node : DAGNode where
  nodeId := "a"
  description := "summarise"
  capability := "summarise"

def dag : DAG where
  nodes := [node]
  edges := []
  nodup := List.nodup_singleton _
  targets := by simp

def cent : AgentRow where
  agentId := UUID.ofNat 1
  name := "summariser"
  trustScore := 1 / 2
  capabilities := ["summarise"]
  avgCostPerCall := 1 / 100
  supportedTools := .list []
  status := .active

end OneCredit

end AgentSelector

end MassClaw
