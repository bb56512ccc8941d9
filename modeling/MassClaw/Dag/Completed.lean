import MassClaw.Dag.Cascade

/-!
# Completed nodes and task keys

A scheduler step completes one node and leaves the other completed nodes as
they are; it never takes the key of a task row away from a node.
-/

namespace MassClaw

namespace DAG

/-- The key of the task row of a node. -/
def taskId? (dag : DAG) (nodeId : String) : Option UUID := (dag.node? nodeId).bind DAGNode.taskId

/-- The completed nodes of `dag'`, except the listed one, are completed nodes of
`dag` with the same record. -/
def CompletedFrom (dag dag' : DAG) (except : Option String) : Prop :=
  ∀ nodeId node, some nodeId ≠ except → dag'.node? nodeId = some node →
    node.status = .completed → dag.node? nodeId = some node

/-- The nodes keep the keys of their task rows. -/
def TasksKept (dag dag' : DAG) : Prop :=
  ∀ nodeId taskId, dag.taskId? nodeId = some taskId → dag'.taskId? nodeId = some taskId

theorem CompletedFrom.refl (dag : DAG) (except : Option String) : CompletedFrom dag dag except :=
  fun _ _ _ hnode _ => hnode

theorem CompletedFrom.trans {dag₁ dag₂ dag₃ : DAG} {except : Option String}
    (h : CompletedFrom dag₁ dag₂ none) (h' : CompletedFrom dag₂ dag₃ except) :
    CompletedFrom dag₁ dag₃ except := by
  intro nodeId node hne hnode hstatus
  exact h nodeId node (by simp) (h' nodeId node hne hnode hstatus) hstatus

theorem TasksKept.refl (dag : DAG) : TasksKept dag dag := fun _ _ h => h

theorem TasksKept.trans {dag₁ dag₂ dag₃ : DAG} (h : TasksKept dag₁ dag₂) (h' : TasksKept dag₂ dag₃) :
    TasksKept dag₁ dag₃ :=
  fun nodeId taskId htask => h' nodeId taskId (h nodeId taskId htask)

section Modify

variable (dag : DAG) (nodeId : String) {f : DAGNode → DAGNode}

theorem tasksKept_modify (hf : ∀ node, (f node).nodeId = node.nodeId)
    (htask : ∀ node, (f node).taskId = node.taskId) : TasksKept dag (dag.modify nodeId f) := by
  intro other taskId h
  unfold taskId? at h ⊢
  rw [node?_modify dag nodeId hf]
  split
  · cases hnode : dag.node? other with
    | none =>
      rw [hnode] at h
      cases h
    | some node =>
      rw [hnode] at h
      rw [Option.map_some, Option.bind_some, htask]
      exact h
  · exact h

/-- A change that does not complete its node completes none. -/
theorem completedFrom_modify (hf : ∀ node, (f node).nodeId = node.nodeId)
    (hstatus : ∀ node, (f node).status ≠ .completed) :
    CompletedFrom dag (dag.modify nodeId f) none := by
  intro other node _ hnode hcompleted
  rw [node?_modify dag nodeId hf] at hnode
  split at hnode
  · obtain ⟨old, -, rfl⟩ := Option.map_eq_some_iff.1 hnode
    exact absurd hcompleted (hstatus old)
  · exact hnode

end Modify

section Operations

variable (dag : DAG) (nodeId : String)

theorem tasksKept_markRunning : TasksKept dag (dag.markRunning nodeId) :=
  tasksKept_modify dag nodeId (fun _ => rfl) (fun _ => rfl)

theorem tasksKept_markPending : TasksKept dag (dag.markPending nodeId) :=
  tasksKept_modify dag nodeId (fun _ => rfl) (fun _ => rfl)

theorem tasksKept_markCompleted (output : Option String) :
    TasksKept dag (dag.markCompleted nodeId output) :=
  tasksKept_modify dag nodeId (fun _ => rfl) (fun _ => rfl)

theorem completedFrom_markRunning : CompletedFrom dag (dag.markRunning nodeId) none :=
  completedFrom_modify dag nodeId (fun _ => rfl) (fun _ => by simp)

theorem completedFrom_markPending : CompletedFrom dag (dag.markPending nodeId) none :=
  completedFrom_modify dag nodeId (fun _ => rfl) (fun _ => by simp)

/-- Completing a node leaves the other completed nodes alone. -/
theorem completedFrom_markCompleted (output : Option String) :
    CompletedFrom dag (dag.markCompleted nodeId output) (some nodeId) := by
  intro other node hne hnode _
  rw [node?_markCompleted, if_neg (fun heq => hne (congrArg some heq))] at hnode
  exact hnode

theorem tasksKept_markFailed (error : Option String) :
    TasksKept dag (dag.markFailed nodeId error) := by
  intro other taskId h
  have hbase := tasksKept_modify dag nodeId (failNode_nodeId error) (fun _ => rfl) other taskId h
  unfold taskId? at hbase ⊢
  rw [node?_markFailed]
  split
  · rw [Option.bind_map]
    exact hbase
  · exact hbase

theorem completedFrom_markFailed (error : Option String) :
    CompletedFrom dag (dag.markFailed nodeId error) none := by
  intro other node _ hnode hcompleted
  have hstatus := status?_eq_some_iff.2 ⟨node, hnode, hcompleted⟩
  rcases status?_markFailed_cases dag nodeId error hstatus with ⟨-, hfailed⟩ | ⟨-, hskipped⟩ |
    ⟨hself, hnot, -⟩
  · cases hfailed
  · cases hskipped
  · rw [node?_markFailed, if_neg hnot, node?_modify_ne _ _ (failNode_nodeId error) hself] at hnode
    exact hnode

/-- A node gets the key of its task row. -/
theorem taskId?_setTaskId (taskId : UUID) (other : String) :
    (dag.setTaskId nodeId taskId).taskId? other =
      if other = nodeId ∧ other ∈ dag.ids then some taskId else dag.taskId? other := by
  unfold taskId?
  rw [node?_setTaskId]
  by_cases hself : other = nodeId
  · rw [if_pos hself]
    cases hnode : dag.node? other with
    | none => simp [node?_eq_none_iff.1 hnode]
    | some node => simp [hself, hself ▸ mem_ids_iff.2 ⟨node, hnode⟩]
  · simp [hself]

/-- The completed nodes do not include the one that gets a new key. -/
theorem completedFrom_setTaskId (taskId : UUID) (h : dag.status? nodeId ≠ some .completed) :
    CompletedFrom dag (dag.setTaskId nodeId taskId) none := by
  intro other node _ hnode hcompleted
  rw [node?_setTaskId] at hnode
  split at hnode
  · rename_i hself
    obtain ⟨old, hold, rfl⟩ := Option.map_eq_some_iff.1 hnode
    rw [hself] at hold
    exact absurd (status?_eq_some_iff.2 ⟨old, hold, hcompleted⟩) h
  · exact hnode

variable {dag} {dag' : DAG} {node : DAGNode}

theorem tasksKept_addNode (h : dag.addNode node = some dag') : TasksKept dag dag' := by
  intro other taskId htask
  unfold taskId? at htask ⊢
  rw [node?_addNode h]
  split
  · rename_i hself
    have hfresh : dag.node? other = none :=
      node?_eq_none_iff.2 (hself ▸ (addNode_eq_some h).1)
    rw [hfresh] at htask
    cases htask
  · exact htask

theorem completedFrom_addNode (h : dag.addNode node = some dag') (hstatus : node.status ≠ .completed) :
    CompletedFrom dag dag' none := by
  intro other found _ hfound hcompleted
  rw [node?_addNode h] at hfound
  split at hfound
  · cases hfound
    exact absurd hcompleted hstatus
  · exact hfound

end Operations

end DAG

end MassClaw
