import MassClaw.Dag.Basic

/-!
# What the DAG operations do to a lookup

`node?` after each operation, and the parts of the DAG that an operation does
not touch.  The proofs about the scheduler read a DAG through `node?`, `deps`
and `children` only.
-/

namespace MassClaw

namespace DAG

/-! ## Lookups and membership -/

theorem node?_eq_some_iff {dag : DAG} {nodeId : String} {node : DAGNode} :
    dag.node? nodeId = some node ↔ node ∈ dag.nodes ∧ node.nodeId = nodeId := by
  unfold node?
  constructor
  · intro h
    exact ⟨List.mem_of_find?_eq_some h, by simpa using List.find?_some h⟩
  · rintro ⟨hmem, rfl⟩
    have hnodup := dag.nodup
    generalize dag.nodes = nodes at hmem hnodup
    induction nodes with
    | nil => cases hmem
    | cons head rest ih =>
      rw [List.map_cons, List.nodup_cons] at hnodup
      rcases List.mem_cons.1 hmem with rfl | hrest
      · simp
      · have hne : head.nodeId ≠ node.nodeId := by
          intro heq
          exact hnodup.1 (heq ▸ List.mem_map_of_mem hrest)
        rw [List.find?_cons_of_neg (by simpa using hne)]
        exact ih hrest hnodup.2

theorem node?_nodeId {dag : DAG} {nodeId : String} {node : DAGNode}
    (h : dag.node? nodeId = some node) : node.nodeId = nodeId :=
  (node?_eq_some_iff.1 h).2

theorem node?_of_mem {dag : DAG} {node : DAGNode} (h : node ∈ dag.nodes) :
    dag.node? node.nodeId = some node :=
  node?_eq_some_iff.2 ⟨h, rfl⟩

theorem mem_ids_iff {dag : DAG} {nodeId : String} :
    nodeId ∈ dag.ids ↔ ∃ node, dag.node? nodeId = some node := by
  unfold ids
  rw [List.mem_map]
  exact exists_congr fun node => node?_eq_some_iff.symm

theorem node?_eq_none_iff {dag : DAG} {nodeId : String} :
    dag.node? nodeId = none ↔ nodeId ∉ dag.ids := by
  rw [mem_ids_iff, Option.eq_none_iff_forall_not_mem]
  simp

theorem status?_eq_some_iff {dag : DAG} {nodeId : String} {status : TaskStatus} :
    dag.status? nodeId = some status ↔
      ∃ node, dag.node? nodeId = some node ∧ node.status = status := by
  simp [status?]

theorem deps_of_node? {dag : DAG} {nodeId : String} {node : DAGNode}
    (h : dag.node? nodeId = some node) : dag.deps nodeId = node.dependsOn := by
  simp [deps, h]

theorem mem_ids_of_mem_deps {dag : DAG} {nodeId dep : String} (h : dep ∈ dag.deps nodeId) :
    nodeId ∈ dag.ids := by
  cases hnode : dag.node? nodeId with
  | none => simp [deps, hnode] at h
  | some node => exact mem_ids_iff.2 ⟨node, hnode⟩

/-! ## Changing one node -/

section Modify

variable (dag : DAG) (nodeId : String) {f : DAGNode → DAGNode}

@[simp] theorem ids_modify : (dag.modify nodeId f).ids = dag.ids :=
  ids_assign dag.nodes nodeId f

@[simp] theorem edges_modify : (dag.modify nodeId f).edges = dag.edges := rfl

@[simp] theorem children_modify (parent : String) :
    (dag.modify nodeId f).children parent = dag.children parent := rfl

/-- `modify` changes the lookup of its own node only. -/
theorem node?_modify (hf : ∀ node, (f node).nodeId = node.nodeId) (other : String) :
    (dag.modify nodeId f).node? other =
      if other = nodeId then (dag.node? other).map f else dag.node? other := by
  have hassign : ∀ node, assign f node = f node := by
    intro node
    unfold assign
    rw [← hf node]
  unfold node? modify
  simp only
  induction dag.nodes with
  | nil => simp
  | cons head rest ih =>
    rw [List.map_cons]
    by_cases hhead : head.nodeId = other
    · by_cases hother : other = nodeId
      · subst hother
        simp [hhead, hassign, hf]
      · have : head.nodeId ≠ nodeId := hhead ▸ hother
        simp [hhead, hother]
    · have hkeep : (if head.nodeId = nodeId then assign f head else head).nodeId ≠ other := by
        split
        · exact hhead
        · exact hhead
      rw [List.find?_cons_of_neg (by simpa using hkeep),
        List.find?_cons_of_neg (by simpa using hhead)]
      exact ih

theorem node?_modify_self (hf : ∀ node, (f node).nodeId = node.nodeId) :
    (dag.modify nodeId f).node? nodeId = (dag.node? nodeId).map f := by
  rw [node?_modify dag nodeId hf, if_pos rfl]

theorem node?_modify_ne (hf : ∀ node, (f node).nodeId = node.nodeId) {other : String}
    (h : other ≠ nodeId) : (dag.modify nodeId f).node? other = dag.node? other := by
  rw [node?_modify dag nodeId hf, if_neg h]

/-- An update that keeps the dependency list keeps all dependencies. -/
theorem deps_modify (hf : ∀ node, (f node).nodeId = node.nodeId)
    (hdeps : ∀ node, (f node).dependsOn = node.dependsOn) (other : String) :
    (dag.modify nodeId f).deps other = dag.deps other := by
  unfold deps
  rw [node?_modify dag nodeId hf]
  split
  · cases dag.node? other with
    | none => rfl
    | some node => simp [hdeps]
  · rfl

end Modify

/-! ## The status operations

Each of them leaves the ids, the adjacency lists and the dependencies alone
and changes the record of its own node. -/

section Marks

variable (dag : DAG) (nodeId : String)

@[simp] theorem ids_markRunning : (dag.markRunning nodeId).ids = dag.ids :=
  ids_modify dag nodeId

@[simp] theorem ids_markPending : (dag.markPending nodeId).ids = dag.ids :=
  ids_modify dag nodeId

@[simp] theorem ids_markCompleted (output : Option String) :
    (dag.markCompleted nodeId output).ids = dag.ids := ids_modify dag nodeId

@[simp] theorem ids_setTaskId (taskId : UUID) : (dag.setTaskId nodeId taskId).ids = dag.ids :=
  ids_modify dag nodeId

@[simp] theorem children_markRunning (parent : String) :
    (dag.markRunning nodeId).children parent = dag.children parent := rfl

@[simp] theorem children_markPending (parent : String) :
    (dag.markPending nodeId).children parent = dag.children parent := rfl

@[simp] theorem children_markCompleted (output : Option String) (parent : String) :
    (dag.markCompleted nodeId output).children parent = dag.children parent := rfl

@[simp] theorem children_setTaskId (taskId : UUID) (parent : String) :
    (dag.setTaskId nodeId taskId).children parent = dag.children parent := rfl

@[simp] theorem deps_markRunning (other : String) :
    (dag.markRunning nodeId).deps other = dag.deps other :=
  deps_modify dag nodeId (f := fun node => { node with status := .running })
    (fun _ => rfl) (fun _ => rfl) other

@[simp] theorem deps_markPending (other : String) :
    (dag.markPending nodeId).deps other = dag.deps other :=
  deps_modify dag nodeId (f := fun node => { node with status := .pending, output := none })
    (fun _ => rfl) (fun _ => rfl) other

@[simp] theorem deps_markCompleted (output : Option String) (other : String) :
    (dag.markCompleted nodeId output).deps other = dag.deps other :=
  deps_modify dag nodeId (f := fun node => { node with status := .completed, output := output })
    (fun _ => rfl) (fun _ => rfl) other

/-- A node that is found after another one was completed has its old
dependencies. -/
theorem deps_of_markCompleted {dag : DAG} {nodeId other : String} {output : Option String}
    {node : DAGNode} (h : (dag.markCompleted nodeId output).node? other = some node) :
    dag.deps other = node.dependsOn := by
  rw [← deps_markCompleted dag nodeId output, deps_of_node? h]

@[simp] theorem deps_setTaskId (taskId : UUID) (other : String) :
    (dag.setTaskId nodeId taskId).deps other = dag.deps other :=
  deps_modify dag nodeId (f := fun node => { node with taskId := some taskId })
    (fun _ => rfl) (fun _ => rfl) other

theorem node?_markCompleted (output : Option String) (other : String) :
    (dag.markCompleted nodeId output).node? other =
      if other = nodeId then
        (dag.node? other).map (fun node => { node with status := .completed, output := output })
      else dag.node? other :=
  node?_modify dag nodeId (f := fun node => { node with status := .completed, output := output })
    (fun _ => rfl) other

theorem node?_setTaskId (taskId : UUID) (other : String) :
    (dag.setTaskId nodeId taskId).node? other =
      if other = nodeId then (dag.node? other).map (fun node => { node with taskId := some taskId })
      else dag.node? other :=
  node?_modify dag nodeId (f := fun node => { node with taskId := some taskId })
    (fun _ => rfl) other

/-- The status after an operation that assigns `status` to its node. -/
theorem status?_modify {f : DAGNode → DAGNode} {status : TaskStatus}
    (hf : ∀ node, (f node).nodeId = node.nodeId) (hstatus : ∀ node, (f node).status = status)
    (other : String) :
    (dag.modify nodeId f).status? other =
      if other = nodeId then (dag.status? other).map (fun _ => status)
      else dag.status? other := by
  unfold status?
  rw [node?_modify dag nodeId hf]
  split
  · cases dag.node? other with
    | none => rfl
    | some node => simp [hstatus]
  · rfl

theorem status?_markRunning (other : String) :
    (dag.markRunning nodeId).status? other =
      if other = nodeId then (dag.status? other).map (fun _ => .running)
      else dag.status? other :=
  status?_modify dag nodeId (f := fun node => { node with status := .running })
    (fun _ => rfl) (fun _ => rfl) other

theorem status?_markPending (other : String) :
    (dag.markPending nodeId).status? other =
      if other = nodeId then (dag.status? other).map (fun _ => .pending)
      else dag.status? other :=
  status?_modify dag nodeId (f := fun node => { node with status := .pending, output := none })
    (fun _ => rfl) (fun _ => rfl) other

theorem status?_markCompleted (output : Option String) (other : String) :
    (dag.markCompleted nodeId output).status? other =
      if other = nodeId then (dag.status? other).map (fun _ => .completed)
      else dag.status? other :=
  status?_modify dag nodeId (f := fun node => { node with status := .completed, output := output })
    (fun _ => rfl) (fun _ => rfl) other

/-- Completed, and at once reset for another attempt. -/
theorem status?_retry (output : Option String) (other : String) :
    ((dag.markCompleted nodeId output).markPending nodeId).status? other =
      if other = nodeId then (dag.status? other).map (fun _ => .pending)
      else dag.status? other := by
  rw [status?_markPending, status?_markCompleted]
  split
  · rw [Option.map_map]
    rfl
  · rfl

@[simp] theorem status?_setTaskId (taskId : UUID) (other : String) :
    (dag.setTaskId nodeId taskId).status? other = dag.status? other := by
  unfold status?
  rw [node?_setTaskId]
  split
  · cases dag.node? other with
    | none => rfl
    | some node => rfl
  · rfl

end Marks

/-! ## Adding a node -/

theorem addNode_eq_some {dag dag' : DAG} {node : DAGNode} (h : dag.addNode node = some dag') :
    node.nodeId ∉ dag.ids ∧ dag'.nodes = dag.nodes ++ [node] ∧
      dag'.edges = dag.edges ++ node.dependsOn.map (fun dep => (dep, node.nodeId)) := by
  unfold addNode at h
  split at h
  · cases h
  · rename_i hnot
    obtain rfl := Option.some.inj h
    exact ⟨hnot, rfl, rfl⟩

/-- `add_node` adds exactly one entry. -/
theorem node?_addNode {dag dag' : DAG} {node : DAGNode} (h : dag.addNode node = some dag')
    (nodeId : String) :
    dag'.node? nodeId = if nodeId = node.nodeId then some node else dag.node? nodeId := by
  obtain ⟨hnot, hnodes, -⟩ := addNode_eq_some h
  unfold node?
  rw [hnodes, List.find?_append]
  split
  · rename_i heq
    have : dag.nodes.find? (fun old => decide (old.nodeId = nodeId)) = none :=
      node?_eq_none_iff.2 (heq ▸ hnot)
    rw [this]
    simp [heq]
  · rename_i hne
    have : decide (node.nodeId = nodeId) = false := by simpa using fun h => hne h.symm
    simp [this]

theorem ids_addNode {dag dag' : DAG} {node : DAGNode} (h : dag.addNode node = some dag') :
    dag'.ids = dag.ids ++ [node.nodeId] := by
  simp [ids, (addNode_eq_some h).2.1]

theorem deps_addNode {dag dag' : DAG} {node : DAGNode} (h : dag.addNode node = some dag')
    (nodeId : String) :
    dag'.deps nodeId = if nodeId = node.nodeId then node.dependsOn else dag.deps nodeId := by
  unfold deps
  rw [node?_addNode h]
  split <;> simp

theorem mem_children_addNode {dag dag' : DAG} {node : DAGNode}
    (h : dag.addNode node = some dag') (parent child : String) :
    child ∈ dag'.children parent ↔
      child ∈ dag.children parent ∨ (child = node.nodeId ∧ parent ∈ node.dependsOn) := by
  simp only [children, (addNode_eq_some h).2.2, List.filter_append, List.map_append,
    List.mem_append, List.mem_map, List.mem_filter, decide_eq_true_eq]
  constructor
  · rintro (hold | ⟨edge, ⟨⟨dep, hdep, rfl⟩, rfl⟩, rfl⟩)
    · exact Or.inl hold
    · exact Or.inr ⟨rfl, hdep⟩
  · rintro (hold | ⟨rfl, hparent⟩)
    · exact Or.inl hold
    · exact Or.inr ⟨(parent, node.nodeId), ⟨⟨parent, hparent, rfl⟩, rfl⟩, rfl⟩

/-! ## Ready and complete -/

theorem mem_getReadyNodes {dag : DAG} {node : DAGNode} :
    node ∈ dag.getReadyNodes ↔ dag.node? node.nodeId = some node ∧ dag.IsReady node := by
  unfold getReadyNodes
  rw [List.mem_filter, decide_eq_true_eq]
  exact and_congr_left fun _ => ⟨node?_of_mem, fun h => (node?_eq_some_iff.1 h).1⟩

theorem getReadyNodes_nodup (dag : DAG) : (dag.getReadyNodes.map DAGNode.nodeId).Nodup :=
  dag.nodup.sublist (List.filter_sublist.map _)

theorem isComplete_iff {dag : DAG} :
    dag.isComplete = true ↔
      ∀ nodeId status, dag.status? nodeId = some status → status.IsTerminal := by
  unfold isComplete
  rw [List.all_eq_true]
  constructor
  · intro h nodeId status hstatus
    obtain ⟨node, hnode, rfl⟩ := status?_eq_some_iff.1 hstatus
    simpa using h node (node?_eq_some_iff.1 hnode).1
  · intro h node hnode
    simpa using h node.nodeId node.status
      (status?_eq_some_iff.2 ⟨node, node?_of_mem hnode, rfl⟩)

end DAG

end MassClaw
