import Mathlib.Data.List.Nodup
import MassClaw.Core.Basic
import MassClaw.Lib.Kahn

/-!
# The workflow DAG, `app/orchestration/dag.py`

A `DAG` holds its nodes as the Python dictionary does, by distinct ids in
insertion order, and its edges in the order in which the constructor and
`add_node` append them to the adjacency lists.  Distinct ids and edges that
end in a node are fields of the structure, so no operation can break them.

`node?` is the dictionary lookup.  Every operation below has one lemma that
says what `node?` returns afterwards; nothing else about the node list is
used later.
-/

namespace MassClaw

/-- A single node, `DAGNode`. -/
structure DAGNode where
  nodeId : String
  capability : String
  description : String
  dependsOn : List String := []
  estimatedComplexity : String := "medium"
  assignedAgentId : Option UUID := none
  taskId : Option UUID := none
  status : TaskStatus := .pending
  output : Option String := none
  error : Option String := none
  deriving DecidableEq

/-- `DAG`: the node dictionary and the two adjacency dictionaries, kept as one
list of parent and child pairs in insertion order. -/
structure DAG where
  nodes : List DAGNode
  edges : List (String × String)
  nodup : (nodes.map DAGNode.nodeId).Nodup
  targets : ∀ edge ∈ edges, edge.2 ∈ nodes.map DAGNode.nodeId
  deriving DecidableEq

/-- `DAGValidationError`, by the check that raises it. -/
inductive DAGValidationError
  | missingDependency (nodeId dep : String)
  | noRootNodes
  | cycle (remaining : List String)
  | noLeafNodes
  deriving DecidableEq

/-- The message of a validation error. -/
def DAGValidationError.message : DAGValidationError → String
  | missingDependency nodeId dep =>
    s!"Node '{nodeId}' depends on non-existent node '{dep}'"
  | noRootNodes => "DAG has no root nodes — all nodes have dependencies (cycle)"
  | cycle remaining => s!"DAG contains a cycle involving nodes: {remaining}"
  | noLeafNodes => "DAG has no leaf nodes"

namespace DAG

/-! ## Lookups -/

/-- The keys of the node dictionary. -/
def ids (dag : DAG) : List String := dag.nodes.map DAGNode.nodeId

/-- `dag._nodes.get(node_id)`. -/
def node? (dag : DAG) (nodeId : String) : Option DAGNode :=
  dag.nodes.find? (fun node => node.nodeId = nodeId)

/-- `dag._adjacency[node_id]`. -/
def children (dag : DAG) (nodeId : String) : List String :=
  (dag.edges.filter (fun edge => edge.1 = nodeId)).map Prod.snd

/-- `dag._reverse[node_id]`. -/
def parents (dag : DAG) (nodeId : String) : List String :=
  (dag.edges.filter (fun edge => edge.2 = nodeId)).map Prod.fst

/-- The status of a node, when it exists. -/
def status? (dag : DAG) (nodeId : String) : Option TaskStatus :=
  (dag.node? nodeId).map DAGNode.status

/-- The dependencies of a node; none when it does not exist. -/
def deps (dag : DAG) (nodeId : String) : List String :=
  ((dag.node? nodeId).map DAGNode.dependsOn).getD []

/-! ## Construction -/

/-- One assignment of the dictionary comprehension: a repeated id keeps its
place and takes the later node. -/
def insertNode (nodes : List DAGNode) (node : DAGNode) : List DAGNode :=
  if node.nodeId ∈ nodes.map DAGNode.nodeId then
    nodes.map (fun old => if old.nodeId = node.nodeId then node else old)
  else nodes ++ [node]

theorem insertNode_ids (nodes : List DAGNode) (node : DAGNode) :
    (insertNode nodes node).map DAGNode.nodeId =
      if node.nodeId ∈ nodes.map DAGNode.nodeId then nodes.map DAGNode.nodeId
      else nodes.map DAGNode.nodeId ++ [node.nodeId] := by
  unfold insertNode
  split
  · rw [List.map_map]
    refine List.map_congr_left (fun old _ => ?_)
    simp only [Function.comp_apply]
    split
    · rename_i h; exact h.symm
    · rfl
  · simp

theorem insertNode_nodup {nodes : List DAGNode} (node : DAGNode)
    (h : (nodes.map DAGNode.nodeId).Nodup) :
    ((insertNode nodes node).map DAGNode.nodeId).Nodup := by
  rw [insertNode_ids]
  split
  · exact h
  · rename_i hnot
    rw [List.nodup_append]
    refine ⟨h, List.nodup_singleton _, ?_⟩
    rintro a ha b hb rfl
    rw [List.mem_singleton] at hb
    exact hnot (hb ▸ ha)

/-- `{n.node_id: n for n in nodes}`. -/
def nodeDict (nodes : List DAGNode) : List DAGNode := nodes.foldl insertNode []

private theorem foldl_insertNode_nodup (nodes acc : List DAGNode)
    (h : (acc.map DAGNode.nodeId).Nodup) :
    ((nodes.foldl insertNode acc).map DAGNode.nodeId).Nodup := by
  induction nodes generalizing acc with
  | nil => exact h
  | cons node rest ih => exact ih _ (insertNode_nodup node h)

private theorem mem_foldl_insertNode_ids (nodes acc : List DAGNode) (nodeId : String) :
    nodeId ∈ (nodes.foldl insertNode acc).map DAGNode.nodeId ↔
      nodeId ∈ acc.map DAGNode.nodeId ∨ nodeId ∈ nodes.map DAGNode.nodeId := by
  induction nodes generalizing acc with
  | nil => simp
  | cons node rest ih =>
    rw [List.foldl_cons, ih, insertNode_ids, List.map_cons, List.mem_cons]
    split
    · rename_i h
      constructor
      · rintro (hacc | hrest)
        · exact Or.inl hacc
        · exact Or.inr (Or.inr hrest)
      · rintro (hacc | rfl | hrest)
        · exact Or.inl hacc
        · exact Or.inl h
        · exact Or.inr hrest
    · rw [List.mem_append, List.mem_singleton, or_assoc]

theorem nodeDict_nodup (nodes : List DAGNode) :
    ((nodeDict nodes).map DAGNode.nodeId).Nodup :=
  foldl_insertNode_nodup nodes [] List.nodup_nil

theorem mem_nodeDict_ids (nodes : List DAGNode) (nodeId : String) :
    nodeId ∈ (nodeDict nodes).map DAGNode.nodeId ↔ nodeId ∈ nodes.map DAGNode.nodeId := by
  rw [nodeDict, mem_foldl_insertNode_ids]
  simp

/-- With distinct ids the dictionary is the list itself. -/
theorem nodeDict_of_nodup {nodes : List DAGNode} (h : (nodes.map DAGNode.nodeId).Nodup) :
    nodeDict nodes = nodes := by
  have haux : ∀ (rest acc : List DAGNode), ((acc ++ rest).map DAGNode.nodeId).Nodup →
      rest.foldl insertNode acc = acc ++ rest := by
    intro rest
    induction rest with
    | nil => intro acc _; simp
    | cons node rest ih =>
      intro acc hacc
      have hnot : node.nodeId ∉ acc.map DAGNode.nodeId := by
        intro hmem
        rw [List.map_append, List.nodup_append] at hacc
        exact hacc.2.2 _ hmem _ (by simp) rfl
      rw [List.foldl_cons, insertNode, if_neg hnot, ih _ (by simpa using hacc)]
      simp
  simpa [nodeDict] using haux nodes [] h

/-- The edges the constructor appends, in order. -/
def edgesOf (nodes : List DAGNode) : List (String × String) :=
  nodes.flatMap (fun node => node.dependsOn.map (fun dep => (dep, node.nodeId)))

/-- The constructor before it validates. -/
def ofNodes (nodes : List DAGNode) : DAG where
  nodes := nodeDict nodes
  edges := edgesOf nodes
  nodup := nodeDict_nodup nodes
  targets := by
    intro edge hedge
    obtain ⟨node, hnode, hmem⟩ := List.mem_flatMap.1 hedge
    obtain ⟨dep, -, rfl⟩ := List.mem_map.1 hmem
    exact (mem_nodeDict_ids nodes _).2 (List.mem_map_of_mem hnode)

/-- The first dependency that names no node, with the node that has it. -/
def missingDependency? (dag : DAG) : Option (String × String) :=
  dag.nodes.findSome? (fun node =>
    (node.dependsOn.find? (fun dep => dep ∉ dag.ids)).map (fun dep => (node.nodeId, dep)))

/-- The in-degrees of `validate`, counted from the nodes' own dependencies. -/
def inDegree (dag : DAG) (nodeId : String) : Int := (dag.deps nodeId).length

/-- The run of Kahn's algorithm in `validate`. -/
def kahn (dag : DAG) : Kahn.State String := Kahn.finish dag.ids dag.inDegree dag.children

/-- `validate`: dependency references, a root, no cycle, a leaf. -/
def validate (dag : DAG) : Except DAGValidationError Unit :=
  match dag.missingDependency? with
  | some (nodeId, dep) => .error (.missingDependency nodeId dep)
  | none =>
    if dag.ids.all (fun nodeId => dag.inDegree nodeId ≠ 0) then .error .noRootNodes
    else if dag.kahn.order.length ≠ dag.nodes.length then
      .error (.cycle (dag.ids.filter (fun nodeId => 0 < dag.kahn.inDegree nodeId)))
    else if dag.ids.all (fun nodeId => !(dag.children nodeId).isEmpty) then .error .noLeafNodes
    else .ok ()

/-- `DAG(nodes)`. -/
def new (nodes : List DAGNode) : Except DAGValidationError DAG :=
  (ofNodes nodes).validate.map (fun _ => ofNodes nodes)

/-! ## Changing one node -/

/-- Assign to attributes of one node.  The id is its key and stays. -/
def assign (f : DAGNode → DAGNode) (node : DAGNode) : DAGNode :=
  { f node with nodeId := node.nodeId }

theorem ids_assign (nodes : List DAGNode) (nodeId : String) (f : DAGNode → DAGNode) :
    (nodes.map (fun node => if node.nodeId = nodeId then assign f node else node)).map
      DAGNode.nodeId = nodes.map DAGNode.nodeId := by
  rw [List.map_map]
  refine List.map_congr_left (fun node _ => ?_)
  simp only [Function.comp_apply]
  split <;> rfl

/-- Assign to attributes of the node with the given id. -/
def modify (dag : DAG) (nodeId : String) (f : DAGNode → DAGNode) : DAG where
  nodes := dag.nodes.map (fun node => if node.nodeId = nodeId then assign f node else node)
  edges := dag.edges
  nodup := by
    rw [ids_assign]
    exact dag.nodup
  targets := by
    rw [ids_assign]
    exact dag.targets

/-- `add_node`; `none` is the `ValueError` for an id that exists. -/
def addNode (dag : DAG) (node : DAGNode) : Option DAG :=
  if h : node.nodeId ∈ dag.nodes.map DAGNode.nodeId then none
  else some
    { nodes := dag.nodes ++ [node]
      edges := dag.edges ++ node.dependsOn.map (fun dep => (dep, node.nodeId))
      nodup := by
        rw [List.map_append, List.nodup_append]
        refine ⟨dag.nodup, by simp, ?_⟩
        rintro a ha b hb rfl
        obtain rfl : a = node.nodeId := by simpa using hb
        exact h ha
      targets := by
        intro edge hedge
        rw [List.map_append, List.mem_append]
        rcases List.mem_append.1 hedge with hold | hnew
        · exact Or.inl (dag.targets edge hold)
        · obtain ⟨dep, -, rfl⟩ := List.mem_map.1 hnew
          exact Or.inr (by simp) }

/-- `mark_running`. -/
def markRunning (dag : DAG) (nodeId : String) : DAG :=
  dag.modify nodeId (fun node => { node with status := .running })

/-- `mark_pending`: back to pending for a retry, the output cleared. -/
def markPending (dag : DAG) (nodeId : String) : DAG :=
  dag.modify nodeId (fun node => { node with status := .pending, output := none })

/-- `mark_completed`. -/
def markCompleted (dag : DAG) (nodeId : String) (output : Option String) : DAG :=
  dag.modify nodeId (fun node => { node with status := .completed, output := output })

/-- `mark_blocked`. -/
def markBlocked (dag : DAG) (nodeId : String) (reason : Option String) : DAG :=
  dag.modify nodeId (fun node =>
    { node with
      status := .blocked
      error := some (reason.getD "Blocked by dependency or manual action") })

/-- The assignment `node.task_id = task.task_id`. -/
def setTaskId (dag : DAG) (nodeId : String) (taskId : UUID) : DAG :=
  dag.modify nodeId (fun node => { node with taskId := some taskId })

/-! ## Failure propagation -/

/-- The statuses the cascade turns into `SKIPPED`. -/
def IsSkippable (status : TaskStatus) : Prop :=
  status = .pending ∨ status = .todo ∨ status = .blocked

instance (status : TaskStatus) : Decidable (IsSkippable status) := by
  unfold IsSkippable; infer_instance

/-- The attributes `mark_failed` assigns to the node itself. -/
def failNode (error : Option String) (node : DAGNode) : DAGNode :=
  { node with status := .failed, error := error }

/-- The attributes the cascade of `failedId` assigns to a node it skips. -/
def skipNode (failedId : String) (node : DAGNode) : DAGNode :=
  { node with
    status := .skipped
    error := some s!"Skipped: dependency '{failedId}' failed" }

/-- The local variables of the cascade loop of `mark_failed`. -/
structure Cascade where
  dag : DAG
  seen : List String
  skipped : List String

/-- One round of the cascade: a child seen for the first time is skipped when
it has not started, and then its own children are due. -/
def skipStep (failedId childId : String) (c : Cascade) : Cascade × List String :=
  if childId ∈ c.seen then (c, [])
  else
    match c.dag.status? childId with
    | none => ({ c with seen := childId :: c.seen }, [])
    | some status =>
      if IsSkippable status then
        ({ dag := c.dag.modify childId (skipNode failedId)
           seen := childId :: c.seen
           skipped := c.skipped ++ [childId] },
          c.dag.children childId)
      else ({ c with seen := childId :: c.seen }, [])

/-- `mark_failed` with the list of skipped ids it returns. -/
def markFailedCascade (dag : DAG) (nodeId : String) (error : Option String) : Cascade :=
  let failed := dag.modify nodeId (failNode error)
  Worklist.drain (skipStep nodeId) (2 * dag.edges.length) (failed.children nodeId)
    { dag := failed, seen := [], skipped := [] }

/-- The DAG after `mark_failed`. -/
def markFailed (dag : DAG) (nodeId : String) (error : Option String) : DAG :=
  (dag.markFailedCascade nodeId error).dag

/-! ## Queries -/

/-- The test of `get_ready_nodes` on one node. -/
def IsReady (dag : DAG) (node : DAGNode) : Prop :=
  node.status.IsStartable ∧
    ¬(∃ dep ∈ node.dependsOn, dag.status? dep = some .failed ∨ dag.status? dep = some .skipped) ∧
    ∀ dep ∈ node.dependsOn, dag.status? dep = some .completed

instance (dag : DAG) (node : DAGNode) : Decidable (dag.IsReady node) := by
  unfold IsReady; infer_instance

/-- `get_ready_nodes`. -/
def getReadyNodes (dag : DAG) : List DAGNode :=
  dag.nodes.filter (fun node => dag.IsReady node)

/-- `is_complete`. -/
def isComplete (dag : DAG) : Bool := dag.nodes.all (fun node => node.status.IsTerminal)

/-- The number of nodes with a status. -/
def countStatus (dag : DAG) (status : TaskStatus) : Nat :=
  dag.nodes.countP (fun node => node.status = status)

/-- `completed_count`. -/
def completedCount (dag : DAG) : Nat := dag.countStatus .completed

/-- `failed_count`. -/
def failedCount (dag : DAG) : Nat := dag.countStatus .failed

/-- `skipped_count`. -/
def skippedCount (dag : DAG) : Nat := dag.countStatus .skipped

/-- `nodes_failed_for_budget`. -/
def nodesFailedForBudget (dag : DAG) : List String :=
  (dag.nodes.filter (fun node =>
    node.status = .failed ∧
      "budget insufficient".toList.isPrefixOf ((node.error.getD "").toLower.toList))).map
    DAGNode.nodeId

end DAG

end MassClaw
