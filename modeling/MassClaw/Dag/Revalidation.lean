import Mathlib.Data.List.MinMax
import MassClaw.Dag.Progress
import MassClaw.Lib.Transition

/-!
# DAGs that the constructor accepts again

`add_node` extends an accepted DAG without validating it, and a stored DAG is
validated when it is read back.  `Rebuildable` is what the changes between the
two keep: the DAG is acyclic, and its adjacency lists are those that the
constructor makes of its nodes, entry by entry.

`new_of_rebuildable` says that the constructor gives such a DAG back.  The root
and the leaf that it asks for are nodes of the least and of the greatest rank.
-/

namespace MassClaw

namespace DAG

/-- The constructor's own adjacency lists, without a cycle. -/
structure Rebuildable (dag : DAG) : Prop where
  acyclic : dag.Acyclic
  edges : dag.edges = edgesOf dag.nodes
  nonempty : dag.ids ≠ []

/-! ## The constructor on the nodes of a DAG -/

theorem ofNodes_self {dag : DAG} (hedges : dag.edges = edgesOf dag.nodes) :
    ofNodes dag.nodes = dag := by
  have hnodes : nodeDict dag.nodes = dag.nodes := nodeDict_of_nodup dag.nodup
  unfold ofNodes
  cases dag with
  | mk nodes edges nodup targets =>
    dsimp only at hnodes hedges
    simp only [hnodes, hedges]

namespace Rebuildable

variable {dag : DAG}

theorem missingDependency?_eq_none (h : dag.Rebuildable) : dag.missingDependency? = none := by
  unfold missingDependency?
  rw [List.findSome?_eq_none_iff]
  intro node hnode
  rw [Option.map_eq_none_iff, List.find?_eq_none]
  intro dep hdep
  rw [← deps_of_node? (node?_of_mem hnode)] at hdep
  simpa using h.acyclic.depsExist node.nodeId dep hdep

/-- A node of the least rank has no dependencies. -/
theorem exists_root (h : dag.Rebuildable) : ∃ nodeId ∈ dag.ids, dag.inDegree nodeId = 0 := by
  obtain ⟨rank, hrank⟩ := h.acyclic.ranked
  cases hmin : dag.ids.argmin rank with
  | none => exact absurd (List.argmin_eq_none.1 hmin) h.nonempty
  | some nodeId =>
    refine ⟨nodeId, List.argmin_mem hmin, ?_⟩
    have hnone : dag.deps nodeId = [] := by
      rw [List.eq_nil_iff_forall_not_mem]
      intro dep hdep
      have hlt := hrank nodeId dep hdep
      have hle := List.le_of_mem_argmin (h.acyclic.depsExist nodeId dep hdep) hmin
      omega
    rw [inDegree, hnone]
    rfl

/-- A node of the greatest rank has no dependents. -/
theorem exists_leaf (h : dag.Rebuildable) : ∃ nodeId ∈ dag.ids, dag.children nodeId = [] := by
  obtain ⟨rank, hrank⟩ := h.acyclic.ranked
  cases hmax : dag.ids.argmax rank with
  | none => exact absurd (List.argmax_eq_none.1 hmax) h.nonempty
  | some nodeId =>
    refine ⟨nodeId, List.argmax_mem hmax, ?_⟩
    rw [List.eq_nil_iff_forall_not_mem]
    intro child hchild
    have hdep := (h.acyclic.childrenIff nodeId child).1 hchild
    have hlt := hrank child nodeId hdep
    have hle := List.le_of_mem_argmax (mem_ids_of_mem_deps hdep) hmax
    omega

/-- Every node leaves the queue. -/
theorem length_kahn (h : dag.Rebuildable) : dag.kahn.order.length = dag.nodes.length := by
  have hself := ofNodes_self h.edges
  have hdeps : ∀ node ∈ dag.nodes, ∀ dep ∈ node.dependsOn,
      dep ∈ (ofNodes dag.nodes).ids := by
    intro node hnode dep hdep
    rw [hself]
    rw [← deps_of_node? (node?_of_mem hnode)] at hdep
    exact h.acyclic.depsExist node.nodeId dep hdep
  have hcounts := counts_inDegree dag.nodup hdeps
  rw [hself] at hcounts
  have hclosed : ∀ parent ∈ dag.ids, ∀ child ∈ dag.children parent, child ∈ dag.ids := by
    intro parent _ child hchild
    exact mem_ids_of_mem_deps ((h.acyclic.childrenIff parent child).1 hchild)
  have hperm : (Kahn.run dag.ids dag.inDegree dag.children).Perm dag.ids := by
    apply (Kahn.run_perm_iff dag.nodup hclosed hcounts).2
    obtain ⟨rank, hrank⟩ := h.acyclic.ranked
    refine ⟨rank, ?_⟩
    intro parent _ child hchild
    exact hrank child parent ((h.acyclic.childrenIff parent child).1 hchild)
  have hlength := hperm.length_eq
  unfold ids at hlength
  rw [List.length_map] at hlength
  exact hlength

theorem validate_eq_ok (h : dag.Rebuildable) : dag.validate = .ok () := by
  obtain ⟨root, hroot, hzero⟩ := h.exists_root
  obtain ⟨leaf, hleaf, hnone⟩ := h.exists_leaf
  have hroots : dag.ids.all (fun nodeId => dag.inDegree nodeId ≠ 0) = false := by
    rw [List.all_eq_false]
    exact ⟨root, hroot, by simp [hzero]⟩
  have hleaves : dag.ids.all (fun nodeId => !(dag.children nodeId).isEmpty) = false := by
    rw [List.all_eq_false]
    exact ⟨leaf, hleaf, by simp [hnone]⟩
  unfold validate
  rw [h.missingDependency?_eq_none]
  dsimp only
  rw [hroots, hleaves, h.length_kahn]
  simp

/-- The constructor gives the DAG back. -/
theorem new_of_rebuildable (h : dag.Rebuildable) : DAG.new dag.nodes = .ok dag := by
  rw [DAG.new, ofNodes_self h.edges, h.validate_eq_ok]
  rfl

end Rebuildable

/-! ## The changes -/

/-- The changes of status and of other attributes, and a new node whose
dependencies exist. -/
inductive Change : DAG → DAG → Prop
  | running (dag : DAG) (nodeId : String) : Change dag (dag.markRunning nodeId)
  | pending (dag : DAG) (nodeId : String) : Change dag (dag.markPending nodeId)
  | completed (dag : DAG) (nodeId : String) (output : Option String) :
    Change dag (dag.markCompleted nodeId output)
  | failed (dag : DAG) (nodeId : String) (error : Option String) :
    Change dag (dag.markFailed nodeId error)
  | blocked (dag : DAG) (nodeId : String) (reason : Option String) :
    Change dag (dag.markBlocked nodeId reason)
  | assigned (dag : DAG) (nodeId : String) {f : DAGNode → DAGNode}
    (hf : ∀ node, (f node).nodeId = node.nodeId ∧ (f node).dependsOn = node.dependsOn) :
    Change dag (dag.modify nodeId f)
  | added {dag dag' : DAG} {node : DAGNode} (hdeps : ∀ dep ∈ node.dependsOn, dep ∈ dag.ids)
    (hadd : dag.addNode node = some dag') : Change dag dag'

/-- A list with distinct ids that the constructor accepts. -/
def Accepted (dag : DAG) : Prop :=
  ∃ nodes, (nodes.map DAGNode.nodeId).Nodup ∧ DAG.new nodes = .ok dag

/-- The edges that the constructor makes depend on the ids and the dependencies. -/
theorem edgesOf_nodes (dag : DAG) : edgesOf dag.nodes =
    dag.ids.flatMap (fun nodeId => (dag.deps nodeId).map (fun dep => (dep, nodeId))) := by
  rw [edgesOf, ids, List.flatMap_map]
  apply List.flatMap_congr
  intro node hnode
  rw [deps_of_node? (node?_of_mem hnode)]

/-- A change of fields other than the dependencies. -/
theorem Rebuildable.of_shape {dag dag' : DAG} (h : dag.Rebuildable) (hids : dag'.ids = dag.ids)
    (hdeps : ∀ nodeId, dag'.deps nodeId = dag.deps nodeId) (hedges : dag'.edges = dag.edges) :
    dag'.Rebuildable where
  acyclic := by
    apply h.acyclic.of_shape hids hdeps
    intro parent
    unfold children
    rw [hedges]
  edges := by
    rw [hedges, h.edges, edgesOf_nodes, edgesOf_nodes, hids, funext hdeps]
  nonempty := by
    rw [hids]
    exact h.nonempty

theorem Rebuildable.change {dag dag' : DAG} (h : dag.Rebuildable) (hchange : Change dag dag') :
    dag'.Rebuildable := by
  cases hchange with
  | running nodeId =>
    exact h.of_shape (ids_markRunning dag nodeId) (deps_markRunning dag nodeId) rfl
  | pending nodeId =>
    exact h.of_shape (ids_markPending dag nodeId) (deps_markPending dag nodeId) rfl
  | completed nodeId output =>
    exact h.of_shape (ids_markCompleted dag nodeId output) (deps_markCompleted dag nodeId output)
      rfl
  | failed nodeId error =>
    exact h.of_shape (ids_markFailed dag nodeId error) (deps_markFailed dag nodeId error)
      (edges_markFailed dag nodeId error)
  | blocked nodeId reason =>
    exact h.of_shape (ids_modify dag nodeId)
      (deps_modify dag nodeId (fun _ => rfl) (fun _ => rfl)) rfl
  | assigned nodeId hf =>
    exact h.of_shape (ids_modify dag nodeId)
      (deps_modify dag nodeId (fun node => (hf node).1) (fun node => (hf node).2)) rfl
  | added hdeps hadd =>
    obtain ⟨-, hnodes, hedges⟩ := addNode_eq_some hadd
    refine ⟨h.acyclic.addNode hadd hdeps, ?_, ?_⟩
    · rw [hedges, hnodes, h.edges]
      simp [edgesOf]
    · rw [ids_addNode hadd]
      simp

theorem Accepted.rebuildable {dag : DAG} (h : dag.Accepted) : dag.Rebuildable := by
  obtain ⟨nodes, hnodup, hnew⟩ := h
  refine ⟨acyclic_of_new hnodup hnew, ?_, ids_ne_nil_of_new hnew⟩
  rw [(new_eq_ok hnew).1]
  show edgesOf nodes = edgesOf (nodeDict nodes)
  rw [nodeDict_of_nodup hnodup]

/-- The constructor gives back what the changes make of an accepted DAG. -/
theorem rebuildable_of_reachable {dag : DAG}
    (h : Transition.Reachable Accepted Change dag) : dag.Rebuildable :=
  h.invariant (fun _ haccepted => haccepted.rebuildable) (fun _ _ hold hchange => hold.change hchange)

end DAG

end MassClaw
