import MassClaw.Dag.TopologicalSort
import MassClaw.Lib.LongestPath

/-!
# `get_critical_path`, `app/orchestration/dag.py`

The longest path is computed along the order of `topological_sort` and read off
backwards.  With distinct ids that order is complete, so every lookup finds its
key and the loop over the predecessors ends.
-/

namespace MassClaw

namespace DAG

/-- `get_critical_path`; `none` is the `KeyError` for a child that the order
lacks, or the `ValueError` of `max` for an empty order. -/
def getCriticalPath (dag : DAG) : Option (List DAGNode) := do
  let topo := dag.topologicalSort.map DAGNode.nodeId
  let path ← LongestPath.run topo dag.children
  path.mapM dag.node?

/-- Nodes of the DAG of which each depends on the one in front of it. -/
def IsDependencyPath (dag : DAG) (path : List DAGNode) : Prop :=
  (∀ node ∈ path, node ∈ dag.nodes) ∧
    path.IsChain (fun earlier later => earlier.nodeId ∈ later.dependsOn)

/-- The ids of the order. -/
theorem map_topologicalSort (dag : DAG) :
    dag.topologicalSort.map DAGNode.nodeId =
      Kahn.run dag.ids (fun nodeId => (dag.parents nodeId).length) dag.children :=
  map_filterMap_node? (fun _ hmem => mem_ids_of_mem_run hmem)

/-- The children of an accepted list with distinct ids are its dependents. -/
theorem mem_children_iff_deps {nodes : List DAGNode} {dag : DAG}
    (hnodup : (nodes.map DAGNode.nodeId).Nodup) (hnew : DAG.new nodes = .ok dag)
    {node other : DAGNode} (hother : other ∈ dag.nodes) :
    other.nodeId ∈ dag.children node.nodeId ↔ node.nodeId ∈ other.dependsOn := by
  rw [(acyclic_of_new hnodup hnew).childrenIff, deps_of_node? (node?_of_mem hother)]

/-- A path of ids is a path of the nodes. -/
theorem isDependencyPath_iff {nodes : List DAGNode} {dag : DAG}
    (hnodup : (nodes.map DAGNode.nodeId).Nodup) (hnew : DAG.new nodes = .ok dag)
    {order : List String} (horder : order.Perm dag.ids) {path : List DAGNode}
    (hpath : ∀ node ∈ path, node ∈ dag.nodes) :
    dag.IsDependencyPath path ↔
      LongestPath.IsPath order dag.children (path.map DAGNode.nodeId) := by
  have hmem : ∀ nodeId ∈ path.map DAGNode.nodeId, nodeId ∈ order := by
    intro nodeId hid
    obtain ⟨node, hnode, rfl⟩ := List.mem_map.1 hid
    rw [horder.mem_iff]
    exact List.mem_map_of_mem (hpath node hnode)
  have hchain : path.IsChain (fun earlier later => earlier.nodeId ∈ later.dependsOn) ↔
      (path.map DAGNode.nodeId).IsChain (fun u v => v ∈ dag.children u) := by
    rw [List.isChain_map]
    clear hmem
    induction path with
    | nil => simp
    | cons node rest ih =>
      rw [List.isChain_cons, List.isChain_cons,
        ih (fun other hother => hpath other (List.mem_cons_of_mem _ hother))]
      apply and_congr_left
      intro _
      apply forall₂_congr
      intro other hhead
      have hother : other ∈ dag.nodes :=
        hpath other (List.mem_cons_of_mem _ (List.mem_of_mem_head? hhead))
      rw [mem_children_iff_deps hnodup hnew hother]
  constructor
  · intro h
    exact ⟨hmem, hchain.1 h.2⟩
  · intro h
    exact ⟨hpath, hchain.2 h.2⟩

/-- Ids of the DAG are found. -/
theorem mapM_node? {dag : DAG} {list : List String} (h : ∀ nodeId ∈ list, nodeId ∈ dag.ids) :
    ∃ nodes, list.mapM dag.node? = some nodes ∧ nodes.map DAGNode.nodeId = list ∧
      ∀ node ∈ nodes, node ∈ dag.nodes := by
  induction list with
  | nil => exact ⟨[], rfl, rfl, by simp⟩
  | cons nodeId rest ih =>
    obtain ⟨node, hnode⟩ := mem_ids_iff.1 (h nodeId List.mem_cons_self)
    obtain ⟨nodes, hnodes, hids, hmem⟩ :=
      ih (fun other hother => h other (List.mem_cons_of_mem _ hother))
    refine ⟨node :: nodes, ?_, ?_, ?_⟩
    · simp [List.mapM_cons, hnode, hnodes]
    · rw [List.map_cons, hids, node?_nodeId hnode]
    · intro other hother
      rcases List.mem_cons.1 hother with rfl | hother
      · exact (node?_eq_some_iff.1 hnode).1
      · exact hmem other hother

/-- On an accepted list with distinct ids, `get_critical_path` returns a path of
dependencies that begins in a root, and no such path is longer. -/
theorem getCriticalPath_longest {nodes : List DAGNode} {dag : DAG}
    (hnodup : (nodes.map DAGNode.nodeId).Nodup) (hnew : DAG.new nodes = .ok dag) :
    ∃ root path, dag.getCriticalPath = some (root :: path) ∧
      dag.IsDependencyPath (root :: path) ∧ root.dependsOn = [] ∧
      ∀ other, dag.IsDependencyPath other → other.length ≤ (root :: path).length := by
  have hdeps := wellFoundedDeps_of_nodup hnodup hnew
  have hacyclic := acyclic_of_new hnodup hnew
  have hdag := (new_eq_ok hnew).1
  have hsources : ∀ edge ∈ dag.edges, edge.1 ∈ dag.ids := by
    rw [hdag]
    exact (wellFoundedDeps_iff.1 hdeps).1
  have hperm : (dag.topologicalSort.map DAGNode.nodeId).Perm dag.ids :=
    ((isTopologicalOrder_of_wellFounded hnew hdeps).1).map DAGNode.nodeId
  have hmem : ∀ {nodeId}, nodeId ∈ dag.topologicalSort.map DAGNode.nodeId ↔ nodeId ∈ dag.ids :=
    hperm.mem_iff
  have hsorted : Kahn.Sorted (dag.topologicalSort.map DAGNode.nodeId) dag.children
      (dag.topologicalSort.map DAGNode.nodeId) := by
    obtain ⟨-, -, hrun⟩ := Kahn.run_sorted dag.ids_nodup dag.children_closed
      (counts_parents hsources)
    rw [← map_topologicalSort] at hrun
    exact hrun.mono (fun before v _ hpreds u hu hchild => hpreds u (hmem.1 hu) hchild)
  have hne : dag.topologicalSort.map DAGNode.nodeId ≠ [] := by
    intro hnil
    rw [hnil] at hperm
    exact ids_ne_nil_of_new hnew hperm.nil_eq.symm
  obtain ⟨first, rest, hrun, hpath, hroot, hlongest⟩ := LongestPath.run_longest hne
    (hperm.nodup_iff.2 dag.ids_nodup)
    (fun u hu w hw => hmem.2 (dag.children_closed u (hmem.1 hu) w hw)) hsorted
  obtain ⟨found, hfound, hids, hnodes⟩ := mapM_node? (fun nodeId hid => hmem.1 (hpath.1 nodeId hid))
  cases found with
  | nil => cases hids
  | cons root path =>
    refine ⟨root, path, ?_, ?_, ?_, ?_⟩
    · simp only [getCriticalPath, hrun, hfound, bind, Option.bind]
    · rw [isDependencyPath_iff hnodup hnew hperm hnodes, hids]
      exact hpath
    · have hrootNode := node?_of_mem (hnodes root List.mem_cons_self)
      rw [List.eq_nil_iff_forall_not_mem]
      intro dep hdep
      rw [← deps_of_node? hrootNode] at hdep
      have hchild := (hacyclic.childrenIff dep root.nodeId).2 hdep
      have hfirst : root.nodeId = first := (List.cons.inj hids).1
      rw [hfirst] at hchild hdep
      exact hroot dep (hmem.2 (hacyclic.depsExist first dep hdep)) hchild
    · intro other hother
      have hshort := hlongest _ ((isDependencyPath_iff hnodup hnew hperm hother.1).1 hother)
      rw [← hids] at hshort
      simpa using hshort

open SortExample in
theorem getCriticalPath_longest_distinct :
    ∃ root path, (ofNodes distinct).getCriticalPath = some (root :: path) ∧
      (ofNodes distinct).IsDependencyPath (root :: path) ∧ root.dependsOn = [] ∧
      ∀ other, (ofNodes distinct).IsDependencyPath other →
        other.length ≤ (root :: path).length := by
  have hnodup : (distinct.map DAGNode.nodeId).Nodup := by decide +kernel
  have hnew : DAG.new distinct = .ok (ofNodes distinct) := by decide +kernel
  exact getCriticalPath_longest hnodup hnew

end DAG

end MassClaw
