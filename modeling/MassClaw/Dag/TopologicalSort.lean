import MassClaw.Dag.Engaged

/-!
# `topological_sort`, `app/orchestration/dag.py`

The constructor validates with the in-degrees of the nodes it keeps, while
`topological_sort` takes the in-degrees from the reversed adjacency lists,
which also hold the edges of nodes that a later node of the same id has
replaced.  The two agree on lists with distinct ids.

`isTopologicalOrder_iff` says which accepted lists are sorted completely.
-/

namespace MassClaw

namespace DAG

/-- `topological_sort`.  The nodes on and behind a cycle are left out. -/
def topologicalSort (dag : DAG) : List DAGNode :=
  (Kahn.run dag.ids (fun nodeId => (dag.parents nodeId).length) dag.children).filterMap dag.node?

theorem mem_of_topologicalSort {dag : DAG} {node : DAGNode} (h : node ∈ dag.topologicalSort) :
    node ∈ dag.nodes := by
  obtain ⟨nodeId, -, hnode⟩ := List.mem_filterMap.1 h
  exact List.mem_of_find?_eq_some hnode

/-- The order that the docstring promises: every node once, after all of its
dependencies. -/
def IsTopologicalOrder (dag : DAG) (order : List DAGNode) : Prop :=
  order.Perm dag.nodes ∧
    Prefixwise (fun before node => ∀ dep ∈ node.dependsOn,
      ∃ earlier ∈ before, earlier.nodeId = dep) order

/-- The dependencies of all given nodes, also of those that are replaced, name
given nodes and have no cycle. -/
structure WellFoundedDeps (nodes : List DAGNode) : Prop where
  named : ∀ node ∈ nodes, ∀ dep ∈ node.dependsOn, dep ∈ nodes.map DAGNode.nodeId
  ranked : ∃ rank : String → Nat,
    ∀ node ∈ nodes, ∀ dep ∈ node.dependsOn, rank dep < rank node.nodeId

/-! ## The nodes and their ids -/

/-- The node list is the list of its ids, looked up. -/
theorem filterMap_node?_ids (dag : DAG) : dag.ids.filterMap dag.node? = dag.nodes := by
  have hlookup : ∀ nodes : List DAGNode, (∀ node ∈ nodes, node ∈ dag.nodes) →
      (nodes.map DAGNode.nodeId).filterMap dag.node? = nodes := by
    intro nodes hnodes
    induction nodes with
    | nil => rfl
    | cons node rest ih =>
      have hnode := node?_of_mem (hnodes node List.mem_cons_self)
      rw [List.map_cons, List.filterMap_cons_some hnode,
        ih (fun other hother => hnodes other (List.mem_cons_of_mem _ hother))]
  exact hlookup dag.nodes (fun _ hnode => hnode)

/-- The ids of looked up nodes are the ids they were looked up by. -/
theorem map_filterMap_node? {dag : DAG} {list : List String}
    (h : ∀ nodeId ∈ list, nodeId ∈ dag.ids) :
    (list.filterMap dag.node?).map DAGNode.nodeId = list := by
  induction list with
  | nil => rfl
  | cons nodeId rest ih =>
    obtain ⟨node, hnode⟩ := mem_ids_iff.1 (h nodeId List.mem_cons_self)
    rw [List.filterMap_cons_some hnode, List.map_cons, node?_nodeId hnode,
      ih (fun other hother => h other (List.mem_cons_of_mem _ hother))]

theorem ids_nodup (dag : DAG) : dag.ids.Nodup := dag.nodup

theorem children_closed (dag : DAG) :
    ∀ parent ∈ dag.ids, ∀ child ∈ dag.children parent, child ∈ dag.ids := by
  intro parent _ child hchild
  exact dag.targets (parent, child) (mem_children_iff.1 hchild)

theorem mem_ids_of_mem_run {dag : DAG} {inDegree : String → Int} {nodeId : String}
    (h : nodeId ∈ Kahn.run dag.ids inDegree dag.children) : nodeId ∈ dag.ids := by
  obtain ⟨s, hs, horder⟩ := Kahn.run_loose dag.ids_nodup dag.children_closed inDegree
  rw [← horder] at h
  exact (hs.due nodeId (by simpa using h)).1

/-! ## The in-degrees of the sort -/

theorem length_parents (dag : DAG) (child : String) :
    (dag.parents child).length = dag.edges.countP (fun edge => edge.2 = child) := by
  rw [parents, List.length_map, List.countP_eq_length_filter]

/-- The adjacency lists of the nodes hold the edges that begin in a node. -/
theorem sum_count_children (dag : DAG) (child : String) :
    (dag.ids.map (fun parent => (dag.children parent).count child)).sum =
      (dag.edges.filter (fun edge => edge.1 ∈ dag.ids)).countP (fun edge => edge.2 = child) := by
  have hcount : dag.ids.map (fun parent => (dag.children parent).count child) =
      dag.ids.map (fun parent =>
        (dag.edges.filter (fun edge => edge.1 ∈ dag.ids)).count (parent, child)) := by
    apply List.map_congr_left
    intro parent hparent
    rw [count_children, List.count_filter (by simpa using hparent)]
  rw [hcount]
  apply sum_count_edges dag.ids_nodup
  intro edge hedge
  exact of_decide_eq_true (List.mem_filter.1 hedge).2

/-- When every edge begins in a node, the in-degrees agree with the adjacency
lists. -/
theorem counts_parents {dag : DAG} (hsources : ∀ edge ∈ dag.edges, edge.1 ∈ dag.ids) :
    Kahn.Counts dag.ids (fun nodeId => (dag.parents nodeId).length) dag.children := by
  intro child _
  show ((dag.parents child).length : Int) = _
  rw [length_parents, sum_count_children,
    List.filter_eq_self.2 (fun edge hedge => decide_eq_true (hsources edge hedge))]

/-- When every node is returned, every edge begins in a node: nothing else would
pay for it. -/
theorem sources_of_run_perm {dag : DAG}
    (hperm : (Kahn.run dag.ids (fun nodeId => (dag.parents nodeId).length)
      dag.children).Perm dag.ids) :
    ∀ edge ∈ dag.edges, edge.1 ∈ dag.ids := by
  intro edge hedge
  by_contra hnot
  have hpaid := Kahn.inDegree_le_of_mem_run dag.ids_nodup dag.children_closed
    (hperm.mem_iff.2 (dag.targets edge hedge))
  rw [length_parents, sum_count_children] at hpaid
  have hsplit := List.countP_eq_countP_filter_add dag.edges
    (fun other => decide (other.2 = edge.2)) (fun other => decide (other.1 ∈ dag.ids))
  have hlost : 0 < (dag.edges.filter (fun other => !decide (other.1 ∈ dag.ids))).countP
      (fun other => decide (other.2 = edge.2)) := by
    apply List.countP_pos_iff.2
    exact ⟨edge, List.mem_filter.2 ⟨hedge, by simpa using hnot⟩, by simp⟩
  omega

/-- Every node is returned exactly if the edges begin in nodes and have no
cycle. -/
theorem run_parents_perm_iff (dag : DAG) :
    (Kahn.run dag.ids (fun nodeId => (dag.parents nodeId).length) dag.children).Perm dag.ids ↔
      (∀ edge ∈ dag.edges, edge.1 ∈ dag.ids) ∧
        ∃ rank : String → Nat, ∀ edge ∈ dag.edges, rank edge.1 < rank edge.2 := by
  constructor
  · intro hperm
    have hsources := sources_of_run_perm hperm
    obtain ⟨rank, hrank⟩ :=
      (Kahn.run_perm_iff dag.ids_nodup dag.children_closed (counts_parents hsources)).1 hperm
    refine ⟨hsources, rank, ?_⟩
    intro edge hedge
    exact hrank edge.1 (hsources edge hedge) edge.2 (mem_children_iff.2 hedge)
  · rintro ⟨hsources, rank, hrank⟩
    apply (Kahn.run_perm_iff dag.ids_nodup dag.children_closed (counts_parents hsources)).2
    refine ⟨rank, ?_⟩
    intro parent _ child hchild
    exact hrank (parent, child) (mem_children_iff.1 hchild)

/-! ## The returned order -/

theorem topologicalSort_perm_iff (dag : DAG) :
    dag.topologicalSort.Perm dag.nodes ↔
      (Kahn.run dag.ids (fun nodeId => (dag.parents nodeId).length) dag.children).Perm
        dag.ids := by
  constructor
  · intro hperm
    have hmapped := hperm.map DAGNode.nodeId
    rw [topologicalSort, map_filterMap_node? (fun _ hmem => mem_ids_of_mem_run hmem)] at hmapped
    exact hmapped
  · intro hperm
    have hfound := hperm.filterMap dag.node?
    rw [filterMap_node?_ids] at hfound
    exact hfound

/-- The edges of the given nodes. -/
theorem wellFoundedDeps_iff {nodes : List DAGNode} :
    WellFoundedDeps nodes ↔ (∀ edge ∈ edgesOf nodes, edge.1 ∈ (ofNodes nodes).ids) ∧
      ∃ rank : String → Nat, ∀ edge ∈ edgesOf nodes, rank edge.1 < rank edge.2 := by
  have hids : ∀ nodeId, nodeId ∈ (ofNodes nodes).ids ↔ nodeId ∈ nodes.map DAGNode.nodeId :=
    mem_nodeDict_ids nodes
  constructor
  · rintro ⟨hnamed, rank, hrank⟩
    refine ⟨?_, rank, ?_⟩
    · rintro ⟨dep, nodeId⟩ hedge
      obtain ⟨node, hnode, -, hdep⟩ := mem_edgesOf.1 hedge
      exact (hids dep).2 (hnamed node hnode dep hdep)
    · rintro ⟨dep, nodeId⟩ hedge
      obtain ⟨node, hnode, rfl, hdep⟩ := mem_edgesOf.1 hedge
      exact hrank node hnode dep hdep
  · rintro ⟨hsources, rank, hrank⟩
    refine ⟨?_, rank, ?_⟩
    · intro node hnode dep hdep
      exact (hids dep).1 (hsources _ (mem_edgesOf.2 ⟨node, hnode, rfl, hdep⟩))
    · intro node hnode dep hdep
      exact hrank _ (mem_edgesOf.2 ⟨node, hnode, rfl, hdep⟩)

/-- In a complete order every node stands after its dependencies. -/
theorem after_deps {nodes : List DAGNode} {dag : DAG} (hnew : DAG.new nodes = .ok dag)
    (hsources : ∀ edge ∈ dag.edges, edge.1 ∈ dag.ids) :
    Prefixwise (fun before node => ∀ dep ∈ node.dependsOn,
      ∃ earlier ∈ before, earlier.nodeId = dep) dag.topologicalSort := by
  obtain ⟨-, -, hsorted⟩ := Kahn.run_sorted dag.ids_nodup dag.children_closed
    (counts_parents hsources)
  have himages := Prefixwise.filterMap (f := dag.node?) hsorted
  refine himages.mono ?_
  intro images node _ hbefore dep hdep
  obtain ⟨before, nodeId, hnode, hpreds, rfl⟩ := hbefore
  rw [← deps_of_node? hnode] at hdep
  have hexists := depsExist_of_new hnew nodeId dep hdep
  have hchild : nodeId ∈ dag.children dep := by
    obtain ⟨rfl, -⟩ := new_eq_ok hnew
    exact children_ofNodes hdep
  obtain ⟨earlier, hearlier⟩ := mem_ids_iff.1 hexists
  refine ⟨earlier, ?_, node?_nodeId hearlier⟩
  exact List.mem_filterMap.2 ⟨dep, hpreds dep hexists hchild, hearlier⟩

theorem edges_of_new {nodes : List DAGNode} {dag : DAG} (hnew : DAG.new nodes = .ok dag) :
    dag.edges = edgesOf nodes := by
  rw [(new_eq_ok hnew).1]
  rfl

theorem topologicalSort_perm_iff_wellFounded {nodes : List DAGNode} {dag : DAG}
    (hnew : DAG.new nodes = .ok dag) :
    dag.topologicalSort.Perm dag.nodes ↔ WellFoundedDeps nodes := by
  rw [topologicalSort_perm_iff, run_parents_perm_iff, wellFoundedDeps_iff, edges_of_new hnew,
    ← (new_eq_ok hnew).1]

theorem isTopologicalOrder_of_wellFounded {nodes : List DAGNode} {dag : DAG}
    (hnew : DAG.new nodes = .ok dag) (hdeps : WellFoundedDeps nodes) :
    dag.IsTopologicalOrder dag.topologicalSort := by
  refine ⟨(topologicalSort_perm_iff_wellFounded hnew).2 hdeps, after_deps hnew ?_⟩
  rw [edges_of_new hnew, (new_eq_ok hnew).1]
  exact (wellFoundedDeps_iff.1 hdeps).1

/-- Of the accepted lists exactly those are sorted whose dependencies, also those
of replaced nodes, name given nodes and have no cycle. -/
theorem isTopologicalOrder_iff {nodes : List DAGNode} {dag : DAG}
    (hnew : DAG.new nodes = .ok dag) :
    dag.IsTopologicalOrder dag.topologicalSort ↔ WellFoundedDeps nodes := by
  constructor
  · intro h
    exact (topologicalSort_perm_iff_wellFounded hnew).1 h.1
  · exact isTopologicalOrder_of_wellFounded hnew

namespace SortExample

/-- A task as the decomposer names it. -/
def task (nodeId : String) (dependsOn : List String) : DAGNode where
  nodeId
  capability := "research"
  description := nodeId
  dependsOn

/-- A pair of tasks. -/
def distinct : List DAGNode := [task "summary" ["sources"], task "sources" []]

/-- The second summary replaces the first, whose dependency does not exist. -/
def replaced : List DAGNode :=
  [task "sources" [], task "summary" ["outline"], task "summary" ["sources"]]

end SortExample

open SortExample in
theorem isTopologicalOrder_iff_distinct :
    (ofNodes distinct).IsTopologicalOrder (ofNodes distinct).topologicalSort ↔
      WellFoundedDeps distinct :=
  isTopologicalOrder_iff (by decide +kernel)

open SortExample in
/-- The summary is missing from the order: the edge of the replaced node keeps
its in-degree at one. -/
theorem isTopologicalOrder_fails :
    DAG.new replaced = .ok (ofNodes replaced) ∧
      ¬(ofNodes replaced).IsTopologicalOrder (ofNodes replaced).topologicalSort := by
  refine ⟨by decide +kernel, ?_⟩
  intro horder
  have hlength := horder.1.length_eq
  have hshort : (ofNodes replaced).topologicalSort.length = 1 := by decide +kernel
  have hnodes : (ofNodes replaced).nodes.length = 2 := by decide +kernel
  omega

/-- With distinct ids every accepted list is sorted. -/
theorem wellFoundedDeps_of_nodup {nodes : List DAGNode} {dag : DAG}
    (hnodup : (nodes.map DAGNode.nodeId).Nodup) (hnew : DAG.new nodes = .ok dag) :
    WellFoundedDeps nodes := by
  have hacyclic := acyclic_of_new hnodup hnew
  obtain ⟨rfl, -⟩ := new_eq_ok hnew
  have hnode : ∀ node ∈ nodes, (ofNodes nodes).deps node.nodeId = node.dependsOn := by
    intro node hnode
    apply deps_of_node?
    apply node?_of_mem
    show node ∈ nodeDict nodes
    rw [nodeDict_of_nodup hnodup]
    exact hnode
  obtain ⟨rank, hrank⟩ := hacyclic.ranked
  refine ⟨?_, rank, ?_⟩
  · intro node hmem dep hdep
    rw [← hnode node hmem] at hdep
    exact (mem_nodeDict_ids nodes dep).1 (hacyclic.depsExist node.nodeId dep hdep)
  · intro node hmem dep hdep
    rw [← hnode node hmem] at hdep
    exact hrank node.nodeId dep hdep

end DAG

end MassClaw
