import Mathlib.Algebra.BigOperators.Group.List.Basic
import MassClaw.Dag.Cascade

/-!
# Accepted DAGs are acyclic

`Acyclic` says what the constructor's validation establishes: dependencies
name nodes, the adjacency lists are exactly the dependency lists turned
around, and some rank grows from a dependency to its dependent.  The rank is
the position in the run of Kahn's algorithm.

With repeated node ids the adjacency lists keep the edges of the replaced
nodes while the in-degrees forget them, and the check no longer means much, so
`acyclic_of_new` asks for distinct ids.

The operations of the scheduler keep `Acyclic`.  The point of the rank is
`exists_ready`: an acyclic DAG in which no waiting node depends on a failed or
skipped one either is complete, or has a node that is not waiting and not
terminal, or has a ready node.
-/

namespace MassClaw

namespace DAG

/-- The references of the DAG are consistent and have no cycle. -/
structure Acyclic (dag : DAG) : Prop where
  depsExist : ∀ nodeId, ∀ dep ∈ dag.deps nodeId, dep ∈ dag.ids
  childrenIff : ∀ parent child, child ∈ dag.children parent ↔ parent ∈ dag.deps child
  ranked : ∃ rank : String → Nat, ∀ nodeId, ∀ dep ∈ dag.deps nodeId, rank dep < rank nodeId

/-- Nothing but ids, dependencies and adjacency lists matters. -/
theorem Acyclic.of_shape {dag dag' : DAG} (h : dag.Acyclic) (hids : dag'.ids = dag.ids)
    (hdeps : ∀ nodeId, dag'.deps nodeId = dag.deps nodeId)
    (hchildren : ∀ parent, dag'.children parent = dag.children parent) : dag'.Acyclic where
  depsExist := by
    intro nodeId dep hdep
    rw [hdeps] at hdep
    rw [hids]
    exact h.depsExist nodeId dep hdep
  childrenIff := by
    intro parent child
    rw [hchildren, hdeps]
    exact h.childrenIff parent child
  ranked := by
    obtain ⟨rank, hrank⟩ := h.ranked
    refine ⟨rank, fun nodeId dep hdep => hrank nodeId dep ?_⟩
    rwa [hdeps] at hdep

/-- A node whose dependencies exist can be added. -/
theorem Acyclic.addNode {dag dag' : DAG} {node : DAGNode} (h : dag.Acyclic)
    (hadd : dag.addNode node = some dag') (hdeps : ∀ dep ∈ node.dependsOn, dep ∈ dag.ids) :
    dag'.Acyclic where
  depsExist := by
    intro nodeId dep hdep
    rw [deps_addNode hadd] at hdep
    rw [ids_addNode hadd, List.mem_append]
    split at hdep
    · exact Or.inl (hdeps dep hdep)
    · exact Or.inl (h.depsExist nodeId dep hdep)
  childrenIff := by
    intro parent child
    have hfresh := (addNode_eq_some hadd).1
    rw [mem_children_addNode hadd, deps_addNode hadd, h.childrenIff]
    split
    · rename_i heq
      subst heq
      constructor
      · rintro (hold | ⟨-, hnew⟩)
        · exact absurd (mem_ids_of_mem_deps hold) hfresh
        · exact hnew
      · exact fun hnew => Or.inr ⟨rfl, hnew⟩
    · rename_i hne
      constructor
      · rintro (hold | ⟨heq, -⟩)
        · exact hold
        · exact absurd heq hne
      · exact Or.inl
  ranked := by
    obtain ⟨rank, hrank⟩ := h.ranked
    have hfresh := (addNode_eq_some hadd).1
    -- the new node goes above everything it depends on
    refine ⟨fun nodeId => if nodeId = node.nodeId then (node.dependsOn.map rank).sum + 1
      else rank nodeId, ?_⟩
    intro nodeId dep hdep
    rw [deps_addNode hadd] at hdep
    have hdepOld : dep ∈ dag.ids := by
      split at hdep
      · exact hdeps dep hdep
      · exact h.depsExist nodeId dep hdep
    have hne : dep ≠ node.nodeId := fun heq => hfresh (heq ▸ hdepOld)
    simp only [if_neg hne]
    split at hdep
    · rename_i heq
      rw [if_pos heq]
      have := List.single_le_sum (l := node.dependsOn.map rank) (fun _ _ => Nat.zero_le _)
        (rank dep) (List.mem_map_of_mem hdep)
      omega
    · rename_i hneId
      rw [if_neg hneId]
      exact hrank nodeId dep hdep

/-! ## What the constructor accepts -/

theorem count_children (dag : DAG) (parent child : String) :
    (dag.children parent).count child = dag.edges.count (parent, child) := by
  unfold children
  induction dag.edges with
  | nil => rfl
  | cons edge rest ih =>
    obtain ⟨p, c⟩ := edge
    by_cases hp : p = parent
    · subst hp
      simp only [List.filter_cons, decide_true, if_true, List.map_cons, List.count_cons, ih]
      by_cases hc : c = child <;> simp [hc]
    · have hne : ((p, c) == (parent, child)) = false := by simp [hp]
      simp [hp, ih]

private theorem sum_indicator (ids : List String) (p : String) :
    (ids.map (fun parent => if p = parent then 1 else 0)).sum = ids.count p := by
  induction ids with
  | nil => rfl
  | cons head rest ih =>
    rw [List.map_cons, List.sum_cons, ih, List.count_cons, Nat.add_comm]
    by_cases h : p = head
    · simp [h]
    · simp [h, Ne.symm h]

theorem sum_count_edges {ids : List String} (hids : ids.Nodup) (child : String)
    (edges : List (String × String)) (hparents : ∀ edge ∈ edges, edge.1 ∈ ids) :
    (ids.map (fun parent => edges.count (parent, child))).sum =
      edges.countP (fun edge => edge.2 = child) := by
  induction edges with
  | nil => simp
  | cons edge rest ih =>
    obtain ⟨p, c⟩ := edge
    have hp : p ∈ ids := hparents (p, c) List.mem_cons_self
    have ih := ih (fun edge hedge => hparents edge (List.mem_cons_of_mem _ hedge))
    have hsplit : ids.map (fun parent => ((p, c) :: rest).count (parent, child)) =
        ids.map (fun parent => rest.count (parent, child) +
          if p = parent ∧ c = child then 1 else 0) := by
      refine List.map_congr_left (fun parent _ => ?_)
      rw [List.count_cons]
      simp
    have hone : (ids.map (fun parent => if p = parent ∧ c = child then 1 else 0)).sum =
        if c = child then 1 else 0 := by
      by_cases hc : c = child
      · simp only [hc, and_true, if_true]
        rw [sum_indicator, List.count_eq_one_of_mem hids hp]
      · simp [hc]
    rw [hsplit, List.sum_map_add, ih, hone, List.countP_cons]
    simp

private theorem countP_edgesOf (nodes : List DAGNode) (child : String)
    (hnodup : (nodes.map DAGNode.nodeId).Nodup) :
    (edgesOf nodes).countP (fun edge => edge.2 = child) =
      (((nodes.find? (fun node => node.nodeId = child)).map DAGNode.dependsOn).getD []).length := by
  have hblock : ∀ node : DAGNode,
      (node.dependsOn.map (fun dep => (dep, node.nodeId))).countP (fun edge => edge.2 = child) =
        if node.nodeId = child then node.dependsOn.length else 0 := by
    intro node
    rw [List.countP_map]
    by_cases h : node.nodeId = child
    · simp [h, Function.comp_def]
    · simp [h, Function.comp_def]
  induction nodes with
  | nil => rfl
  | cons node rest ih =>
    rw [List.map_cons, List.nodup_cons] at hnodup
    rw [edgesOf, List.flatMap_cons, List.countP_append, hblock, ← edgesOf, ih hnodup.2]
    by_cases h : node.nodeId = child
    · have hrest : rest.find? (fun node => decide (node.nodeId = child)) = none := by
        rw [List.find?_eq_none]
        intro other hother hid
        have : other.nodeId = child := by simpa using hid
        exact hnodup.1 (h ▸ this ▸ List.mem_map_of_mem hother)
      simp [h, hrest]
    · simp [h]

/-- What `validate` returning normally says. -/
theorem validate_eq_ok {dag : DAG} (h : dag.validate = .ok ()) :
    dag.missingDependency? = none ∧ dag.kahn.order.length = dag.nodes.length := by
  unfold validate at h
  split at h
  · cases h
  · rename_i hnone
    split_ifs at h with h1 h2 h3
    exact ⟨hnone, not_not.1 h2⟩

theorem new_eq_ok {nodes : List DAGNode} {dag : DAG} (h : DAG.new nodes = .ok dag) :
    dag = ofNodes nodes ∧ (ofNodes nodes).validate = .ok () := by
  unfold DAG.new at h
  cases hvalidate : (ofNodes nodes).validate with
  | error e => rw [hvalidate] at h; cases h
  | ok u =>
    rw [hvalidate] at h
    exact ⟨(Except.ok.inj h).symm, rfl⟩

/-- An accepted list is not empty. -/
theorem ids_ne_nil_of_new {nodes : List DAGNode} {dag : DAG} (hnew : DAG.new nodes = .ok dag) :
    dag.ids ≠ [] := by
  obtain ⟨rfl, hvalid⟩ := new_eq_ok hnew
  intro hnil
  unfold validate at hvalid
  rw [hnil] at hvalid
  split at hvalid
  · cases hvalid
  · simp at hvalid

theorem mem_edgesOf {nodes : List DAGNode} {parent child : String} :
    (parent, child) ∈ edgesOf nodes ↔
      ∃ node ∈ nodes, node.nodeId = child ∧ parent ∈ node.dependsOn := by
  simp only [edgesOf, List.mem_flatMap, List.mem_map, Prod.mk.injEq]
  constructor
  · rintro ⟨node, hnode, dep, hdep, rfl, rfl⟩
    exact ⟨node, hnode, rfl, hdep⟩
  · rintro ⟨node, hnode, rfl, hdep⟩
    exact ⟨node, hnode, parent, hdep, rfl, rfl⟩

theorem mem_children_iff {dag : DAG} {parent child : String} :
    child ∈ dag.children parent ↔ (parent, child) ∈ dag.edges := by
  simp [children]

/-- With distinct ids and existing dependencies the in-degrees of `validate` agree
with the adjacency lists. -/
theorem counts_inDegree {nodes : List DAGNode} (hnodup : (nodes.map DAGNode.nodeId).Nodup)
    (hdeps : ∀ node ∈ nodes, ∀ dep ∈ node.dependsOn, dep ∈ (ofNodes nodes).ids) :
    Kahn.Counts (ofNodes nodes).ids (ofNodes nodes).inDegree (ofNodes nodes).children := by
  intro child _
  have hparents : ∀ edge ∈ edgesOf nodes, edge.1 ∈ (ofNodes nodes).ids := by
    rintro ⟨parent, child'⟩ hmem
    obtain ⟨node, hnode, -, hdep⟩ := mem_edgesOf.1 hmem
    exact hdeps node hnode parent hdep
  simp only [count_children]
  have hsum := sum_count_edges (ofNodes nodes).nodup child (edgesOf nodes) hparents
  rw [countP_edgesOf nodes child hnodup] at hsum
  have hnodes : (ofNodes nodes).nodes = nodes := nodeDict_of_nodup hnodup
  unfold inDegree deps node?
  rw [hnodes]
  exact congrArg Nat.cast hsum.symm

/-- A DAG that the constructor accepts for nodes with distinct ids is
acyclic. -/
theorem acyclic_of_new {nodes : List DAGNode} {dag : DAG}
    (hnodup : (nodes.map DAGNode.nodeId).Nodup) (h : DAG.new nodes = .ok dag) :
    dag.Acyclic := by
  obtain ⟨rfl, hvalid⟩ := new_eq_ok h
  obtain ⟨hmissing, hall⟩ := validate_eq_ok hvalid
  have hnodes : (ofNodes nodes).nodes = nodes := nodeDict_of_nodup hnodup
  have hdepsExist : ∀ node ∈ nodes, ∀ dep ∈ node.dependsOn, dep ∈ (ofNodes nodes).ids := by
    intro node hnode dep hdep
    unfold missingDependency? at hmissing
    rw [List.findSome?_eq_none_iff] at hmissing
    have := hmissing node (hnodes.symm ▸ hnode)
    rw [Option.map_eq_none_iff, List.find?_eq_none] at this
    simpa using this dep hdep
  have hchildren : ∀ parent child, child ∈ (ofNodes nodes).children parent ↔
      parent ∈ (ofNodes nodes).deps child := by
    intro parent child
    show child ∈ (ofNodes nodes).children parent ↔ _
    rw [mem_children_iff]
    show (parent, child) ∈ edgesOf nodes ↔ _
    rw [mem_edgesOf]
    constructor
    · rintro ⟨node, hnode, rfl, hdep⟩
      rwa [deps_of_node? (node?_of_mem (hnodes.symm ▸ hnode))]
    · intro hdep
      obtain ⟨node, hnode⟩ := mem_ids_iff.1 (mem_ids_of_mem_deps hdep)
      rw [deps_of_node? hnode] at hdep
      exact ⟨node, hnodes ▸ (node?_eq_some_iff.1 hnode).1, node?_nodeId hnode, hdep⟩
  have hdeps : ∀ nodeId, ∀ dep ∈ (ofNodes nodes).deps nodeId, dep ∈ (ofNodes nodes).ids := by
    intro nodeId dep hdep
    obtain ⟨node, hnode⟩ := mem_ids_iff.1 (mem_ids_of_mem_deps hdep)
    rw [deps_of_node? hnode] at hdep
    exact hdepsExist node (hnodes ▸ (node?_eq_some_iff.1 hnode).1) dep hdep
  have hclosed : ∀ parent ∈ (ofNodes nodes).ids, ∀ child ∈ (ofNodes nodes).children parent,
      child ∈ (ofNodes nodes).ids := by
    intro parent _ child hchild
    exact mem_ids_of_mem_deps ((hchildren parent child).1 hchild)
  have hcounts := counts_inDegree hnodup hdepsExist
  refine ⟨hdeps, hchildren, (Kahn.run (ofNodes nodes).ids (ofNodes nodes).inDegree
    (ofNodes nodes).children).idxOf, ?_⟩
  intro nodeId dep hdep
  have hlength : (Kahn.run (ofNodes nodes).ids (ofNodes nodes).inDegree
      (ofNodes nodes).children).length = (ofNodes nodes).ids.length := by
    rw [show (ofNodes nodes).ids.length = (ofNodes nodes).nodes.length from List.length_map _]
    exact hall
  exact Kahn.rank_lt (ofNodes nodes).nodup hclosed hcounts hlength
    (hdeps nodeId dep hdep) ((hchildren dep nodeId).2 hdep)

/-! ## Progress -/

/-- No waiting node depends on a node that failed or was skipped. -/
def FailureClosed (dag : DAG) : Prop :=
  ∀ nodeId status, dag.status? nodeId = some status → status.IsStartable →
    ∀ dep ∈ dag.deps nodeId, dag.status? dep ≠ some .failed ∧ dag.status? dep ≠ some .skipped

/-- The statuses between two scheduler batches. -/
def IsQuiet (status : TaskStatus) : Prop := status.IsStartable ∨ status.IsTerminal

/-- An acyclic DAG in which every node is waiting or terminal, and no waiting
node depends on a failed one, is complete or has a ready node. -/
theorem exists_ready {dag : DAG} (hacyclic : dag.Acyclic) (hclosed : dag.FailureClosed)
    (hquiet : ∀ nodeId status, dag.status? nodeId = some status → IsQuiet status)
    (hcomplete : dag.isComplete = false) : dag.getReadyNodes ≠ [] := by
  obtain ⟨rank, hrank⟩ := hacyclic.ranked
  -- a waiting node leads to a ready one, by induction on its rank
  have hfind : ∀ bound nodeId node, rank nodeId < bound → dag.node? nodeId = some node →
      node.status.IsStartable → ∃ ready, ready ∈ dag.getReadyNodes := by
    intro bound
    induction bound with
    | zero => intro _ _ hlt; omega
    | succ bound ih =>
      intro nodeId node hlt hnode hstart
      have hstatus : dag.status? nodeId = some node.status :=
        status?_eq_some_iff.2 ⟨node, hnode, rfl⟩
      by_cases hmet : ∀ dep ∈ node.dependsOn, dag.status? dep = some .completed
      · refine ⟨node, mem_getReadyNodes.2 ⟨?_, hstart, ?_, hmet⟩⟩
        · rw [node?_nodeId hnode]; exact hnode
        · rintro ⟨dep, hdep, hfailed | hskipped⟩
          · have := hmet dep hdep; rw [hfailed] at this; cases this
          · have := hmet dep hdep; rw [hskipped] at this; cases this
      · push Not at hmet
        obtain ⟨dep, hdep, hnot⟩ := hmet
        rw [← deps_of_node? hnode] at hdep
        obtain ⟨depNode, hdepNode⟩ := mem_ids_iff.1 (hacyclic.depsExist nodeId dep hdep)
        have hdepStatus : dag.status? dep = some depNode.status :=
          status?_eq_some_iff.2 ⟨depNode, hdepNode, rfl⟩
        have hdepLt := hrank nodeId dep hdep
        have hopen := hclosed nodeId node.status hstatus hstart dep hdep
        rw [hdepStatus] at hnot hopen
        have hdepStart : depNode.status.IsStartable := by
          rcases hquiet dep depNode.status hdepStatus with h | h | h | h
          · exact h
          · exact absurd (congrArg some h) hnot
          · exact absurd (congrArg some h) hopen.1
          · exact absurd (congrArg some h) hopen.2
        exact ih dep depNode (by omega) hdepNode hdepStart
  have hwaiting : ∃ nodeId node, dag.node? nodeId = some node ∧ node.status.IsStartable := by
    by_contra hnone
    push Not at hnone
    have : dag.isComplete = true := by
      rw [isComplete_iff]
      intro nodeId status hstatus
      obtain ⟨node, hnode, rfl⟩ := status?_eq_some_iff.1 hstatus
      exact (hquiet nodeId node.status hstatus).resolve_left (hnone nodeId node hnode)
    rw [hcomplete] at this
    cases this
  obtain ⟨nodeId, node, hnode, hstart⟩ := hwaiting
  obtain ⟨ready, hready⟩ := hfind _ nodeId node (Nat.lt_succ_self _) hnode hstart
  exact List.ne_nil_of_mem hready

end DAG

end MassClaw
