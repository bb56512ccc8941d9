import MassClaw.Dag.Lookup

/-!
# What `mark_failed` leaves behind

`mark_failed` fails one node and walks the adjacency lists breadth first.
`markFailed_spec` is the statement of the loop: every node keeps its record
except the failed one and the skipped ones, the skipped ones had not started,
and no child of the failed node or of a skipped node is left in a status that
the cascade skips.  The last part is what keeps a failure from stranding a
node that still waits for it.
-/

namespace MassClaw

namespace DAG

theorem skipNode_nodeId (failedId : String) (node : DAGNode) :
    (skipNode failedId node).nodeId = node.nodeId := rfl

theorem failNode_nodeId (error : Option String) (node : DAGNode) :
    (failNode error node).nodeId = node.nodeId := rfl

@[simp] theorem skipNode_status (failedId : String) (node : DAGNode) :
    (skipNode failedId node).status = .skipped := rfl

@[simp] theorem failNode_status (error : Option String) (node : DAGNode) :
    (failNode error node).status = .failed := rfl

/-! ## The loop -/

/-- The invariant of the cascade that starts from `base`, the DAG in which
`failedId` has just been marked. -/
structure CascadeInv (base : DAG) (failedId : String) (queue : List String) (c : Cascade) :
    Prop where
  ids : c.dag.ids = base.ids
  edges : c.dag.edges = base.edges
  node : ∀ nodeId, c.dag.node? nodeId =
    if nodeId ∈ c.skipped then (base.node? nodeId).map (skipNode failedId) else base.node? nodeId
  started : ∀ nodeId ∈ c.skipped, ∃ status, base.status? nodeId = some status ∧ IsSkippable status
  skippedSeen : ∀ nodeId ∈ c.skipped, nodeId ∈ c.seen
  settled : ∀ nodeId ∈ c.seen, ∀ status, c.dag.status? nodeId = some status →
    ¬IsSkippable status
  reached : ∀ parent, parent = failedId ∨ parent ∈ c.skipped →
    ∀ child ∈ base.children parent, child ∈ c.seen ∨ child ∈ queue
  nodup : c.skipped.Nodup

/-- The three outcomes of one round. -/
theorem skipStep_cases (failedId childId : String) (c : Cascade) :
    (childId ∈ c.seen ∧ skipStep failedId childId c = (c, [])) ∨
    (childId ∉ c.seen ∧ (∀ status, c.dag.status? childId = some status → ¬IsSkippable status) ∧
      skipStep failedId childId c = ({ c with seen := childId :: c.seen }, [])) ∨
    (∃ status, childId ∉ c.seen ∧ c.dag.status? childId = some status ∧ IsSkippable status ∧
      skipStep failedId childId c =
        ({ dag := c.dag.modify childId (skipNode failedId)
           seen := childId :: c.seen
           skipped := c.skipped ++ [childId] }, c.dag.children childId)) := by
  unfold skipStep
  split
  · rename_i hseen; exact Or.inl ⟨hseen, rfl⟩
  · rename_i hseen
    split
    · rename_i hnone
      exact Or.inr (Or.inl ⟨hseen, by simp [hnone], rfl⟩)
    · rename_i status hstatus
      split
      · rename_i hskip
        exact Or.inr (Or.inr ⟨status, hseen, hstatus, hskip, rfl⟩)
      · rename_i hskip
        refine Or.inr (Or.inl ⟨hseen, ?_, rfl⟩)
        intro status' hstatus'
        rw [hstatus] at hstatus'
        obtain rfl := Option.some.inj hstatus'
        exact hskip

theorem CascadeInv.step {base : DAG} {failedId childId : String} {queue : List String}
    {c : Cascade} (h : CascadeInv base failedId (childId :: queue) c) :
    CascadeInv base failedId (queue ++ (skipStep failedId childId c).2)
      (skipStep failedId childId c).1 := by
  rcases skipStep_cases failedId childId c with
    ⟨hseen, heq⟩ | ⟨hseen, hnot, heq⟩ | ⟨status, hseen, hstatus, hskip, heq⟩
  · -- the child has been handled before
    rw [heq]
    refine { h with reached := ?_ }
    intro parent hparent child hchild
    rcases h.reached parent hparent child hchild with hs | hq
    · exact Or.inl hs
    · rcases List.mem_cons.1 hq with rfl | hrest
      · exact Or.inl hseen
      · exact Or.inr (by simpa using hrest)
  · -- the child has started or is settled: it only counts as seen
    rw [heq]
    refine { h with skippedSeen := ?_, settled := ?_, reached := ?_ }
    · intro nodeId hmem
      exact List.mem_cons_of_mem _ (h.skippedSeen nodeId hmem)
    · intro nodeId hmem
      rcases List.mem_cons.1 hmem with rfl | hold
      · exact hnot
      · exact h.settled nodeId hold
    · intro parent hparent child hchild
      rcases h.reached parent hparent child hchild with hs | hq
      · exact Or.inl (List.mem_cons_of_mem _ hs)
      · rcases List.mem_cons.1 hq with rfl | hrest
        · exact Or.inl List.mem_cons_self
        · exact Or.inr (by simpa using hrest)
  · -- the child is skipped now, and its own children are due
    have hfresh : childId ∉ c.skipped := fun hmem => hseen (h.skippedSeen childId hmem)
    rw [heq]
    refine ⟨?_, h.edges, ?_, ?_, ?_, ?_, ?_, ?_⟩
    · simpa using h.ids
    · intro nodeId
      simp only [List.mem_append, List.mem_singleton]
      rw [node?_modify _ _ (skipNode_nodeId failedId), h.node]
      by_cases hself : nodeId = childId
      · subst hself
        simp [hfresh]
      · simp [hself]
    · intro nodeId hmem
      rcases List.mem_append.1 hmem with hold | hnew
      · exact h.started nodeId hold
      · obtain rfl := List.mem_singleton.1 hnew
        refine ⟨status, ?_, hskip⟩
        rw [← hstatus]
        unfold status?
        rw [h.node, if_neg hfresh]
    · intro nodeId hmem
      rcases List.mem_append.1 hmem with hold | hnew
      · exact List.mem_cons_of_mem _ (h.skippedSeen nodeId hold)
      · obtain rfl := List.mem_singleton.1 hnew
        exact List.mem_cons_self
    · intro nodeId hmem status' hstatus'
      by_cases hself : nodeId = childId
      · subst hself
        obtain ⟨node, hnode, rfl⟩ := status?_eq_some_iff.1 hstatus'
        rw [node?_modify_self _ _ (skipNode_nodeId failedId), Option.map_eq_some_iff] at hnode
        obtain ⟨old, -, rfl⟩ := hnode
        simp [IsSkippable]
      · have hold : nodeId ∈ c.seen := (List.mem_cons.1 hmem).resolve_left hself
        refine h.settled nodeId hold status' ?_
        rw [← hstatus']
        unfold status?
        rw [node?_modify_ne _ _ (skipNode_nodeId failedId) hself]
    · intro parent hparent child hchild
      have hcase : (parent = failedId ∨ parent ∈ c.skipped) ∨ parent = childId := by
        rcases hparent with rfl | hmem
        · exact Or.inl (Or.inl rfl)
        · rcases List.mem_append.1 hmem with hold | hnew
          · exact Or.inl (Or.inr hold)
          · exact Or.inr (List.mem_singleton.1 hnew)
      rcases hcase with hold | rfl
      · rcases h.reached parent hold child hchild with hs | hq
        · exact Or.inl (List.mem_cons_of_mem _ hs)
        · rcases List.mem_cons.1 hq with rfl | hrest
          · exact Or.inl List.mem_cons_self
          · exact Or.inr (List.mem_append_left _ hrest)
      · refine Or.inr (List.mem_append_right _ ?_)
        simpa [children, h.edges] using hchild
    · rw [List.nodup_append]
      refine ⟨h.nodup, List.nodup_singleton _, ?_⟩
      rintro a ha b hb rfl
      obtain rfl := List.mem_singleton.1 hb
      exact hfresh ha

/-- Edges whose parent has not been seen: each pays for one queue entry. -/
private def unseenEdges (c : Cascade) : Nat :=
  c.dag.edges.countP (fun edge => edge.1 ∉ c.seen)

private theorem countP_unseen (edges : List (String × String)) (seen : List String)
    {childId : String} (h : childId ∉ seen) :
    (edges.filter (fun edge => edge.1 = childId)).length +
        edges.countP (fun edge => edge.1 ∉ childId :: seen) =
      edges.countP (fun edge => edge.1 ∉ seen) := by
  induction edges with
  | nil => rfl
  | cons edge rest ih =>
    by_cases hself : edge.1 = childId
    · have hnot : edge.1 ∉ seen := hself ▸ h
      simp only [List.filter_cons, List.countP_cons, hself, h, List.mem_cons, true_or,
        not_true_eq_false, not_false_eq_true, decide_true, decide_false, if_true] at *
      simp only [List.length_cons, Bool.false_eq_true, if_false]
      omega
    · simp only [List.filter_cons, List.countP_cons, List.mem_cons, hself, false_or,
        decide_false, Bool.false_eq_true, if_false] at *
      omega

private theorem skipStep_budget (failedId childId : String) (c : Cascade) :
    (skipStep failedId childId c).2.length + unseenEdges (skipStep failedId childId c).1
      ≤ unseenEdges c := by
  rcases skipStep_cases failedId childId c with
    ⟨-, heq⟩ | ⟨hseen, -, heq⟩ | ⟨_, hseen, -, -, heq⟩
  · rw [heq]; simp
  · rw [heq]
    have := countP_unseen c.dag.edges c.seen hseen
    simp only [unseenEdges, List.length_nil]
    omega
  · rw [heq]
    have := countP_unseen c.dag.edges c.seen hseen
    simp only [unseenEdges, children, List.length_map, edges_modify]
    omega

/-- The rule of the cascade: what each round keeps holds of the empty queue at
the end. -/
theorem markFailedCascade_induction {dag : DAG} {nodeId : String} {error : Option String}
    {I : List String → Cascade → Prop}
    (hstep : ∀ child queue c, I (child :: queue) c →
      I (queue ++ (skipStep nodeId child c).2) (skipStep nodeId child c).1)
    (hstart : I (dag.children nodeId)
      { dag := dag.modify nodeId (failNode error), seen := [], skipped := [] }) :
    I [] (dag.markFailedCascade nodeId error) := by
  refine Worklist.drain_induction (μ := unseenEdges)
    (fun child queue c _ => skipStep_budget nodeId child c) hstep _ _ _ ?_ hstart
  have hqueue : (dag.children nodeId).length ≤ dag.edges.length := by
    rw [children, List.length_map]
    exact List.length_filter_le _ _
  have hbudget : unseenEdges
      { dag := dag.modify nodeId (failNode error), seen := [], skipped := [] }
        ≤ dag.edges.length := List.countP_le_length
  rw [children_modify]
  change (dag.children nodeId).length + unseenEdges
    { dag := dag.modify nodeId (failNode error), seen := [], skipped := [] } ≤ _
  omega

/-- The cascade ends with an empty queue. -/
theorem markFailedCascade_inv (dag : DAG) (nodeId : String) (error : Option String) :
    CascadeInv (dag.modify nodeId (failNode error)) nodeId []
      (dag.markFailedCascade nodeId error) := by
  refine markFailedCascade_induction (fun child queue c h => h.step) ?_
  refine ⟨rfl, rfl, by intro _; rfl, by simp, by simp, by simp, ?_, List.nodup_nil⟩
  intro parent hparent child hchild
  rcases hparent with rfl | hmem
  · exact Or.inr hchild
  · cases hmem

/-! ## The result -/

/-- The ids that `mark_failed` returns. -/
def skippedBy (dag : DAG) (nodeId : String) (error : Option String) : List String :=
  (dag.markFailedCascade nodeId error).skipped

section Result

variable (dag : DAG) (nodeId : String) (error : Option String)

@[simp] theorem ids_markFailed : (dag.markFailed nodeId error).ids = dag.ids :=
  (markFailedCascade_inv dag nodeId error).ids.trans (ids_modify dag nodeId)

@[simp] theorem edges_markFailed : (dag.markFailed nodeId error).edges = dag.edges :=
  (markFailedCascade_inv dag nodeId error).edges

@[simp] theorem children_markFailed (parent : String) :
    (dag.markFailed nodeId error).children parent = dag.children parent := by
  simp [children]

/-- Every record after `mark_failed`. -/
theorem node?_markFailed (other : String) :
    (dag.markFailed nodeId error).node? other =
      if other ∈ dag.skippedBy nodeId error then
        ((dag.modify nodeId (failNode error)).node? other).map (skipNode nodeId)
      else (dag.modify nodeId (failNode error)).node? other :=
  (markFailedCascade_inv dag nodeId error).node other

/-- A skipped node had not started, so it is not the failed node itself. -/
theorem skippedBy_startable {other : String} (h : other ∈ dag.skippedBy nodeId error) :
    other ≠ nodeId ∧ ∃ status, dag.status? other = some status ∧ IsSkippable status := by
  obtain ⟨status, hstatus, hskip⟩ := (markFailedCascade_inv dag nodeId error).started other h
  obtain ⟨node, hnode, rfl⟩ := status?_eq_some_iff.1 hstatus
  rw [node?_modify _ _ (failNode_nodeId error)] at hnode
  by_cases hself : other = nodeId
  · rw [if_pos hself, Option.map_eq_some_iff] at hnode
    obtain ⟨old, -, rfl⟩ := hnode
    simp [IsSkippable] at hskip
  · rw [if_neg hself] at hnode
    exact ⟨hself, node.status, status?_eq_some_iff.2 ⟨node, hnode, rfl⟩, hskip⟩

/-- No child of the failed node or of a skipped node is left waiting. -/
theorem not_skippable_of_parent {parent child : String} {status : TaskStatus}
    (hparent : parent = nodeId ∨ parent ∈ dag.skippedBy nodeId error)
    (hchild : child ∈ dag.children parent)
    (hstatus : (dag.markFailed nodeId error).status? child = some status) :
    ¬IsSkippable status := by
  have hinv := markFailedCascade_inv dag nodeId error
  rcases hinv.reached parent hparent child hchild with hseen | hqueue
  · exact hinv.settled child hseen status hstatus
  · cases hqueue

/-- The four ways a status can come out of `mark_failed`. -/
theorem status?_markFailed_cases {other : String} {status : TaskStatus}
    (h : (dag.markFailed nodeId error).status? other = some status) :
    (other = nodeId ∧ status = .failed) ∨
      (other ∈ dag.skippedBy nodeId error ∧ status = .skipped) ∨
      (other ≠ nodeId ∧ other ∉ dag.skippedBy nodeId error ∧ dag.status? other = some status) := by
  obtain ⟨node, hnode, rfl⟩ := status?_eq_some_iff.1 h
  rw [node?_markFailed] at hnode
  by_cases hskip : other ∈ dag.skippedBy nodeId error
  · rw [if_pos hskip, Option.map_eq_some_iff] at hnode
    obtain ⟨old, -, rfl⟩ := hnode
    exact Or.inr (Or.inl ⟨hskip, rfl⟩)
  · rw [if_neg hskip, node?_modify _ _ (failNode_nodeId error)] at hnode
    by_cases hself : other = nodeId
    · rw [if_pos hself, Option.map_eq_some_iff] at hnode
      obtain ⟨old, -, rfl⟩ := hnode
      exact Or.inl ⟨hself, rfl⟩
    · rw [if_neg hself] at hnode
      exact Or.inr (Or.inr ⟨hself, hskip, status?_eq_some_iff.2 ⟨node, hnode, rfl⟩⟩)

/-- A node that is neither failed nor skipped keeps its whole record. -/
theorem node?_markFailed_of_not_skippable {other : String} {node : DAGNode}
    (hself : other ≠ nodeId) (h : dag.node? other = some node)
    (hstatus : ¬IsSkippable node.status) :
    (dag.markFailed nodeId error).node? other = some node := by
  have hnot : other ∉ dag.skippedBy nodeId error := by
    intro hmem
    obtain ⟨-, status, hs, hskip⟩ := skippedBy_startable dag nodeId error hmem
    obtain ⟨node', hnode', rfl⟩ := status?_eq_some_iff.1 hs
    rw [h] at hnode'
    obtain rfl := Option.some.inj hnode'
    exact hstatus hskip
  rw [node?_markFailed, if_neg hnot, node?_modify_ne _ _ (failNode_nodeId error) hself, h]

@[simp] theorem deps_markFailed (other : String) :
    (dag.markFailed nodeId error).deps other = dag.deps other := by
  have hbase := deps_modify dag nodeId (f := failNode error) (fun _ => rfl) (fun _ => rfl) other
  rw [← hbase]
  unfold deps
  rw [node?_markFailed]
  split
  · cases (dag.modify nodeId (failNode error)).node? other with
    | none => rfl
    | some node => rfl
  · rfl

end Result

end DAG

end MassClaw
