import Mathlib.Data.Set.Basic
import MassClaw.Dag.Acyclic
import MassClaw.Dag.Cascade

/-!
# A DAG with some nodes at work

Between two batches every node waits or is terminal.  Within a batch the nodes
the scheduler has taken up are exempt from that: their dependencies are
completed and they are not.  `Working` states this, and each operation of the
scheduler keeps it, with or without the node it is applied to.
-/

namespace MassClaw

namespace DAG

/-- The scheduler is at work on the nodes `active`. -/
structure Working (dag : DAG) (active : Set String) : Prop where
  acyclic : dag.Acyclic
  closed : dag.FailureClosed
  quiet : ∀ nodeId status, dag.status? nodeId = some status → nodeId ∉ active → IsQuiet status
  met : ∀ nodeId ∈ active, ∀ dep ∈ dag.deps nodeId, dag.status? dep = some .completed
  undone : ∀ nodeId ∈ active, dag.status? nodeId ≠ some .completed

/-- Two DAGs with the same ids, dependencies and adjacency lists. -/
structure SameShape (dag dag' : DAG) : Prop where
  ids : dag'.ids = dag.ids
  deps : ∀ nodeId, dag'.deps nodeId = dag.deps nodeId
  children : ∀ parent, dag'.children parent = dag.children parent

theorem SameShape.trans {dag₁ dag₂ dag₃ : DAG} (h : SameShape dag₁ dag₂)
    (h' : SameShape dag₂ dag₃) : SameShape dag₁ dag₃ where
  ids := h'.ids.trans h.ids
  deps := fun nodeId => (h'.deps nodeId).trans (h.deps nodeId)
  children := fun parent => (h'.children parent).trans (h.children parent)

theorem sameShape_markRunning (dag : DAG) (nodeId : String) :
    SameShape dag (dag.markRunning nodeId) :=
  ⟨ids_markRunning dag nodeId, deps_markRunning dag nodeId, children_markRunning dag nodeId⟩

theorem sameShape_markPending (dag : DAG) (nodeId : String) :
    SameShape dag (dag.markPending nodeId) :=
  ⟨ids_markPending dag nodeId, deps_markPending dag nodeId, children_markPending dag nodeId⟩

theorem sameShape_markCompleted (dag : DAG) (nodeId : String) (output : Option String) :
    SameShape dag (dag.markCompleted nodeId output) :=
  ⟨ids_markCompleted dag nodeId output, deps_markCompleted dag nodeId output,
    children_markCompleted dag nodeId output⟩

theorem sameShape_setTaskId (dag : DAG) (nodeId : String) (taskId : UUID) :
    SameShape dag (dag.setTaskId nodeId taskId) :=
  ⟨ids_setTaskId dag nodeId taskId, deps_setTaskId dag nodeId taskId,
    children_setTaskId dag nodeId taskId⟩

theorem sameShape_markFailed (dag : DAG) (nodeId : String) (error : Option String) :
    SameShape dag (dag.markFailed nodeId error) :=
  ⟨ids_markFailed dag nodeId error, deps_markFailed dag nodeId error,
    children_markFailed dag nodeId error⟩

/-- A failure keeps the closure: the nodes that waited for it are skipped. -/
theorem FailureClosed.markFailed {dag : DAG} (h : dag.FailureClosed)
    (hchildren : ∀ parent child, parent ∈ dag.deps child → child ∈ dag.children parent)
    (nodeId : String) (error : Option String) : (dag.markFailed nodeId error).FailureClosed := by
  intro other status hother hstart dep hdep
  rw [deps_markFailed] at hdep
  have hskippable : IsSkippable status := hstart.imp id Or.inl
  -- a waiting node has no parent that failed now or was skipped for it
  have hparent : ¬(dep = nodeId ∨ dep ∈ dag.skippedBy nodeId error) := by
    intro hparent
    exact not_skippable_of_parent dag nodeId error hparent
      (hchildren dep other hdep) hother hskippable
  have hunchanged : dag.status? other = some status := by
    rcases status?_markFailed_cases dag nodeId error hother with ⟨-, rfl⟩ | ⟨-, rfl⟩ | ⟨-, -, h⟩
    · exact absurd hstart (by decide)
    · exact absurd hstart (by decide)
    · exact h
  obtain ⟨hfailed, hskipped⟩ := h other status hunchanged hstart dep hdep
  refine ⟨fun hdepStatus => ?_, fun hdepStatus => ?_⟩
  · rcases status?_markFailed_cases dag nodeId error hdepStatus with ⟨heq, -⟩ | ⟨hmem, -⟩ |
      ⟨-, -, hold⟩
    · exact hparent (Or.inl heq)
    · exact hparent (Or.inr hmem)
    · exact hfailed hold
  · rcases status?_markFailed_cases dag nodeId error hdepStatus with ⟨heq, -⟩ | ⟨hmem, -⟩ |
      ⟨-, -, hold⟩
    · exact hparent (Or.inl heq)
    · exact hparent (Or.inr hmem)
    · exact hskipped hold

theorem mem_ids_of_status? {dag : DAG} {nodeId : String} {status : TaskStatus}
    (h : dag.status? nodeId = some status) : nodeId ∈ dag.ids := by
  obtain ⟨node, hnode, -⟩ := status?_eq_some_iff.1 h
  exact mem_ids_iff.2 ⟨node, hnode⟩

theorem status?_addNode {dag dag' : DAG} {node : DAGNode} (hadd : dag.addNode node = some dag')
    (nodeId : String) :
    dag'.status? nodeId =
      if nodeId = node.nodeId then some node.status else dag.status? nodeId := by
  unfold status?
  rw [node?_addNode hadd]
  split
  · rfl
  · rfl

/-- The statuses of the nodes there were stay. -/
theorem status?_addNode_of_mem {dag dag' : DAG} {node : DAGNode}
    (hadd : dag.addNode node = some dag') {nodeId : String} (hmem : nodeId ∈ dag.ids) :
    dag'.status? nodeId = dag.status? nodeId := by
  rw [status?_addNode hadd, if_neg]
  rintro rfl
  exact (addNode_eq_some hadd).1 hmem

/-- A new node whose dependencies are completed keeps the closure. -/
theorem FailureClosed.addNode {dag dag' : DAG} {node : DAGNode} (h : dag.FailureClosed)
    (hexist : ∀ nodeId, ∀ dep ∈ dag.deps nodeId, dep ∈ dag.ids)
    (hadd : dag.addNode node = some dag')
    (hdeps : ∀ dep ∈ node.dependsOn, dag.status? dep = some .completed) : dag'.FailureClosed := by
  intro other status hother hstart dep hdep
  rw [deps_addNode hadd] at hdep
  rw [status?_addNode hadd] at hother
  split at hdep
  · rw [status?_addNode_of_mem hadd (mem_ids_of_status? (hdeps dep hdep)), hdeps dep hdep]
    exact ⟨by simp, by simp⟩
  · rename_i hne
    rw [if_neg hne] at hother
    rw [status?_addNode_of_mem hadd (hexist other dep hdep)]
    exact h other status hother hstart dep hdep

namespace Working

variable {dag dag' : DAG} {active : Set String} {nodeId : String}

/-- Only the statuses and the shape matter. -/
theorem of_same (h : dag.Working active) (hshape : SameShape dag dag')
    (hstatus : ∀ other, dag'.status? other = dag.status? other) : dag'.Working active where
  acyclic := h.acyclic.of_shape hshape.ids hshape.deps hshape.children
  closed := by
    intro other status hother hstart dep hdep
    rw [hstatus] at hother ⊢
    rw [hshape.deps] at hdep
    exact h.closed other status hother hstart dep hdep
  quiet := by
    intro other status hother
    rw [hstatus] at hother
    exact h.quiet other status hother
  met := by
    intro other hother dep hdep
    rw [hshape.deps] at hdep
    rw [hstatus]
    exact h.met other hother dep hdep
  undone := by
    intro other hother
    rw [hstatus]
    exact h.undone other hother

/-- A node at work is no dependency of another. -/
theorem ne_of_dep (h : dag.Working active) (hactive : nodeId ∈ active) {other dep : String}
    (hother : other ∈ active) (hdep : dep ∈ dag.deps other) : dep ≠ nodeId := by
  rintro rfl
  exact h.undone dep hactive (h.met other hother dep hdep)

section Assign

variable {status : TaskStatus} (h : dag.Working active) (hactive : nodeId ∈ active)
  (hshape : SameShape dag dag')
  (hstatus : ∀ other, dag'.status? other =
    if other = nodeId then (dag.status? other).map (fun _ => status) else dag.status? other)

include h hactive hshape hstatus

private theorem met_assign {other : String} (hother : other ∈ active) {dep : String}
    (hdep : dep ∈ dag'.deps other) : dag'.status? dep = some .completed := by
  rw [hshape.deps] at hdep
  rw [hstatus, if_neg (h.ne_of_dep hactive hother hdep)]
  exact h.met other hother dep hdep

variable (hfailed : status ≠ .failed) (hskipped : status ≠ .skipped)

include hfailed hskipped

private theorem closed_assign : dag'.FailureClosed := by
  intro other otherStatus hother hstart dep hdep
  rw [hshape.deps] at hdep
  have hdepStatus : dag.status? dep ≠ some .failed ∧ dag.status? dep ≠ some .skipped := by
    by_cases heq : other = nodeId
    · rw [heq] at hdep
      rw [h.met nodeId hactive dep hdep]
      exact ⟨by simp, by simp⟩
    · rw [hstatus, if_neg heq] at hother
      exact h.closed other otherStatus hother hstart dep hdep
  rw [hstatus]
  split
  · cases dag.status? dep with
    | none => exact ⟨by simp, by simp⟩
    | some _ => exact ⟨by simpa using hfailed, by simpa using hskipped⟩
  · exact hdepStatus

/-- A node at work gets a status with which it stays at work. -/
theorem assign (hcompleted : status ≠ .completed) : dag'.Working active where
  acyclic := h.acyclic.of_shape hshape.ids hshape.deps hshape.children
  closed := closed_assign h hactive hshape hstatus hfailed hskipped
  quiet := by
    intro other otherStatus hother hnot
    have hne : other ≠ nodeId := fun heq => hnot (heq ▸ hactive)
    rw [hstatus, if_neg hne] at hother
    exact h.quiet other otherStatus hother hnot
  met := fun other hother dep hdep =>
    met_assign h hactive hshape hstatus hother hdep
  undone := by
    intro other hother
    rw [hstatus]
    split
    · cases dag.status? other with
      | none => simp
      | some _ => simpa using hcompleted
    · exact h.undone other hother

/-- A node at work gets a status with which it is done for the batch. -/
theorem finish (hquiet : IsQuiet status) : dag'.Working (active \ {nodeId}) where
  acyclic := h.acyclic.of_shape hshape.ids hshape.deps hshape.children
  closed := closed_assign h hactive hshape hstatus hfailed hskipped
  quiet := by
    intro other otherStatus hother hnot
    rw [hstatus] at hother
    split at hother
    · obtain ⟨_, -, rfl⟩ := Option.map_eq_some_iff.1 hother
      exact hquiet
    · rename_i hne
      exact h.quiet other otherStatus hother (fun hmem => hnot ⟨hmem, hne⟩)
  met := fun other hother dep hdep =>
    met_assign h hactive hshape hstatus hother.1 hdep
  undone := by
    intro other hother
    have hne : other ≠ nodeId := hother.2
    rw [hstatus, if_neg hne]
    exact h.undone other hother.1

end Assign

theorem setTaskId (h : dag.Working active) (taskId : UUID) :
    (dag.setTaskId nodeId taskId).Working active :=
  h.of_same (sameShape_setTaskId dag nodeId taskId) (status?_setTaskId dag nodeId taskId)

theorem markRunning (h : dag.Working active) (hactive : nodeId ∈ active) :
    (dag.markRunning nodeId).Working active :=
  h.assign hactive (sameShape_markRunning dag nodeId) (status?_markRunning dag nodeId)
    (by decide) (by decide) (by decide)

theorem markPending (h : dag.Working active) (hactive : nodeId ∈ active) :
    (dag.markPending nodeId).Working active :=
  h.assign hactive (sameShape_markPending dag nodeId) (status?_markPending dag nodeId)
    (by decide) (by decide) (by decide)

theorem markCompleted (h : dag.Working active) (hactive : nodeId ∈ active)
    (output : Option String) : (dag.markCompleted nodeId output).Working (active \ {nodeId}) :=
  h.finish hactive (sameShape_markCompleted dag nodeId output)
    (status?_markCompleted dag nodeId output) (by decide) (by decide)
    (Or.inr (by decide))

/-- A node is completed and at once reset for another attempt. -/
theorem retry (h : dag.Working active) (hactive : nodeId ∈ active) (output : Option String) :
    ((dag.markCompleted nodeId output).markPending nodeId).Working (active \ {nodeId}) := by
  exact h.finish hactive
    ((sameShape_markCompleted dag nodeId output).trans (sameShape_markPending _ nodeId))
    (status?_retry dag nodeId output)
    (by decide) (by decide) (Or.inl (by decide))

theorem markFailed (h : dag.Working active) (hactive : nodeId ∈ active) (error : Option String) :
    (dag.markFailed nodeId error).Working (active \ {nodeId}) where
  acyclic :=
    have hshape := sameShape_markFailed dag nodeId error
    h.acyclic.of_shape hshape.ids hshape.deps hshape.children
  closed := h.closed.markFailed (fun parent child => (h.acyclic.childrenIff parent child).2) nodeId
    error
  quiet := by
    intro other status hother hnot
    rcases status?_markFailed_cases dag nodeId error hother with ⟨-, rfl⟩ | ⟨-, rfl⟩ |
      ⟨hne, -, hold⟩
    · exact Or.inr (by decide)
    · exact Or.inr (by decide)
    · exact h.quiet other status hold (fun hmem => hnot ⟨hmem, hne⟩)
  met := by
    intro other hother dep hdep
    rw [deps_markFailed] at hdep
    have hcompleted := h.met other hother.1 dep hdep
    obtain ⟨node, hnode, hstatus⟩ := status?_eq_some_iff.1 hcompleted
    refine status?_eq_some_iff.2 ⟨node, ?_, hstatus⟩
    refine node?_markFailed_of_not_skippable dag nodeId error
      (h.ne_of_dep hactive hother.1 hdep) hnode ?_
    rw [hstatus]
    decide
  undone := by
    intro other hother hcompleted
    rcases status?_markFailed_cases dag nodeId error hcompleted with ⟨-, heq⟩ | ⟨-, heq⟩ |
      ⟨-, -, hold⟩
    · cases heq
    · cases heq
    · exact h.undone other hother.1 hold

/-- A waiting node is added whose dependencies are completed. -/
theorem addNode (h : dag.Working active) {node : DAGNode} (hadd : dag.addNode node = some dag')
    (hpending : node.status = .pending)
    (hdeps : ∀ dep ∈ node.dependsOn, dag.status? dep = some .completed) : dag'.Working active := by
  refine ⟨h.acyclic.addNode hadd (fun dep hdep => mem_ids_of_status? (hdeps dep hdep)),
    h.closed.addNode h.acyclic.depsExist hadd hdeps, ?_, ?_, ?_⟩
  · intro other status hother hnot
    rw [status?_addNode hadd] at hother
    split at hother
    · cases hother
      rw [hpending]
      exact Or.inl (by decide)
    · exact h.quiet other status hother hnot
  · intro other hother dep hdep
    rw [deps_addNode hadd] at hdep
    split at hdep
    · rw [status?_addNode_of_mem hadd (mem_ids_of_status? (hdeps dep hdep)), hdeps dep hdep]
    · rw [status?_addNode_of_mem hadd (h.acyclic.depsExist other dep hdep)]
      exact h.met other hother dep hdep
  · intro other hother
    rw [status?_addNode hadd]
    split
    · rw [hpending]
      simp
    · exact h.undone other hother

/-- Only the members of the set matter. -/
theorem congr {active' : Set String} (h : dag.Working active)
    (hactive : ∀ nodeId, nodeId ∈ active' ↔ nodeId ∈ active) : dag.Working active' := by
  have heq : active' = active := Set.ext hactive
  rwa [heq]

/-- The nodes a new batch takes up. -/
theorem of_ready (h : dag.Working ∅) :
    dag.Working {nodeId | nodeId ∈ dag.getReadyNodes.map DAGNode.nodeId} where
  acyclic := h.acyclic
  closed := h.closed
  quiet := fun other status hother _ => h.quiet other status hother (Set.notMem_empty _)
  met := by
    intro other hother dep hdep
    obtain ⟨node, hnode, rfl⟩ := List.mem_map.1 hother
    obtain ⟨hfound, hready⟩ := mem_getReadyNodes.1 hnode
    rw [deps_of_node? hfound] at hdep
    exact hready.2.2 dep hdep
  undone := by
    intro other hother hcompleted
    obtain ⟨node, hnode, rfl⟩ := List.mem_map.1 hother
    obtain ⟨hfound, hready⟩ := mem_getReadyNodes.1 hnode
    obtain ⟨node', hnode', hstatus⟩ := status?_eq_some_iff.1 hcompleted
    rw [hfound] at hnode'
    obtain rfl := Option.some.inj hnode'
    have hstart := hready.1
    rw [hstatus] at hstart
    exact absurd hstart (by decide)

/-- Without nodes at work the DAG is complete or has a ready node. -/
theorem complete_or_ready (h : dag.Working ∅) :
    dag.isComplete = true ∨ dag.getReadyNodes ≠ [] := by
  cases hcomplete : dag.isComplete with
  | true => exact Or.inl rfl
  | false =>
    exact Or.inr (exists_ready h.acyclic h.closed
      (fun nodeId status hstatus => h.quiet nodeId status hstatus (Set.notMem_empty _)) hcomplete)

end Working

end DAG

end MassClaw
