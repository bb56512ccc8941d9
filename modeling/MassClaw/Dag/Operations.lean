import MassClaw.Dag.Progress
import MassClaw.Lib.Transition

/-!
# The scheduler's operations on a DAG

The scheduler takes up ready nodes, completes or fails the nodes that run, and
resets, completes again or fails a node right after its completion, before a
node that depends on it is taken up.  `Consistent` is what every sequence of
these operations keeps: a node that runs or is completed has only completed
dependencies, and no node waits for one that failed or was skipped.

`Grounded` is the part of it that also holds of accepted lists with repeated ids,
where the dependencies may have a cycle: such nodes are never ready, so no
failure is missed for them.
-/

namespace MassClaw

namespace DAG

/-- A call of the scheduler. -/
inductive Operation
  | markRunning (nodeId : String)
  | markCompleted (nodeId : String) (output : Option String)
  | markFailed (nodeId : String) (error : Option String)
  | markPending (nodeId : String)
  | addNode (node : DAGNode)

/-- The DAG after the call; an id that exists is refused. -/
def Operation.run (dag : DAG) : Operation → DAG
  | markRunning nodeId => dag.markRunning nodeId
  | markCompleted nodeId output => dag.markCompleted nodeId output
  | markFailed nodeId error => dag.markFailed nodeId error
  | markPending nodeId => dag.markPending nodeId
  | addNode node => (dag.addNode node).getD dag

/-- `get_ready_nodes` returns the node. -/
def Ready (dag : DAG) (nodeId : String) : Prop := ∃ node ∈ dag.getReadyNodes, node.nodeId = nodeId

/-- The statuses of a node that has been taken up and has not failed. -/
def IsTaken (status : TaskStatus) : Prop := status = .running ∨ status = .completed

instance (status : TaskStatus) : Decidable (IsTaken status) := by
  unfold IsTaken; infer_instance

/-- No node that depends on the node runs or is completed. -/
def Untaken (dag : DAG) (nodeId : String) : Prop :=
  ∀ other ∈ dag.nodes, nodeId ∈ other.dependsOn → ¬IsTaken other.status

/-- The node is completed, and no node that depends on it has been taken up. -/
def JustCompleted (dag : DAG) (nodeId : String) : Prop :=
  dag.status? nodeId = some .completed ∧ dag.Untaken nodeId

instance (dag : DAG) (nodeId : String) : Decidable (dag.Ready nodeId) := by
  unfold Ready; infer_instance

instance (dag : DAG) (nodeId : String) : Decidable (dag.JustCompleted nodeId) := by
  unfold JustCompleted Untaken; infer_instance

/-- The nodes to which the scheduler applies each operation. -/
def Operation.Allowed (dag : DAG) : Operation → Prop
  | markRunning nodeId => dag.Ready nodeId
  | markCompleted nodeId _ => dag.status? nodeId = some .running ∨ dag.JustCompleted nodeId
  | markFailed nodeId _ =>
    dag.Ready nodeId ∨ dag.status? nodeId = some .running ∨ dag.JustCompleted nodeId
  | markPending nodeId => dag.JustCompleted nodeId
  | addNode node =>
    node.status.IsStartable ∧ ∀ dep ∈ node.dependsOn, dag.status? dep = some .completed

instance (dag : DAG) (op : Operation) : Decidable (op.Allowed dag) := by
  cases op <;> (unfold Operation.Allowed; infer_instance)

theorem Untaken.not_taken {dag : DAG} {nodeId other : String} (h : dag.Untaken nodeId)
    (hdep : nodeId ∈ dag.deps other) {status : TaskStatus}
    (hstatus : dag.status? other = some status) : ¬IsTaken status := by
  obtain ⟨node, hnode, rfl⟩ := status?_eq_some_iff.1 hstatus
  rw [deps_of_node? hnode] at hdep
  exact h node (node?_eq_some_iff.1 hnode).1 hdep

/-! ## The invariant -/

/-- What holds of the DAG between any two operations. -/
structure Consistent (dag : DAG) : Prop where
  acyclic : dag.Acyclic
  closed : dag.FailureClosed
  known : ∀ nodeId status, dag.status? nodeId = some status → IsQuiet status ∨ status = .running
  met : ∀ nodeId status, dag.status? nodeId = some status → IsTaken status →
    ∀ dep ∈ dag.deps nodeId, dag.status? dep = some .completed

/-- The DAG at the start: every node waits or is terminal, none waits for a node
that failed or was skipped, and the completed ones have completed
dependencies. -/
structure Begun (dag : DAG) : Prop where
  quiet : ∀ node ∈ dag.nodes, IsQuiet node.status
  closed : dag.FailureClosed
  met : ∀ nodeId, dag.status? nodeId = some .completed →
    ∀ dep ∈ dag.deps nodeId, dag.status? dep = some .completed

/-- Nodes that all wait are a start. -/
theorem begun_of_startable {dag : DAG} (h : ∀ node ∈ dag.nodes, node.status.IsStartable) :
    dag.Begun := by
  have hstatus : ∀ {nodeId status}, dag.status? nodeId = some status → status.IsStartable := by
    intro nodeId status hstatus
    obtain ⟨node, hnode, rfl⟩ := status?_eq_some_iff.1 hstatus
    exact h node (node?_eq_some_iff.1 hnode).1
  refine ⟨fun node hnode => Or.inl (h node hnode), ?_, ?_⟩
  · intro nodeId status _ _ dep _
    refine ⟨fun hfailed => ?_, fun hskipped => ?_⟩
    · exact absurd (hstatus hfailed) (by decide)
    · exact absurd (hstatus hskipped) (by decide)
  · intro nodeId hcompleted
    exact absurd (hstatus hcompleted) (by decide)

/-- The statuses of a start are those of nodes that wait or have ended. -/
theorem Begun.known {dag : DAG} (h : dag.Begun) {nodeId : String} {status : TaskStatus}
    (hstatus : dag.status? nodeId = some status) : IsQuiet status := by
  obtain ⟨node, hnode, rfl⟩ := status?_eq_some_iff.1 hstatus
  exact h.quiet node (node?_eq_some_iff.1 hnode).1

theorem Begun.met_of_taken {dag : DAG} (h : dag.Begun) {nodeId : String} {status : TaskStatus}
    (hstatus : dag.status? nodeId = some status) (htaken : IsTaken status) :
    ∀ dep ∈ dag.deps nodeId, dag.status? dep = some .completed := by
  rcases htaken with rfl | rfl
  · rcases h.known hstatus with hstart | hterminal
    · exact absurd hstart (by decide)
    · exact absurd hterminal (by decide)
  · exact h.met nodeId hstatus

/-! ## What holds whatever the ids -/

/-- The dependencies name nodes, and a failure finds the nodes that wait. -/
structure Linked (dag : DAG) : Prop where
  depsExist : ∀ nodeId, ∀ dep ∈ dag.deps nodeId, dep ∈ dag.ids
  children : ∀ parent child, parent ∈ dag.deps child → child ∈ dag.children parent

theorem Linked.of_shape {dag dag' : DAG} (h : dag.Linked) (hshape : SameShape dag dag') :
    dag'.Linked where
  depsExist := by
    intro nodeId dep hdep
    rw [hshape.deps] at hdep
    rw [hshape.ids]
    exact h.depsExist nodeId dep hdep
  children := by
    intro parent child hdep
    rw [hshape.deps] at hdep
    rw [hshape.children]
    exact h.children parent child hdep

/-- A node whose dependencies exist can be added. -/
theorem Linked.addNode {dag dag' : DAG} {node : DAGNode} (h : dag.Linked)
    (hadd : dag.addNode node = some dag') (hdeps : ∀ dep ∈ node.dependsOn, dep ∈ dag.ids) :
    dag'.Linked where
  depsExist := by
    intro nodeId dep hdep
    rw [ids_addNode hadd, List.mem_append]
    rw [deps_addNode hadd] at hdep
    split at hdep
    · exact Or.inl (hdeps dep hdep)
    · exact Or.inl (h.depsExist nodeId dep hdep)
  children := by
    intro parent child hdep
    rw [mem_children_addNode hadd]
    rw [deps_addNode hadd] at hdep
    split at hdep
    · rename_i heq
      exact Or.inr ⟨heq, hdep⟩
    · exact Or.inl (h.children parent child hdep)

/-- The statuses are those of a scheduler that takes up ready nodes only. -/
structure Grounded (dag : DAG) : Prop where
  linked : dag.Linked
  closed : dag.FailureClosed
  known : ∀ nodeId status, dag.status? nodeId = some status → IsQuiet status ∨ status = .running
  met : ∀ nodeId status, dag.status? nodeId = some status → IsTaken status →
    ∀ dep ∈ dag.deps nodeId, dag.status? dep = some .completed

/-- A completed node stays completed when another one fails. -/
theorem completed_markFailed {dag : DAG} {nodeId dep : String} (hne : dep ≠ nodeId)
    (hdep : dag.status? dep = some .completed) (error : Option String) :
    (dag.markFailed nodeId error).status? dep = some .completed := by
  obtain ⟨node, hnode, hstatus⟩ := status?_eq_some_iff.1 hdep
  refine status?_eq_some_iff.2 ⟨node, ?_, hstatus⟩
  refine node?_markFailed_of_not_skippable dag nodeId error hne hnode ?_
  rw [hstatus]
  decide

namespace Grounded

variable {dag dag' : DAG} {nodeId : String}

/-- A node that is not completed has no dependent that was taken up. -/
theorem untaken (h : dag.Grounded) (hnot : dag.status? nodeId ≠ some .completed) :
    dag.Untaken nodeId := by
  intro other hother hdep htaken
  have hnode : dag.node? other.nodeId = some other := node?_of_mem hother
  have hstatus : dag.status? other.nodeId = some other.status :=
    status?_eq_some_iff.2 ⟨other, hnode, rfl⟩
  rw [← deps_of_node? hnode] at hdep
  exact hnot (h.met other.nodeId other.status hstatus htaken nodeId hdep)

/-- A node with completed dependencies and without a dependent that was taken
up gets a status other than those of a failure. -/
theorem assign {status : TaskStatus} (h : dag.Grounded) (hshape : SameShape dag dag')
    (hstatus : ∀ other, dag'.status? other =
      if other = nodeId then (dag.status? other).map (fun _ => status) else dag.status? other)
    (hknown : IsQuiet status ∨ status = .running) (hfailed : status ≠ .failed)
    (hskipped : status ≠ .skipped) (hself : nodeId ∉ dag.deps nodeId)
    (hdeps : ∀ dep ∈ dag.deps nodeId, dag.status? dep = some .completed)
    (huntaken : dag.Untaken nodeId) : dag'.Grounded where
  linked := h.linked.of_shape hshape
  closed := by
    intro other otherStatus hother hstart dep hdep
    rw [hshape.deps] at hdep
    rw [hstatus] at hother ⊢
    by_cases hself : dep = nodeId
    · rw [if_pos hself]
      cases dag.status? dep with
      | none => exact ⟨by simp, by simp⟩
      | some _ => exact ⟨by simpa using hfailed, by simpa using hskipped⟩
    · rw [if_neg hself]
      by_cases heq : other = nodeId
      · rw [heq] at hdep
        rw [hdeps dep hdep]
        exact ⟨by simp, by simp⟩
      · rw [if_neg heq] at hother
        exact h.closed other otherStatus hother hstart dep hdep
  known := by
    intro other otherStatus hother
    rw [hstatus] at hother
    split at hother
    · obtain ⟨_, -, rfl⟩ := Option.map_eq_some_iff.1 hother
      exact hknown
    · exact h.known other otherStatus hother
  met := by
    intro other otherStatus hother htaken dep hdep
    rw [hshape.deps] at hdep
    rw [hstatus] at hother ⊢
    by_cases heq : other = nodeId
    · rw [heq] at hdep
      have hne : dep ≠ nodeId := by
        rintro rfl
        exact hself hdep
      rw [if_neg hne]
      exact hdeps dep hdep
    · rw [if_neg heq] at hother
      have hne : dep ≠ nodeId := by
        rintro rfl
        exact huntaken.not_taken hdep hother htaken
      rw [if_neg hne]
      exact h.met other otherStatus hother htaken dep hdep

/-- A node without a dependent that was taken up fails. -/
theorem fail (h : dag.Grounded) (huntaken : dag.Untaken nodeId) (error : Option String) :
    (dag.markFailed nodeId error).Grounded where
  linked := h.linked.of_shape (sameShape_markFailed dag nodeId error)
  closed := h.closed.markFailed h.linked.children nodeId error
  known := by
    intro other status hother
    rcases status?_markFailed_cases dag nodeId error hother with ⟨-, rfl⟩ | ⟨-, rfl⟩ |
      ⟨-, -, hold⟩
    · exact Or.inl (Or.inr (by decide))
    · exact Or.inl (Or.inr (by decide))
    · exact h.known other status hold
  met := by
    intro other status hother htaken dep hdep
    rw [deps_markFailed] at hdep
    rcases status?_markFailed_cases dag nodeId error hother with ⟨-, rfl⟩ | ⟨-, rfl⟩ |
      ⟨-, -, hold⟩
    · exact absurd htaken (by decide)
    · exact absurd htaken (by decide)
    · have hne : dep ≠ nodeId := by
        rintro rfl
        exact huntaken.not_taken hdep hold htaken
      exact completed_markFailed hne (h.met other status hold htaken dep hdep) error

/-- A waiting node is added whose dependencies are completed. -/
theorem add {node : DAGNode} (h : dag.Grounded) (hadd : dag.addNode node = some dag')
    (hstart : node.status.IsStartable)
    (hdeps : ∀ dep ∈ node.dependsOn, dag.status? dep = some .completed) : dag'.Grounded where
  linked := h.linked.addNode hadd (fun dep hdep => mem_ids_of_status? (hdeps dep hdep))
  closed := h.closed.addNode h.linked.depsExist hadd hdeps
  known := by
    intro other status hother
    rw [status?_addNode hadd] at hother
    split at hother
    · cases hother
      exact Or.inl (Or.inl hstart)
    · exact h.known other status hother
  met := by
    intro other status hother htaken dep hdep
    rw [status?_addNode hadd] at hother
    rw [deps_addNode hadd] at hdep
    split at hdep
    · rw [status?_addNode_of_mem hadd (mem_ids_of_status? (hdeps dep hdep))]
      exact hdeps dep hdep
    · rename_i hne
      rw [if_neg hne] at hother
      rw [status?_addNode_of_mem hadd (h.linked.depsExist other dep hdep)]
      exact h.met other status hother htaken dep hdep

end Grounded

/-! ## The invariant between two operations -/

theorem Consistent.grounded {dag : DAG} (h : dag.Consistent) : dag.Grounded where
  linked := ⟨h.acyclic.depsExist, fun parent child => (h.acyclic.childrenIff parent child).2⟩
  closed := h.closed
  known := h.known
  met := h.met

namespace Consistent

variable {dag dag' : DAG} {nodeId : String}

/-- A node that is not completed has no dependent that was taken up. -/
theorem untaken (h : dag.Consistent) (hnot : dag.status? nodeId ≠ some .completed) :
    dag.Untaken nodeId := h.grounded.untaken hnot

/-- A grounded DAG on the same nodes is consistent if it has no cycle. -/
theorem of_grounded (hacyclic : dag.Acyclic) (h : dag.Grounded) : dag.Consistent :=
  ⟨hacyclic, h.closed, h.known, h.met⟩

theorem notMem_deps (h : dag.Consistent) : nodeId ∉ dag.deps nodeId := by
  intro hdep
  obtain ⟨rank, hrank⟩ := h.acyclic.ranked
  have hlt := hrank nodeId nodeId hdep
  omega

/-- A ready node waits, for completed dependencies only. -/
theorem of_ready (h : dag.Ready nodeId) :
    (∃ status, dag.status? nodeId = some status ∧ status.IsStartable) ∧
      ∀ dep ∈ dag.deps nodeId, dag.status? dep = some .completed := by
  obtain ⟨node, hmem, rfl⟩ := h
  obtain ⟨hnode, hready⟩ := mem_getReadyNodes.1 hmem
  rw [deps_of_node? hnode]
  exact ⟨⟨node.status, status?_eq_some_iff.2 ⟨node, hnode, rfl⟩, hready.1⟩, hready.2.2⟩

theorem untaken_of_ready (h : dag.Consistent) (hready : dag.Ready nodeId) :
    dag.Untaken nodeId := by
  refine h.untaken (fun hcompleted => ?_)
  obtain ⟨⟨status, hstatus, hstart⟩, -⟩ := of_ready hready
  rw [hcompleted] at hstatus
  cases hstatus
  exact absurd hstart (by decide)

theorem untaken_of_running (h : dag.Consistent) (hrunning : dag.status? nodeId = some .running) :
    dag.Untaken nodeId := by
  refine h.untaken (fun hcompleted => ?_)
  rw [hcompleted] at hrunning
  cases hrunning

/-- A node with completed dependencies and without a dependent that was taken
up gets a status other than those of a failure. -/
theorem assign {status : TaskStatus} (h : dag.Consistent) (hshape : SameShape dag dag')
    (hstatus : ∀ other, dag'.status? other =
      if other = nodeId then (dag.status? other).map (fun _ => status) else dag.status? other)
    (hknown : IsQuiet status ∨ status = .running) (hfailed : status ≠ .failed)
    (hskipped : status ≠ .skipped)
    (hdeps : ∀ dep ∈ dag.deps nodeId, dag.status? dep = some .completed)
    (huntaken : dag.Untaken nodeId) : dag'.Consistent :=
  of_grounded (h.acyclic.of_shape hshape.ids hshape.deps hshape.children)
    (h.grounded.assign hshape hstatus hknown hfailed hskipped h.notMem_deps hdeps huntaken)

/-- A node without a dependent that was taken up fails. -/
theorem fail (h : dag.Consistent) (huntaken : dag.Untaken nodeId) (error : Option String) :
    (dag.markFailed nodeId error).Consistent :=
  have hshape := sameShape_markFailed dag nodeId error
  of_grounded (h.acyclic.of_shape hshape.ids hshape.deps hshape.children)
    (h.grounded.fail huntaken error)

/-- A waiting node is added whose dependencies are completed. -/
theorem add {node : DAGNode} (h : dag.Consistent) (hadd : dag.addNode node = some dag')
    (hstart : node.status.IsStartable)
    (hdeps : ∀ dep ∈ node.dependsOn, dag.status? dep = some .completed) : dag'.Consistent :=
  of_grounded (h.acyclic.addNode hadd (fun dep hdep => mem_ids_of_status? (hdeps dep hdep)))
    (h.grounded.add hadd hstart hdeps)

/-- An operation that the scheduler applies keeps the invariant. -/
theorem run (h : dag.Consistent) {op : Operation} (hallowed : op.Allowed dag) :
    (op.run dag).Consistent := by
  cases op with
  | markRunning nodeId =>
    exact h.assign (sameShape_markRunning dag nodeId) (status?_markRunning dag nodeId)
      (Or.inr rfl) (by decide) (by decide) (of_ready hallowed).2 (h.untaken_of_ready hallowed)
  | markCompleted nodeId output =>
    have htaken : (∃ status, dag.status? nodeId = some status ∧ IsTaken status) ∧
        dag.Untaken nodeId := by
      rcases hallowed with hrunning | ⟨hcompleted, huntaken⟩
      · exact ⟨⟨_, hrunning, Or.inl rfl⟩, h.untaken_of_running hrunning⟩
      · exact ⟨⟨_, hcompleted, Or.inr rfl⟩, huntaken⟩
    obtain ⟨⟨status, hstatus, htaken⟩, huntaken⟩ := htaken
    exact h.assign (sameShape_markCompleted dag nodeId output)
      (status?_markCompleted dag nodeId output) (Or.inl (Or.inr (by decide))) (by decide)
      (by decide) (h.met nodeId status hstatus htaken) huntaken
  | markFailed nodeId error =>
    have huntaken : dag.Untaken nodeId := by
      rcases hallowed with hready | hrunning | ⟨-, huntaken⟩
      · exact h.untaken_of_ready hready
      · exact h.untaken_of_running hrunning
      · exact huntaken
    exact h.fail huntaken error
  | markPending nodeId =>
    obtain ⟨hcompleted, huntaken⟩ := hallowed
    exact h.assign (sameShape_markPending dag nodeId) (status?_markPending dag nodeId)
      (Or.inl (Or.inl (by decide))) (by decide) (by decide)
      (h.met nodeId _ hcompleted (Or.inr rfl)) huntaken
  | addNode node =>
    show ((dag.addNode node).getD dag).Consistent
    cases hadd : dag.addNode node with
    | none => exact h
    | some dag' => exact h.add hadd hallowed.1 hallowed.2

/-- Without a running node the DAG is complete or has a ready node. -/
theorem exists_ready (h : dag.Consistent)
    (hrunning : ∀ node ∈ dag.nodes, node.status ≠ .running) (hcomplete : dag.isComplete = false) :
    dag.getReadyNodes ≠ [] := by
  refine DAG.exists_ready h.acyclic h.closed (fun nodeId status hstatus => ?_) hcomplete
  rcases h.known nodeId status hstatus with hquiet | rfl
  · exact hquiet
  · obtain ⟨node, hnode, hstatus⟩ := status?_eq_some_iff.1 hstatus
    exact absurd hstatus (hrunning node (node?_eq_some_iff.1 hnode).1)

end Consistent

/-! ## Sequences of operations -/

/-- The DAG after the operations. -/
abbrev afterOperations (dag : DAG) (ops : List Operation) : DAG :=
  Transition.after Operation.run dag ops

/-- An accepted DAG starts out consistent. -/
theorem Begun.consistent {nodes : List DAGNode} {dag : DAG}
    (hnodup : (nodes.map DAGNode.nodeId).Nodup) (hnew : DAG.new nodes = .ok dag)
    (h : dag.Begun) : dag.Consistent where
  acyclic := acyclic_of_new hnodup hnew
  closed := h.closed
  known := fun _ _ hstatus => Or.inl (h.known hstatus)
  met := fun _ _ hstatus htaken => h.met_of_taken hstatus htaken

/-- What the scheduler relies on: a ready node has only completed dependencies,
and a DAG that is not complete and has no running node has a ready one. -/
structure Progresses (dag : DAG) : Prop where
  met : ∀ node ∈ dag.getReadyNodes, ∀ dep ∈ node.dependsOn, dag.status? dep = some .completed
  ready : (∀ node ∈ dag.nodes, node.status ≠ .running) → dag.isComplete = false →
    dag.getReadyNodes ≠ []

/-- The scheduler can rely on it after any sequence of its operations. -/
theorem progresses_of_operations (nodes : List DAGNode) (dag : DAG)
    (hnodup : (nodes.map DAGNode.nodeId).Nodup) (hnew : DAG.new nodes = .ok dag)
    (hbegun : dag.Begun) (ops : List Operation)
    (hallowed : ∀ step ∈ Transition.steps Operation.run dag ops, step.2.Allowed step.1) :
    (dag.afterOperations ops).Progresses := by
  have hconsistent : (dag.afterOperations ops).Consistent :=
    Transition.after_invariant (I := Consistent) (P := fun step => step.2.Allowed step.1)
      (fun _ _ hallowed h => h.run hallowed) hallowed (hbegun.consistent hnodup hnew)
  refine ⟨fun node hnode => ?_, hconsistent.exists_ready⟩
  exact (mem_getReadyNodes.1 hnode).2.2.2

/-! ## A run with a retry, an alternative and a failure -/

namespace OperationsExample

/-- A node that depends on the others. -/
def node (nodeId : String) (dependsOn : List String) : DAGNode where
  nodeId := nodeId
  capability := "summarization"
  description := ""
  dependsOn := dependsOn

/-- One node after the other. -/
def chain : List DAGNode := [node "a" [], node "b" ["a"], node "c" ["b"]]

/-- The DAG of these nodes. -/
def start : DAG := ofNodes chain

/-- The first node is retried, the second gets an alternative and fails after
its completion. -/
def operations : List Operation :=
  [ .markRunning "a", .markCompleted "a" none, .markPending "a", .markRunning "a"
  , .markCompleted "a" none, .markRunning "b", .markCompleted "b" none
  , .addNode (node "b_alt" ["a"]), .markFailed "b" none ]

end OperationsExample

open OperationsExample in
/-- The run ends with the alternative as the only ready node. -/
theorem progresses_of_alternative :
    (start.afterOperations operations).getReadyNodes.map DAGNode.nodeId = ["b_alt"] ∧
      (start.afterOperations operations).isComplete = false ∧
      (start.afterOperations operations).Progresses := by
  refine ⟨by decide, by decide, ?_⟩
  exact progresses_of_operations chain start (by decide) rfl (begun_of_startable (by decide))
    operations (by decide)

end DAG

end MassClaw
