import MassClaw.Dag.Engaged
import MassClaw.Dag.Revalidation
import MassClaw.Dag.Snapshot

/-!
# What `mark_failed` skips, in a DAG of the scheduler

The cascade of `mark_failed` follows the adjacency lists and stops at a node
that is not waiting, so it can only skip descendants.  That it misses none of
them rests on the states it is called in: nothing waits behind a node that has
failed or was skipped, and a node that runs or is completed has no unfinished
node before it.

`SchedulerStep` is every change that the scheduler makes to its DAG, over pauses
and resumed runs, and `Consistent` is what all of them keep.
-/

namespace MassClaw

namespace DAG

/-! ## The cascade skips descendants only -/

/-- What is due or skipped is behind the failed node. -/
structure Behind (base : DAG) (failedId : String) (queue : List String) (c : Cascade) : Prop where
  edges : c.dag.edges = base.edges
  queue : ∀ nodeId ∈ queue,
    Relation.TransGen (fun parent child => child ∈ base.children parent) failedId nodeId
  skipped : ∀ nodeId ∈ c.skipped,
    Relation.TransGen (fun parent child => child ∈ base.children parent) failedId nodeId

theorem Behind.step {base : DAG} {failedId childId : String} {queue : List String} {c : Cascade}
    (h : Behind base failedId (childId :: queue) c) :
    Behind base failedId (queue ++ (skipStep failedId childId c).2)
      (skipStep failedId childId c).1 := by
  have hrest : ∀ nodeId ∈ queue,
      Relation.TransGen (fun parent child => child ∈ base.children parent) failedId nodeId :=
    fun nodeId hmem => h.queue nodeId (List.mem_cons_of_mem _ hmem)
  have hchild := h.queue childId List.mem_cons_self
  rcases skipStep_cases failedId childId c with ⟨-, heq⟩ | ⟨-, -, heq⟩ | ⟨_, -, -, -, heq⟩
  · rw [heq, List.append_nil]
    exact ⟨h.edges, hrest, h.skipped⟩
  · rw [heq, List.append_nil]
    exact ⟨h.edges, hrest, h.skipped⟩
  · rw [heq]
    refine ⟨h.edges, fun nodeId hmem => ?_, fun nodeId hmem => ?_⟩
    · rcases List.mem_append.1 hmem with hold | hnew
      · exact hrest nodeId hold
      · refine hchild.tail ?_
        have hsame : c.dag.children childId = base.children childId := by
          rw [children, children, h.edges]
        rw [← hsame]
        exact hnew
    · rcases List.mem_append.1 hmem with hold | hnew
      · exact h.skipped nodeId hold
      · rw [List.mem_singleton.1 hnew]
        exact hchild

/-- A skipped node is behind the failed one. -/
theorem behind_of_skippedBy {dag : DAG} {nodeId other : String} {error : Option String}
    (h : other ∈ dag.skippedBy nodeId error) :
    Relation.TransGen (fun parent child => child ∈ dag.children parent) nodeId other := by
  have hbehind : Behind dag nodeId [] (dag.markFailedCascade nodeId error) := by
    refine markFailedCascade_induction (fun child queue c hold => hold.step) ⟨rfl, ?_, ?_⟩
    · exact fun child hchild => Relation.TransGen.single hchild
    · exact fun child hchild => absurd hchild List.not_mem_nil
  exact hbehind.skipped other h

/-! ## The states of the scheduler -/

/-- A DAG that the scheduler is given: accepted with distinct ids, and not
started, or stopped between two batches. -/
def Given (dag : DAG) : Prop := dag.Accepted ∧ dag.Begun

/-- A batch is at work on the node: it waits or runs, and what it waits for is
completed. -/
structure AtWork (dag : DAG) (nodeId : String) : Prop where
  live : ∃ status, dag.status? nodeId = some status ∧ (status.IsStartable ∨ status = .running)
  met : ∀ dep ∈ dag.deps nodeId, dag.status? dep = some .completed

/-- The nodes to which a run applies each operation.  A node that the approval
gate has reset can still be called, and is completed or failed as it waits. -/
def Operation.Applies (dag : DAG) : Operation → Prop
  | markRunning nodeId => dag.AtWork nodeId
  | markCompleted nodeId _ => dag.AtWork nodeId ∨ dag.JustCompleted nodeId
  | markFailed nodeId _ => dag.AtWork nodeId ∨ dag.JustCompleted nodeId
  | markPending nodeId => dag.AtWork nodeId ∨ dag.JustCompleted nodeId
  | addNode node =>
    node.status.IsStartable ∧ ∀ dep ∈ node.dependsOn, dag.status? dep = some .completed

/-- The changes of the DAG in a run and the runs resumed from it. -/
inductive SchedulerStep : DAG → DAG → Prop
  | operation {dag : DAG} (op : Operation) (happlies : op.Applies dag) :
    SchedulerStep dag (op.run dag)
  /-- A task row or an agent is assigned to a node. -/
  | assigned {dag : DAG} (nodeId : String) {f : DAGNode → DAGNode}
    (hf : ∀ node, (f node).nodeId = node.nodeId ∧ (f node).dependsOn = node.dependsOn ∧
      (f node).status = node.status) : SchedulerStep dag (dag.modify nodeId f)
  /-- A resumed run reads the stored DAG back. -/
  | resumed {dag rebuilt : DAG} (hread : fromDict dag.toDict = .ok rebuilt) :
    SchedulerStep dag rebuilt

section AtWork

variable {dag : DAG} {nodeId : String}

theorem AtWork.of_ready (h : dag.Ready nodeId) : dag.AtWork nodeId := by
  obtain ⟨⟨status, hstatus, hstart⟩, hmet⟩ := Consistent.of_ready h
  exact ⟨⟨status, hstatus, Or.inl hstart⟩, hmet⟩

theorem Consistent.atWork_of_running (h : dag.Consistent)
    (hrunning : dag.status? nodeId = some .running) : dag.AtWork nodeId :=
  ⟨⟨_, hrunning, Or.inr rfl⟩, h.met nodeId _ hrunning (Or.inl rfl)⟩

theorem AtWork.mem_ids (h : dag.AtWork nodeId) : nodeId ∈ dag.ids := by
  obtain ⟨status, hstatus, -⟩ := h.live
  exact mem_ids_of_status? hstatus

theorem AtWork.not_completed (h : dag.AtWork nodeId) : dag.status? nodeId ≠ some .completed := by
  obtain ⟨status, hstatus, hlive⟩ := h.live
  rw [hstatus]
  intro hcompleted
  cases hcompleted
  exact absurd hlive (by decide)

/-- What an operation of the scheduler can be applied to. -/
theorem Consistent.applies {op : Operation} (h : dag.Consistent) (hallowed : op.Allowed dag) :
    op.Applies dag := by
  cases op with
  | markRunning nodeId => exact .of_ready hallowed
  | markCompleted nodeId output => exact hallowed.imp h.atWork_of_running id
  | markFailed nodeId error =>
    rcases hallowed with hready | hrunning | hcompleted
    · exact Or.inl (.of_ready hready)
    · exact Or.inl (h.atWork_of_running hrunning)
    · exact Or.inr hcompleted
  | markPending nodeId => exact Or.inr hallowed
  | addNode node => exact hallowed

/-- Nothing is built on a node that a run applies an operation to. -/
theorem Consistent.of_applies (h : dag.Consistent)
    (happlies : dag.AtWork nodeId ∨ dag.JustCompleted nodeId) :
    nodeId ∈ dag.ids ∧ dag.Untaken nodeId ∧
      ∀ dep ∈ dag.deps nodeId, dag.status? dep = some .completed := by
  rcases happlies with hwork | ⟨hcompleted, huntaken⟩
  · exact ⟨hwork.mem_ids, h.untaken hwork.not_completed, hwork.met⟩
  · exact ⟨mem_ids_of_status? hcompleted, huntaken, h.met nodeId _ hcompleted (Or.inr rfl)⟩

end AtWork

/-- An assignment to attributes that the scheduler does not decide by. -/
theorem Consistent.modify {dag : DAG} (h : dag.Consistent) {nodeId : String}
    {f : DAGNode → DAGNode} (hid : ∀ node, (f node).nodeId = node.nodeId)
    (hdeps : ∀ node, (f node).dependsOn = node.dependsOn)
    (hstatus : ∀ node, (f node).status = node.status) : (dag.modify nodeId f).Consistent := by
  have hshape : SameShape dag (dag.modify nodeId f) :=
    ⟨ids_modify dag nodeId, deps_modify dag nodeId hid hdeps, children_modify dag nodeId⟩
  have hsame : ∀ other, (dag.modify nodeId f).status? other = dag.status? other := by
    intro other
    unfold status?
    rw [node?_modify dag nodeId hid]
    split
    · cases dag.node? other with
      | none => rfl
      | some node =>
        show some (f node).status = some node.status
        rw [hstatus]
    · rfl
  exact Consistent.of_grounded (h.acyclic.of_shape hshape.ids hshape.deps hshape.children)
    (h.grounded.of_same hshape hsame)

/-- A stored DAG has the nodes that it had. -/
theorem nodes_of_resumed {dag rebuilt : DAG} (hread : fromDict dag.toDict = .ok rebuilt) :
    DAG.new dag.nodes = .ok rebuilt ∧ rebuilt.nodes = dag.nodes := by
  rw [fromDict_toDict] at hread
  cases hnew : DAG.new dag.nodes with
  | error error =>
    rw [hnew] at hread
    cases hread
  | ok built =>
    rw [hnew] at hread
    cases hread
    refine ⟨rfl, ?_⟩
    rw [(new_eq_ok hnew).1]
    exact nodeDict_of_nodup dag.nodup

theorem Consistent.resumed {dag rebuilt : DAG} (h : dag.Consistent)
    (hread : fromDict dag.toDict = .ok rebuilt) : rebuilt.Consistent := by
  obtain ⟨hnew, hnodes⟩ := nodes_of_resumed hread
  have hnode : ∀ nodeId, rebuilt.node? nodeId = dag.node? nodeId := by
    intro nodeId
    unfold node?
    rw [hnodes]
  have hstatus : ∀ nodeId, rebuilt.status? nodeId = dag.status? nodeId := by
    intro nodeId
    unfold status?
    rw [hnode]
  have hdeps : ∀ nodeId, rebuilt.deps nodeId = dag.deps nodeId := by
    intro nodeId
    unfold deps
    rw [hnode]
  refine ⟨acyclic_of_new dag.nodup hnew, ?_, ?_, ?_⟩
  · intro nodeId status hnow hstart dep hdep
    rw [hstatus] at hnow ⊢
    rw [hdeps] at hdep
    exact h.closed nodeId status hnow hstart dep hdep
  · intro nodeId status hnow
    rw [hstatus] at hnow
    exact h.known nodeId status hnow
  · intro nodeId status hnow htaken dep hdep
    rw [hstatus] at hnow ⊢
    rw [hdeps] at hdep
    exact h.met nodeId status hnow htaken dep hdep

/-- An operation of a run keeps the invariant. -/
theorem Consistent.apply {dag : DAG} (h : dag.Consistent) {op : Operation}
    (happlies : op.Applies dag) : (op.run dag).Consistent := by
  cases op with
  | markRunning nodeId =>
    obtain ⟨-, huntaken, hmet⟩ := h.of_applies (Or.inl happlies)
    exact h.assign (sameShape_markRunning dag nodeId) (status?_markRunning dag nodeId)
      (Or.inr rfl) (by decide) (by decide) hmet huntaken
  | markCompleted nodeId output =>
    obtain ⟨-, huntaken, hmet⟩ := h.of_applies happlies
    exact h.assign (sameShape_markCompleted dag nodeId output)
      (status?_markCompleted dag nodeId output) (Or.inl (Or.inr (by decide))) (by decide)
      (by decide) hmet huntaken
  | markFailed nodeId error => exact h.fail (h.of_applies happlies).2.1 error
  | markPending nodeId =>
    obtain ⟨-, huntaken, hmet⟩ := h.of_applies happlies
    exact h.assign (sameShape_markPending dag nodeId) (status?_markPending dag nodeId)
      (Or.inl (Or.inl (by decide))) (by decide) (by decide) hmet huntaken
  | addNode node => exact h.run happlies

theorem Consistent.step {dag dag' : DAG} (h : dag.Consistent) (hstep : SchedulerStep dag dag') :
    dag'.Consistent := by
  cases hstep with
  | operation op happlies => exact h.apply happlies
  | assigned nodeId hf =>
    exact h.modify (fun node => (hf node).1) (fun node => (hf node).2.1)
      (fun node => (hf node).2.2)
  | resumed hread => exact h.resumed hread

/-- The invariant holds whatever the scheduler has done. -/
theorem consistent_of_reachable {dag : DAG} (h : Transition.Reachable Given SchedulerStep dag) :
    dag.Consistent := by
  refine h.invariant (fun start hgiven => ?_) (fun _ _ hold hstep => hold.step hstep)
  obtain ⟨⟨nodes, hnodup, hnew⟩, hbegun⟩ := hgiven
  exact hbegun.consistent hnodup hnew

/-- The operations of a run lead to states of the scheduler. -/
theorem reachable_afterOperations {dag : DAG} (h : Transition.Reachable Given SchedulerStep dag)
    {ops : List Operation}
    (hallowed : ∀ step ∈ Transition.steps Operation.run dag ops, step.2.Allowed step.1) :
    Transition.Reachable Given SchedulerStep (dag.afterOperations ops) :=
  Transition.after_invariant (I := Transition.Reachable Given SchedulerStep)
    (P := fun step => step.2.Allowed step.1)
    (fun _ op hallowed hold =>
      hold.next (.operation op ((consistent_of_reachable hold).applies hallowed))) hallowed h

/-! ## The descendants of a failed node -/

/-- `mark_failed` skips the waiting descendants, each once, and leaves every
other node but the failed one. -/
structure SkipsDescendants (dag : DAG) (nodeId : String) (error : Option String) : Prop where
  returned : ∀ other, other ∈ dag.skippedBy nodeId error ↔
    dag.IsDescendant nodeId other ∧
      ∃ status, dag.status? other = some status ∧ IsSkippable status
  once : (dag.skippedBy nodeId error).Nodup
  skipped : ∀ other ∈ dag.skippedBy nodeId error,
    (dag.markFailed nodeId error).node? other = (dag.node? other).map (skipNode nodeId)
  unchanged : ∀ other, other ≠ nodeId → other ∉ dag.skippedBy nodeId error →
    (dag.markFailed nodeId error).node? other = dag.node? other
  shape : SameShape dag (dag.markFailed nodeId error)

/-- The ways of the adjacency lists are those of the dependencies. -/
theorem Consistent.isDescendant_of_behind {dag : DAG} (h : dag.Consistent) {ancestor other : String}
    (hbehind : Relation.TransGen (fun parent child => child ∈ dag.children parent) ancestor other) :
    dag.IsDescendant ancestor other :=
  Relation.TransGen.mono (fun parent child hchild => (h.acyclic.childrenIff parent child).1 hchild)
    _ _ hbehind

/-- No node waits for itself. -/
theorem Consistent.not_isDescendant_self {dag : DAG} (h : dag.Consistent) (nodeId : String) :
    ¬dag.IsDescendant nodeId nodeId := by
  obtain ⟨rank, hrank⟩ := h.acyclic.ranked
  have hlt : ∀ {ancestor other : String}, dag.IsDescendant ancestor other →
      rank ancestor < rank other := by
    intro ancestor other hother
    induction hother with
    | single hdep => exact hrank _ _ hdep
    | tail _ hdep ih => exact ih.trans (hrank _ _ hdep)
  intro hself
  exact absurd (hlt hself) (Nat.lt_irrefl _)

section MarkFailed

variable {dag : DAG} {nodeId : String}

/-- A waiting descendant is skipped: afterwards it waits no longer. -/
theorem Consistent.mem_skippedBy (h : dag.Consistent) (hmem : nodeId ∈ dag.ids)
    (huntaken : dag.Untaken nodeId) (error : Option String) {other : String}
    (hother : dag.IsDescendant nodeId other) {status : TaskStatus}
    (hstatus : dag.status? other = some status) (hskip : IsSkippable status) :
    other ∈ dag.skippedBy nodeId error := by
  have hafter : (dag.markFailed nodeId error).Grounded := h.grounded.fail huntaken error
  have hdescendant : (dag.markFailed nodeId error).IsDescendant nodeId other := by
    refine Relation.TransGen.mono (fun parent child hdep => ?_) _ _ hother
    rw [deps_markFailed]
    exact hdep
  have hne : other ≠ nodeId := fun heq => h.not_isDescendant_self nodeId (heq ▸ hother)
  have hgone := hafter.descendant (status?_markFailed_self hmem error) hdescendant
  by_contra hkept
  have hsame : (dag.markFailed nodeId error).status? other = some status := by
    unfold status? at hstatus ⊢
    rw [node?_markFailed, if_neg hkept, node?_modify_ne _ _ (failNode_nodeId error) hne]
    exact hstatus
  rw [hsame] at hgone
  rcases hgone with heq | heq
  · cases heq
    exact absurd hskip (by decide)
  · cases heq
    exact absurd hskip (by decide)

/-- A failure skips the waiting descendants in every state of the scheduler. -/
theorem skipsDescendants_of_reachable (dag : DAG)
    (hreachable : Transition.Reachable Given SchedulerStep dag) (nodeId : String)
    (error : Option String) (hfails : (Operation.markFailed nodeId error).Applies dag) :
    SkipsDescendants dag nodeId error := by
  have h := consistent_of_reachable hreachable
  obtain ⟨hmem, huntaken, -⟩ := h.of_applies hfails
  refine ⟨fun other => ⟨fun hskipped => ?_, fun hwaits => ?_⟩,
    (markFailedCascade_inv dag nodeId error).nodup, fun other hskipped => ?_,
    fun other hne hkept => ?_, sameShape_markFailed dag nodeId error⟩
  · exact ⟨h.isDescendant_of_behind (behind_of_skippedBy hskipped),
      (skippedBy_startable dag nodeId error hskipped).2⟩
  · obtain ⟨hother, status, hstatus, hskip⟩ := hwaits
    exact h.mem_skippedBy hmem huntaken error hother hstatus hskip
  · have hne := (skippedBy_startable dag nodeId error hskipped).1
    rw [node?_markFailed, if_pos hskipped, node?_modify_ne _ _ (failNode_nodeId error) hne]
  · rw [node?_markFailed, if_neg hkept, node?_modify_ne _ _ (failNode_nodeId error) hne]

end MarkFailed

/-! ## A diamond with a retry and an alternative -/

namespace DescendantsExample

open OperationsExample (node)

/-- Two nodes between the first and the fourth, and one behind it. -/
def diamond : List DAGNode :=
  [node "a" [], node "b" ["a"], node "c" ["a"], node "d" ["b", "c"], node "e" ["d"]]

/-- The first node is retried, both middle nodes run, and one of them has got an
alternative. -/
def operations : List Operation :=
  [ .markRunning "a", .markCompleted "a" none, .markPending "a", .markRunning "a"
  , .markCompleted "a" none, .markRunning "b", .markRunning "c", .addNode (node "b_alt" ["a"]) ]

end DescendantsExample

open DescendantsExample in
/-- The failure of one middle node reaches the nodes behind the other one, too. -/
theorem skipsDescendants_of_diamond :
    ((ofNodes diamond).afterOperations operations).skippedBy "b" none = ["d", "e"] ∧
      SkipsDescendants ((ofNodes diamond).afterOperations operations) "b" none := by
  have hgiven : Given (ofNodes diamond) :=
    ⟨⟨diamond, by decide, rfl⟩, begun_of_startable (by decide)⟩
  have hreachable : Transition.Reachable Given SchedulerStep
      ((ofNodes diamond).afterOperations operations) :=
    reachable_afterOperations (.start hgiven) (by decide)
  have hrunning : (Operation.markFailed "b" none).Allowed
      ((ofNodes diamond).afterOperations operations) := Or.inr (Or.inl (by decide))
  exact ⟨by decide, skipsDescendants_of_reachable _ hreachable "b" none
    ((consistent_of_reachable hreachable).applies hrunning)⟩

end DAG

end MassClaw
