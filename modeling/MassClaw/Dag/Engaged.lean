import Mathlib.Logic.Relation
import MassClaw.Dag.Operations

/-!
# A DAG with some nodes at work

`Engaged` extends `Grounded` by the nodes that a batch is at work on, and by why
a node has failed: it was taken up, so its dependencies were completed, or it had
failed before the run.  From a failed node on, every descendant is therefore
skipped, unless it had failed before the run.
-/

namespace MassClaw

namespace DAG

/-- The dictionary holds nodes of the list. -/
theorem mem_of_mem_nodeDict {nodes : List DAGNode} {node : DAGNode} (h : node ∈ nodeDict nodes) :
    node ∈ nodes := by
  have haux : ∀ (rest acc : List DAGNode), node ∈ rest.foldl insertNode acc →
      node ∈ acc ∨ node ∈ rest := by
    intro rest
    induction rest with
    | nil => exact fun acc hmem => Or.inl hmem
    | cons head rest ih =>
      intro acc hmem
      rcases ih _ hmem with hacc | hrest
      · unfold insertNode at hacc
        split at hacc
        · obtain ⟨old, hold, heq⟩ := List.mem_map.1 hacc
          split at heq
          · rw [← heq]
            exact Or.inr List.mem_cons_self
          · rw [← heq]
            exact Or.inl hold
        · rcases List.mem_append.1 hacc with hold | hnew
          · exact Or.inl hold
          · rw [List.mem_singleton.1 hnew]
            exact Or.inr List.mem_cons_self
      · exact Or.inr (List.mem_cons_of_mem _ hrest)
  exact (haux nodes [] h).resolve_left List.not_mem_nil

/-- The dependencies of an accepted list exist. -/
theorem depsExist_of_new {nodes : List DAGNode} {dag : DAG} (h : DAG.new nodes = .ok dag)
    (nodeId : String) : ∀ dep ∈ dag.deps nodeId, dep ∈ dag.ids := by
  obtain ⟨rfl, hvalid⟩ := new_eq_ok h
  have hmissing := (validate_eq_ok hvalid).1
  intro dep hdep
  cases hnode : (ofNodes nodes).node? nodeId with
  | none =>
    rw [deps, hnode] at hdep
    cases hdep
  | some node =>
    rw [deps_of_node? hnode] at hdep
    unfold missingDependency? at hmissing
    have hnone := List.findSome?_eq_none_iff.1 hmissing node (node?_eq_some_iff.1 hnode).1
    rw [Option.map_eq_none_iff, List.find?_eq_none] at hnone
    simpa using hnone dep hdep

/-- Every dependency of a surviving node is turned around. -/
theorem children_ofNodes {nodes : List DAGNode} {parent child : String}
    (h : parent ∈ (ofNodes nodes).deps child) : child ∈ (ofNodes nodes).children parent := by
  cases hnode : (ofNodes nodes).node? child with
  | none =>
    rw [deps, hnode] at h
    cases h
  | some node =>
    rw [deps_of_node? hnode] at h
    obtain ⟨hmem, rfl⟩ := node?_eq_some_iff.1 hnode
    refine List.mem_map.2 ⟨(parent, node.nodeId), List.mem_filter.2 ⟨?_, by simp⟩, rfl⟩
    exact List.mem_flatMap.2 ⟨node, mem_of_mem_nodeDict hmem, List.mem_map_of_mem h⟩

/-- An accepted list starts out grounded, whatever its ids. -/
theorem Begun.grounded {nodes : List DAGNode} {dag : DAG} (hnew : DAG.new nodes = .ok dag)
    (h : dag.Begun) : dag.Grounded where
  linked := by
    refine ⟨depsExist_of_new hnew, ?_⟩
    obtain ⟨rfl, -⟩ := new_eq_ok hnew
    exact fun parent child => children_ofNodes
  closed := h.closed
  known := fun _ _ hstatus => Or.inl (h.known hstatus)
  met := fun _ _ hstatus htaken => h.met_of_taken hstatus htaken

/-- The scheduler is at work on the nodes `active`, in a run that began with
`start`. -/
structure Engaged (start dag : DAG) (active : Set String) : Prop where
  grounded : dag.Grounded
  present : ∀ nodeId ∈ active, nodeId ∈ dag.ids
  met : ∀ nodeId ∈ active, ∀ dep ∈ dag.deps nodeId, dag.status? dep = some .completed
  undone : ∀ nodeId ∈ active, dag.status? nodeId ≠ some .completed
  failedMet : ∀ nodeId, dag.status? nodeId = some .failed →
    start.status? nodeId = some .failed ∨
      ∀ dep ∈ dag.deps nodeId, dag.status? dep = some .completed

/-- The node waits for the other one, through any number of nodes. -/
def IsDescendant (dag : DAG) (ancestor nodeId : String) : Prop :=
  Relation.TransGen (fun parent child => parent ∈ dag.deps child) ancestor nodeId

namespace Grounded

variable {dag dag' : DAG} {nodeId : String}

/-- Only the statuses and the shape matter. -/
theorem of_same (h : dag.Grounded) (hshape : SameShape dag dag')
    (hstatus : ∀ other, dag'.status? other = dag.status? other) : dag'.Grounded where
  linked := h.linked.of_shape hshape
  closed := by
    intro other status hother hstart dep hdep
    rw [hstatus] at hother ⊢
    rw [hshape.deps] at hdep
    exact h.closed other status hother hstart dep hdep
  known := by
    intro other status hother
    rw [hstatus] at hother
    exact h.known other status hother
  met := by
    intro other status hother htaken dep hdep
    rw [hstatus] at hother ⊢
    rw [hshape.deps] at hdep
    exact h.met other status hother htaken dep hdep

/-- What waits for a failed or skipped node is failed or skipped. -/
theorem unreached (h : dag.Grounded) {parent child : String}
    (hparent : dag.status? parent = some .failed ∨ dag.status? parent = some .skipped)
    (hdep : parent ∈ dag.deps child) :
    dag.status? child = some .failed ∨ dag.status? child = some .skipped := by
  have hnot : dag.status? parent ≠ some .completed := by
    intro hcompleted
    rcases hparent with hstatus | hstatus
    · rw [hstatus] at hcompleted
      cases hcompleted
    · rw [hstatus] at hcompleted
      cases hcompleted
  cases hchild : dag.status? child with
  | none =>
    have hnone : dag.node? child = none := by
      simpa [status?] using hchild
    rw [deps, hnone] at hdep
    cases hdep
  | some status =>
    have htaken : ¬IsTaken status :=
      fun htaken => hnot (h.met child status hchild htaken parent hdep)
    have hstart : ¬status.IsStartable := by
      intro hstart
      obtain ⟨hfailed, hskipped⟩ := h.closed child status hchild hstart parent hdep
      rcases hparent with hstatus | hstatus
      · exact hfailed hstatus
      · exact hskipped hstatus
    rcases h.known child status hchild with (hwaits | hterminal) | rfl
    · exact absurd hwaits hstart
    · rcases hterminal with rfl | rfl | rfl
      · exact absurd (Or.inr rfl) htaken
      · exact Or.inl rfl
      · exact Or.inr rfl
    · exact absurd (Or.inl rfl) htaken

/-- Every descendant of a failed node is failed or skipped. -/
theorem descendant (h : dag.Grounded) {other : String}
    (hfailed : dag.status? nodeId = some .failed) (hother : dag.IsDescendant nodeId other) :
    dag.status? other = some .failed ∨ dag.status? other = some .skipped := by
  induction hother with
  | single hdep => exact h.unreached (Or.inl hfailed) hdep
  | tail _ hdep ih => exact h.unreached ih hdep

end Grounded

/-- The node itself has failed after `mark_failed`. -/
theorem status?_markFailed_self {dag : DAG} {nodeId : String} (h : nodeId ∈ dag.ids)
    (error : Option String) : (dag.markFailed nodeId error).status? nodeId = some .failed := by
  have hmem : nodeId ∈ (dag.markFailed nodeId error).ids := by
    rw [ids_markFailed]
    exact h
  obtain ⟨node, hnode⟩ := mem_ids_iff.1 hmem
  have hstatus := status?_eq_some_iff.2 ⟨node, hnode, rfl⟩
  rcases status?_markFailed_cases dag nodeId error hstatus with ⟨-, heq⟩ | ⟨hskip, -⟩ | ⟨hne, -⟩
  · rw [hstatus, heq]
  · exact absurd rfl (skippedBy_startable dag nodeId error hskip).1
  · exact absurd rfl hne

namespace Engaged

variable {start dag dag' : DAG} {active : Set String} {nodeId : String}

/-- A run begins without a node at work. -/
theorem of_grounded (h : dag.Grounded) : Engaged dag dag ∅ where
  grounded := h
  present := fun _ hmem => absurd hmem (Set.notMem_empty _)
  met := fun _ hmem => absurd hmem (Set.notMem_empty _)
  undone := fun _ hmem => absurd hmem (Set.notMem_empty _)
  failedMet := fun _ hfailed => Or.inl hfailed

/-- Fewer nodes at work. -/
theorem mono {active' : Set String} (h : Engaged start dag active)
    (hsub : ∀ other ∈ active', other ∈ active) : Engaged start dag active' where
  grounded := h.grounded
  present := fun other hother => h.present other (hsub other hother)
  met := fun other hother => h.met other (hsub other hother)
  undone := fun other hother => h.undone other (hsub other hother)
  failedMet := h.failedMet

theorem setTaskId (h : Engaged start dag active) (taskId : UUID) :
    Engaged start (dag.setTaskId nodeId taskId) active := by
  have hshape := sameShape_setTaskId dag nodeId taskId
  have hstatus := status?_setTaskId dag nodeId taskId
  refine ⟨h.grounded.of_same hshape hstatus, ?_, ?_, ?_, ?_⟩
  · rw [hshape.ids]
    exact h.present
  · intro other hother dep hdep
    rw [hshape.deps] at hdep
    rw [hstatus]
    exact h.met other hother dep hdep
  · intro other hother
    rw [hstatus]
    exact h.undone other hother
  · intro other hother
    rw [hstatus] at hother
    refine (h.failedMet other hother).imp id (fun hdeps dep hdep => ?_)
    rw [hshape.deps] at hdep
    rw [hstatus]
    exact hdeps dep hdep

/-- A completed node is not the one at work. -/
theorem ne_of_completed (h : Engaged start dag active) (hactive : nodeId ∈ active) {dep : String}
    (hdep : dag.status? dep = some .completed) : dep ≠ nodeId := by
  rintro rfl
  exact h.undone dep hactive hdep

/-- A node at work gets a status other than those of a failure; it stays at work
unless it is completed. -/
theorem assign {status : TaskStatus} {active' : Set String} (h : Engaged start dag active)
    (hactive : nodeId ∈ active) (hshape : SameShape dag dag')
    (hstatus : ∀ other, dag'.status? other =
      if other = nodeId then (dag.status? other).map (fun _ => status) else dag.status? other)
    (hknown : IsQuiet status ∨ status = .running) (hfailed : status ≠ .failed)
    (hskipped : status ≠ .skipped) (hsub : ∀ other ∈ active', other ∈ active)
    (hcompleted : status = .completed → nodeId ∉ active') : Engaged start dag' active' where
  grounded := h.grounded.assign hshape hstatus hknown hfailed hskipped
    (fun hself => h.undone nodeId hactive (h.met nodeId hactive nodeId hself))
    (h.met nodeId hactive) (h.grounded.untaken (h.undone nodeId hactive))
  present := by
    rw [hshape.ids]
    exact fun other hother => h.present other (hsub other hother)
  met := by
    intro other hother dep hdep
    rw [hshape.deps] at hdep
    have hdone := h.met other (hsub other hother) dep hdep
    rw [hstatus, if_neg (h.ne_of_completed hactive hdone)]
    exact hdone
  undone := by
    intro other hother
    rw [hstatus]
    split
    · rename_i heq
      subst heq
      cases dag.status? other with
      | none => simp
      | some _ =>
        simp only [Option.map_some, ne_eq, Option.some.injEq]
        exact fun hdone => hcompleted hdone hother
    · exact h.undone other (hsub other hother)
  failedMet := by
    intro other hother
    rw [hstatus] at hother
    split at hother
    · obtain ⟨_, -, heq⟩ := Option.map_eq_some_iff.1 hother
      exact absurd heq hfailed
    · refine (h.failedMet other hother).imp id (fun hdeps dep hdep => ?_)
      rw [hshape.deps] at hdep
      rw [hstatus, if_neg (h.ne_of_completed hactive (hdeps dep hdep))]
      exact hdeps dep hdep

theorem markRunning (h : Engaged start dag active) (hactive : nodeId ∈ active) :
    Engaged start (dag.markRunning nodeId) active :=
  h.assign hactive (sameShape_markRunning dag nodeId) (status?_markRunning dag nodeId)
    (Or.inr rfl) (by decide) (by decide) (fun _ hother => hother) (fun heq => by cases heq)

theorem markPending (h : Engaged start dag active) (hactive : nodeId ∈ active) :
    Engaged start (dag.markPending nodeId) active :=
  h.assign hactive (sameShape_markPending dag nodeId) (status?_markPending dag nodeId)
    (Or.inl (Or.inl (by decide))) (by decide) (by decide) (fun _ hother => hother)
    (fun heq => by cases heq)

theorem markCompleted (h : Engaged start dag active) (hactive : nodeId ∈ active)
    (output : Option String) :
    Engaged start (dag.markCompleted nodeId output) (active \ {nodeId}) :=
  h.assign hactive (sameShape_markCompleted dag nodeId output)
    (status?_markCompleted dag nodeId output) (Or.inl (Or.inr (by decide))) (by decide)
    (by decide) (fun _ hother => hother.1) (fun _ hmem => hmem.2 rfl)

/-- A node is completed and at once reset for another attempt. -/
theorem retry (h : Engaged start dag active) (hactive : nodeId ∈ active)
    (output : Option String) :
    Engaged start ((dag.markCompleted nodeId output).markPending nodeId) (active \ {nodeId}) := by
  exact h.assign hactive
    ((sameShape_markCompleted dag nodeId output).trans (sameShape_markPending _ nodeId))
    (status?_retry dag nodeId output)
    (Or.inl (Or.inl (by decide))) (by decide) (by decide) (fun _ hother => hother.1)
    (fun heq => by cases heq)

theorem markFailed (h : Engaged start dag active) (hactive : nodeId ∈ active)
    (error : Option String) :
    Engaged start (dag.markFailed nodeId error) (active \ {nodeId}) where
  grounded := h.grounded.fail (h.grounded.untaken (h.undone nodeId hactive)) error
  present := by
    rw [ids_markFailed]
    exact fun other hother => h.present other hother.1
  met := by
    intro other hother dep hdep
    rw [deps_markFailed] at hdep
    have hdone := h.met other hother.1 dep hdep
    exact completed_markFailed (h.ne_of_completed hactive hdone) hdone error
  undone := by
    intro other hother hdone
    rcases status?_markFailed_cases dag nodeId error hdone with ⟨-, heq⟩ | ⟨-, heq⟩ |
      ⟨-, -, hold⟩
    · cases heq
    · cases heq
    · exact h.undone other hother.1 hold
  failedMet := by
    intro other hother
    have hdone : start.status? other = some .failed ∨
        ∀ dep ∈ dag.deps other, dag.status? dep = some .completed := by
      rcases status?_markFailed_cases dag nodeId error hother with ⟨rfl, -⟩ | ⟨-, heq⟩ |
        ⟨-, -, hold⟩
      · exact Or.inr (h.met other hactive)
      · cases heq
      · exact h.failedMet other hold
    refine hdone.imp id (fun hdeps dep hdep => ?_)
    rw [deps_markFailed] at hdep
    exact completed_markFailed (h.ne_of_completed hactive (hdeps dep hdep)) (hdeps dep hdep) error

/-- A waiting node is added whose dependencies are completed. -/
theorem addNode (h : Engaged start dag active) {node : DAGNode}
    (hadd : dag.addNode node = some dag') (hpending : node.status = .pending)
    (hdeps : ∀ dep ∈ node.dependsOn, dag.status? dep = some .completed) :
    Engaged start dag' active := by
  have hkept : ∀ {dep : String}, dag.status? dep = some .completed →
      dag'.status? dep = some .completed := by
    intro dep hdep
    rw [status?_addNode_of_mem hadd (mem_ids_of_status? hdep)]
    exact hdep
  refine ⟨h.grounded.add hadd (hpending ▸ by decide) hdeps, ?_, ?_, ?_, ?_⟩
  · rw [ids_addNode hadd]
    exact fun other hother => List.mem_append_left _ (h.present other hother)
  · intro other hother dep hdep
    rw [deps_addNode hadd] at hdep
    split at hdep
    · exact hkept (hdeps dep hdep)
    · exact hkept (h.met other hother dep hdep)
  · intro other hother
    rw [status?_addNode hadd]
    split
    · rw [hpending]
      simp
    · exact h.undone other hother
  · intro other hother
    rw [status?_addNode hadd] at hother
    split at hother
    · rw [hpending] at hother
      cases hother
    · rename_i hne
      refine (h.failedMet other hother).imp id (fun hdone dep hdep => ?_)
      rw [deps_addNode hadd, if_neg hne] at hdep
      exact hkept (hdone dep hdep)

/-- The nodes a new batch takes up. -/
theorem of_ready (h : Engaged start dag ∅) :
    Engaged start dag {nodeId | nodeId ∈ dag.getReadyNodes.map DAGNode.nodeId} where
  grounded := h.grounded
  present := by
    intro other hother
    obtain ⟨node, hnode, heq⟩ := List.mem_map.1 hother
    obtain ⟨⟨status, hstatus, -⟩, -⟩ := Consistent.of_ready ⟨node, hnode, heq⟩
    exact mem_ids_of_status? hstatus
  met := by
    intro other hother
    obtain ⟨node, hnode, heq⟩ := List.mem_map.1 hother
    exact (Consistent.of_ready ⟨node, hnode, heq⟩).2
  undone := by
    intro other hother hdone
    obtain ⟨node, hnode, heq⟩ := List.mem_map.1 hother
    obtain ⟨⟨status, hstatus, hstart⟩, -⟩ := Consistent.of_ready ⟨node, hnode, heq⟩
    rw [hdone] at hstatus
    cases hstatus
    exact absurd hstart (by decide)
  failedMet := h.failedMet

/-- Every descendant of a failed node is skipped, unless it had failed before
the run. -/
theorem skipped_descendant (h : Engaged start dag active) {other : String}
    (hfailed : dag.status? nodeId = some .failed) (hother : dag.IsDescendant nodeId other) :
    dag.status? other = some .skipped ∨
      start.status? other = some .failed ∧ dag.status? other = some .failed := by
  have hparent : ∃ parent ∈ dag.deps other,
      dag.status? parent = some .failed ∨ dag.status? parent = some .skipped := by
    cases hother with
    | single hdep => exact ⟨nodeId, hdep, Or.inl hfailed⟩
    | tail hrest hdep => exact ⟨_, hdep, h.grounded.descendant hfailed hrest⟩
  rcases h.grounded.descendant hfailed hother with hstatus | hstatus
  · refine Or.inr ⟨(h.failedMet other hstatus).resolve_right (fun hdeps => ?_), hstatus⟩
    obtain ⟨parent, hdep, hparent⟩ := hparent
    rw [hdeps parent hdep] at hparent
    rcases hparent with heq | heq
    · cases heq
    · cases heq
  · exact Or.inl hstatus

end Engaged

end DAG

end MassClaw
