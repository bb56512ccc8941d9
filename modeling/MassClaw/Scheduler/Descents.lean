import MassClaw.Dag.Descendants
import MassClaw.Scheduler.Progress

/-!
# The states of the DAG in a run

Every change that a run makes to its DAG is a `SchedulerStep`, and a run makes it
to a node that the batch is at work on.  `WorkRule` states what that takes of any
predicate on a DAG and the nodes at work, and `WorkRule.kept` is the induction
over a run; `Occupied` is the predicate for the reachable states.
-/

namespace MassClaw

/-! ## Nodes at work -/

namespace DAG

section AtWork

variable {dag dag' : DAG} {nodeId other : String}

/-- What a node with completed dependencies descends from is completed. -/
theorem Consistent.completed_of_descendant (h : dag.Consistent)
    (hother : dag.IsDescendant nodeId other)
    (hmet : ∀ dep ∈ dag.deps other, dag.status? dep = some .completed) :
    dag.status? nodeId = some .completed := by
  induction hother with
  | single hdep => exact hmet nodeId hdep
  | tail _ hdep ih => exact ih (h.met _ _ (hmet _ hdep) (Or.inr rfl))

theorem ne_of_completed (hnot : dag.status? nodeId ≠ some .completed)
    (hdone : dag.status? other = some .completed) : other ≠ nodeId := by
  rintro rfl
  exact hnot hdone

/-- A node that is not completed gets another status. -/
theorem AtWork.assign {status : TaskStatus} (h : dag.AtWork other)
    (hnot : dag.status? nodeId ≠ some .completed)
    (hlive : other = nodeId → status.IsStartable ∨ status = .running)
    (hshape : SameShape dag dag')
    (hstatus : ∀ other, dag'.status? other =
      if other = nodeId then (dag.status? other).map (fun _ => status) else dag.status? other) :
    dag'.AtWork other := by
  constructor
  · obtain ⟨old, hold, holdLive⟩ := h.live
    rw [hstatus, hold]
    by_cases heq : other = nodeId
    · exact ⟨status, by rw [if_pos heq]; rfl, hlive heq⟩
    · exact ⟨old, by rw [if_neg heq], holdLive⟩
  · intro dep hdep
    rw [hshape.deps] at hdep
    have hdone := h.met dep hdep
    rw [hstatus, if_neg (ne_of_completed hnot hdone)]
    exact hdone

/-- A failure does not reach the other nodes at work. -/
theorem AtWork.markFailed (hconsistent : dag.Consistent) (h : dag.AtWork other)
    (hnot : dag.status? nodeId ≠ some .completed) (hne : other ≠ nodeId) (error : Option String) :
    (dag.markFailed nodeId error).AtWork other := by
  have hkept : other ∉ dag.skippedBy nodeId error := fun hskipped =>
    hnot (hconsistent.completed_of_descendant
      (hconsistent.isDescendant_of_behind (behind_of_skippedBy hskipped)) h.met)
  constructor
  · have hsame : (dag.markFailed nodeId error).status? other = dag.status? other := by
      unfold status?
      rw [node?_markFailed, if_neg hkept, node?_modify_ne _ _ (failNode_nodeId error) hne]
    rw [hsame]
    exact h.live
  · intro dep hdep
    rw [deps_markFailed] at hdep
    have hdone := h.met dep hdep
    exact completed_markFailed (ne_of_completed hnot hdone) hdone error

theorem AtWork.addNode {node : DAGNode} (h : dag.AtWork other) (hadd : dag.addNode node = some dag')
    (hexist : ∀ nodeId, ∀ dep ∈ dag.deps nodeId, dep ∈ dag.ids) : dag'.AtWork other := by
  constructor
  · rw [status?_addNode_of_mem hadd h.mem_ids]
    exact h.live
  · intro dep hdep
    have hne : other ≠ node.nodeId := fun heq => (addNode_eq_some hadd).1 (heq ▸ h.mem_ids)
    rw [deps_addNode hadd, if_neg hne] at hdep
    rw [status?_addNode_of_mem hadd (hexist other dep hdep)]
    exact h.met dep hdep

theorem AtWork.setTaskId (h : dag.AtWork other) (taskId : UUID) :
    (dag.setTaskId nodeId taskId).AtWork other := by
  constructor
  · rw [status?_setTaskId]
    exact h.live
  · intro dep hdep
    rw [deps_setTaskId] at hdep
    rw [status?_setTaskId]
    exact h.met dep hdep

end AtWork

/-- A state of the scheduler, with the nodes that a batch is at work on. -/
structure Occupied (active : Set String) (dag : DAG) : Prop where
  reachable : Transition.Reachable Given SchedulerStep dag
  atWork : ∀ nodeId ∈ active, dag.AtWork nodeId

namespace Occupied

variable {dag dag' : DAG} {active : Set String} {nodeId : String}

theorem consistent (h : Occupied active dag) : dag.Consistent := consistent_of_reachable h.reachable

theorem setTaskId (h : Occupied active dag) (taskId : UUID) :
    Occupied active (dag.setTaskId nodeId taskId) where
  reachable := h.reachable.next (.assigned nodeId (fun _ => ⟨rfl, rfl, rfl⟩))
  atWork := fun other hother => (h.atWork other hother).setTaskId taskId

theorem markRunning (h : Occupied active dag) (hactive : nodeId ∈ active) :
    Occupied active (dag.markRunning nodeId) where
  reachable := h.reachable.next (.operation (.markRunning nodeId) (h.atWork nodeId hactive))
  atWork := fun other hother => (h.atWork other hother).assign
    (h.atWork nodeId hactive).not_completed (fun _ => Or.inr rfl) (sameShape_markRunning dag nodeId)
    (status?_markRunning dag nodeId)

theorem markPending (h : Occupied active dag) (hactive : nodeId ∈ active) :
    Occupied active (dag.markPending nodeId) where
  reachable := h.reachable.next (.operation (.markPending nodeId) (Or.inl (h.atWork nodeId hactive)))
  atWork := fun other hother => (h.atWork other hother).assign
    (h.atWork nodeId hactive).not_completed (fun _ => Or.inl (by decide))
    (sameShape_markPending dag nodeId) (status?_markPending dag nodeId)

theorem markFailed (h : Occupied active dag) (hactive : nodeId ∈ active) (error : Option String) :
    Occupied (active \ {nodeId}) (dag.markFailed nodeId error) where
  reachable := h.reachable.next
    (.operation (.markFailed nodeId error) (Or.inl (h.atWork nodeId hactive)))
  atWork := fun other hother => (h.atWork other hother.1).markFailed h.consistent
    (h.atWork nodeId hactive).not_completed hother.2 error

theorem markCompleted (h : Occupied active dag) (hactive : nodeId ∈ active)
    (output : Option String) :
    Occupied (active \ {nodeId}) (dag.markCompleted nodeId output) where
  reachable := h.reachable.next
    (.operation (.markCompleted nodeId output) (Or.inl (h.atWork nodeId hactive)))
  atWork := fun other hother => (h.atWork other hother.1).assign
    (h.atWork nodeId hactive).not_completed (fun heq => absurd heq hother.2)
    (sameShape_markCompleted dag nodeId output) (status?_markCompleted dag nodeId output)

/-- The nodes that depend on the completed one are still not taken up. -/
theorem justCompleted (h : Occupied active dag) (hactive : nodeId ∈ active)
    (output : Option String) : (dag.markCompleted nodeId output).JustCompleted nodeId := by
  have hwork := h.atWork nodeId hactive
  constructor
  · obtain ⟨status, hstatus, -⟩ := hwork.live
    rw [status?_markCompleted, if_pos rfl, hstatus]
    rfl
  · intro other hother hdep htaken
    have hstatus : (dag.markCompleted nodeId output).status? other.nodeId = some other.status :=
      status?_eq_some_iff.2 ⟨other, node?_of_mem hother, rfl⟩
    have hdeps : nodeId ∈ dag.deps other.nodeId := by
      rw [deps_of_markCompleted (node?_of_mem hother)]
      exact hdep
    have hne : other.nodeId ≠ nodeId := fun heq => h.consistent.notMem_deps (heq ▸ hdeps)
    rw [status?_markCompleted, if_neg hne] at hstatus
    exact (h.consistent.untaken hwork.not_completed).not_taken hdeps hstatus htaken

/-- A completed node is reset for another attempt. -/
theorem retry (h : Occupied active dag) (hactive : nodeId ∈ active) (output : Option String) :
    Occupied (active \ {nodeId}) ((dag.markCompleted nodeId output).markPending nodeId) where
  reachable := (h.markCompleted hactive output).reachable.next
    (.operation (.markPending nodeId) (Or.inr (h.justCompleted hactive output)))
  atWork := fun other hother => (h.atWork other hother.1).assign
    (h.atWork nodeId hactive).not_completed (fun heq => absurd heq hother.2)
    ((sameShape_markCompleted dag nodeId output).trans (sameShape_markPending _ nodeId))
    (status?_retry dag nodeId output)

theorem addNode {node : DAGNode} (h : Occupied active dag) (hadd : dag.addNode node = some dag')
    (hstart : node.status.IsStartable)
    (hdeps : ∀ dep ∈ node.dependsOn, dag.status? dep = some .completed) : Occupied active dag' where
  reachable := by
    have hrun : (Operation.addNode node).run dag = dag' := by
      show (dag.addNode node).getD dag = dag'
      rw [hadd]
      rfl
    rw [← hrun]
    exact h.reachable.next (.operation (.addNode node) ⟨hstart, hdeps⟩)
  atWork := fun other hother =>
    (h.atWork other hother).addNode hadd h.consistent.acyclic.depsExist

end Occupied

end DAG

namespace WorkflowScheduler

/-! ## Predicates that a batch keeps -/

/-- What the steps of a batch keep of a predicate on the nodes at work and the
DAG. -/
structure WorkRule (I : Set String → DAG → Prop) : Prop where
  mono : ∀ {active active' dag}, I active dag → (∀ other ∈ active', other ∈ active) → I active' dag
  opened : ∀ {dag}, I ∅ dag → I {id | id ∈ dag.getReadyNodes.map DAGNode.nodeId} dag
  tasked : ∀ {active dag nodeId} (taskId : UUID), I active dag →
    I active (dag.setTaskId nodeId taskId)
  started : ∀ {active dag nodeId}, I active dag → nodeId ∈ active →
    I active (dag.markRunning nodeId)
  reset : ∀ {active dag nodeId}, I active dag → nodeId ∈ active → I active (dag.markPending nodeId)
  failed : ∀ {active dag nodeId} (error : Option String), I active dag → nodeId ∈ active →
    I (active \ {nodeId}) (dag.markFailed nodeId error)
  completed : ∀ {active dag dag' nodeId} {output : Option String}, I active dag →
    nodeId ∈ active → Reflected (dag.markCompleted nodeId output) nodeId dag' →
    I (active \ {nodeId}) dag'

/-- The nodes at work at each point of a batch. -/
def workPhases (I : Set String → DAG → Prop) : Phases where
  between run := I ∅ run.dag
  preparing rest run :=
    I {id | id ∈ contextIds run ∨ id ∈ rest.map DAGNode.nodeId} run.dag ∧
      (contextIds run ++ rest.map DAGNode.nodeId).Nodup
  evaluating run := I {id | id ∈ contextIds run} run.dag ∧ (contextIds run).Nodup
  gating _ _ run := I {id | id ∈ contextIds run} run.dag ∧ (contextIds run).Nodup
  settling rest run :=
    I {id | id ∈ rest.map (fun context => context.node.nodeId)} run.dag ∧
      (rest.map (fun context => context.node.nodeId)).Nodup

namespace WorkRule

variable {I : Set String → DAG → Prop} (rule : WorkRule I)
  {env : Environment} {workflowId : UUID} {agents : String → Option Agent} {run run' : Run}

include rule

theorem tasked_of {active : Set String} {before after : DAG} {nodeId : String} {taskId : UUID}
    (h : I active before) (htask : Tasked before after nodeId taskId) : I active after := by
  rcases htask with ⟨rfl, -⟩ | rfl
  · exact h
  · exact rule.tasked taskId h

theorem dropped {nodeId : String} {dag : DAG}
    (h : I ({id | id ∈ contextIds run} \ {nodeId}) dag) (hnodup : (contextIds run).Nodup) :
    I {id | id ∈ contextIds (run.dropContext nodeId)} dag ∧
      (contextIds (run.dropContext nodeId)).Nodup := by
  exact ⟨rule.mono h (fun _ hother => mem_contextIds_dropContext.1 hother),
    nodup_dropContext hnodup nodeId⟩

theorem prepared {node : DAGNode} {rest : List DAGNode}
    (h : (workPhases I).preparing (node :: rest) run)
    (hprepared : Prepared env workflowId agents run node run') :
    (workPhases I).preparing rest run' := by
  obtain ⟨hwork, hnodup⟩ := h
  have hactive : node.nodeId ∈
      {id | id ∈ contextIds run ∨ id ∈ (node :: rest).map DAGNode.nodeId} :=
    Or.inr List.mem_cons_self
  have hsplit : (contextIds run ++ rest.map DAGNode.nodeId).Nodup ∧
      node.nodeId ∉ contextIds run ++ rest.map DAGNode.nodeId := nodup_split hnodup
  have hfailed : ∀ error, I {id | id ∈ contextIds run ∨ id ∈ rest.map DAGNode.nodeId}
      (run.dag.markFailed node.nodeId error) := by
    intro error
    exact rule.mono (rule.failed error hwork hactive) (fun other => (mem_split_iff hnodup other).1)
  cases hprepared with
  | noAgent error _ hrun =>
    subst hrun
    exact ⟨hfailed _, hsplit.1⟩
  | starved error tasks dag taskId htask hrun =>
    subst hrun
    exact ⟨rule.tasked_of (hfailed _) htask, hsplit.1⟩
  | started agent reservation db tasks dag taskId _ _ htask hrun =>
    subst hrun
    have hids := contextIds_concat run { node, taskId, agent }
    constructor
    · show I {id | id ∈ contextIds { run with
        contexts := run.contexts ++ [{ node, taskId, agent }] } ∨ _} dag
      rw [hids]
      refine rule.mono (rule.tasked_of (rule.started hwork hactive) htask) (fun other hother => ?_)
      rcases hother with hother | hother
      · rcases List.mem_append.1 hother with hold | hnew
        · exact Or.inl hold
        · rw [List.mem_singleton.1 hnew]
          exact hactive
      · exact Or.inr (List.mem_cons_of_mem _ hother)
    · show (contextIds { run with contexts := run.contexts ++ [{ node, taskId, agent }] } ++
        _).Nodup
      rw [hids, List.append_assoc]
      exact hnodup

theorem gated {all rest : List DAGNode} {node : DAGNode} {visit : Visit} {context : NodeContext}
    (h : (workPhases I).gating all (node :: rest) run) (hcontext : context ∈ run.contexts)
    (hgated : Gated env workflowId visit run context run') :
    (workPhases I).gating all rest run' := by
  obtain ⟨hwork, hnodup⟩ := h
  have hactive : context.node.nodeId ∈ {id | id ∈ contextIds run} := mem_contextIds hcontext
  cases hgated with
  | denied decision tasks error _ hrun =>
    subst hrun
    exact rule.dropped (rule.failed (some error) hwork hactive) hnodup
  | passed decision _ _ hrun =>
    subst hrun
    exact ⟨hwork, hnodup⟩
  | fellThrough tasks _ hrun =>
    subst hrun
    exact ⟨rule.reset hwork hactive, hnodup⟩

theorem settled {context : NodeContext} {rest : List NodeContext} {visit : Visit}
    (h : (workPhases I).settling (context :: rest) run)
    (hsettled : Settled env workflowId visit run context run') :
    (workPhases I).settling rest run' := by
  obtain ⟨hwork, hnodup⟩ := h
  have hactive : context.node.nodeId ∈
      {id | id ∈ (context :: rest).map (fun context => context.node.nodeId)} :=
    List.mem_cons_self
  have hdone : ∀ {dag : DAG}, I ({id | id ∈ (context :: rest).map
      (fun context => context.node.nodeId)} \ {context.node.nodeId}) dag →
      I {id | id ∈ rest.map (fun context => context.node.nodeId)} dag := by
    intro dag hdag
    exact rule.mono hdag (fun other => (mem_rest_iff hnodup other).1)
  refine ⟨?_, (List.nodup_cons.1 hnodup).2⟩
  cases hsettled with
  | llmFailed message tasks run₁ _ hreleased hrun =>
    have hdag : run₁.dag = run.dag := by rw [hreleased.eq]
    subst hrun
    show I _ (run₁.dag.markFailed _ _)
    rw [hdag]
    exact hdone (rule.failed _ hwork hactive)
  | completed response _ hcompleted =>
    obtain ⟨_, _, _, _, _, dag, _, -, -, -, hdag, hrun⟩ := hcompleted
    subst hrun
    exact hdone (rule.completed hwork hactive hdag)
  | rejected response charged run₁ run₂ tasks error _ hrejected hreleased hrun =>
    have hdag : run₂.dag = run.dag := by
      rw [hrejected.eq hreleased]
      rfl
    subst hrun
    show I _ (run₂.dag.markFailed _ _)
    rw [hdag]
    exact hdone (rule.failed _ hwork hactive)

/-- Every run keeps the predicate, until an exception ends it. -/
theorem kept : (workPhases I).Kept env workflowId agents (fun _ => True)
    (fun stopped => stopped.1 ≠ .raised → I ∅ stopped.2.dag) where
  opened := fun h =>
    ⟨rule.mono (rule.opened h) (fun _ hother => hother.resolve_left List.not_mem_nil),
      DAG.getReadyNodes_nodup _⟩
  prepared := fun h hprepared _ => rule.prepared h hprepared
  evaluate := by
    intro run h
    obtain ⟨hwork, hnodup⟩ := h
    rw [List.map_nil, List.append_nil] at hnodup
    exact ⟨rule.mono hwork (fun _ hother => Or.inl hother), hnodup⟩
  evaluated := by
    intro run escalated context state h hevaluated _
    obtain ⟨hwork, hnodup⟩ := h
    cases hevaluated with
    | failed hstate =>
      rw [hstate]
      exact ⟨hwork, hnodup⟩
    | denied ruleId reason tasks hrun _ =>
      rw [hrun]
      exact rule.dropped (rule.mono hwork (fun _ hother => hother.1)) hnodup
    | kept verdict _ hrun _ =>
      rw [hrun]
      exact ⟨hwork, hnodup⟩
  gate := fun _ h => h
  gated := fun h hcontext _ hgated _ => rule.gated h hcontext hgated
  paused := by
    intro all node rest run visit context stopped h hcontext _ hpaused _ _
    obtain ⟨workflows, tasks, hstate⟩ := hpaused.state
    rw [hstate]
    exact rule.mono (rule.reset h.1 (mem_contextIds hcontext))
      (fun _ hother => absurd hother (Set.notMem_empty _))
  called := fun h => h
  settled := fun h hsettled _ => rule.settled h hsettled
  persist := fun _ h => rule.mono h.1 (fun _ hother => absurd hother (Set.notMem_empty _))
  raised := fun _ hraised _ hnot => absurd hraised.1 hnot

end WorkRule

/-! ## Reachable states -/

theorem workRule_occupied : WorkRule DAG.Occupied where
  mono := fun h hsub => ⟨h.reachable, fun other hother => h.atWork other (hsub other hother)⟩
  opened := by
    intro dag h
    refine ⟨h.reachable, fun other hother => ?_⟩
    obtain ⟨node, hnode, heq⟩ := List.mem_map.1 hother
    exact .of_ready ⟨node, hnode, heq⟩
  tasked := fun taskId h => h.setTaskId taskId
  started := fun h hactive => h.markRunning hactive
  reset := fun h hactive => h.markPending hactive
  failed := fun error h hactive => h.markFailed hactive error
  completed := by
    intro active dag dag' nodeId output h hactive hreflected
    rcases hreflected with rfl | rfl | ⟨text, added, hreplan⟩
    · exact h.markCompleted hactive output
    · exact h.retry hactive output
    · obtain ⟨node, hnode, rfl, hadd⟩ := DynamicReplanner.replan_eq_some hreplan
      have hstart : TaskStatus.pending.IsStartable := by decide
      refine (h.markCompleted hactive output).addNode hadd hstart (fun dep hdep => ?_)
      have hdeps : dep ∈ dag.deps nodeId := by
        rw [DAG.deps_of_markCompleted hnode]
        exact hdep
      have hdone := (h.atWork nodeId hactive).met dep hdeps
      rw [DAG.status?_markCompleted,
        if_neg (DAG.ne_of_completed (h.atWork nodeId hactive).not_completed hdone)]
      exact hdone

/-- A run that returns or pauses leaves its DAG in a reachable state. -/
theorem reachable_of_delivers {env : Environment} {workflowId : UUID}
    {agents : String → Option Agent} {db : Db} {dag : DAG} {run : Run}
    (hstart : Transition.Reachable DAG.Given DAG.SchedulerStep dag)
    (hrun : Delivers (executeWorkflow env workflowId agents db dag) run) :
    Transition.Reachable DAG.Given DAG.SchedulerStep run.dag := by
  have hoccupied : DAG.Occupied ∅ run.dag :=
    workRule_occupied.kept.of_delivers (P := fun run => DAG.Occupied ∅ run.dag)
      ⟨hstart, fun _ hother => absurd hother (Set.notMem_empty _)⟩ (fun last hlast _ => hlast) hrun
      (fun _ _ => trivial)
  exact hoccupied.reachable

end WorkflowScheduler

end MassClaw
