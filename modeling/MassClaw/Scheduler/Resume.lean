import MassClaw.Scheduler.Completion

/-!
# Resuming a paused workflow

The gate saves a checkpoint before it pauses a run, and a resumed run rebuilds
its DAG from there.  It can only go on with nodes that wait: a running node is
neither ready nor terminal.  The gate resets the node it pauses on, but Phase 1
has marked every other ready node of the batch as running, too.
-/

namespace MassClaw

namespace WorkflowScheduler

/-- The run pauses while a node holds a context that the gate has not reset. -/
def pausesAtWork : Event → Bool
  | .paused _ contexts reopened => contexts.any (fun id => id ∉ reopened)
  | _ => false

/-- A resumed run can go on from the DAG: no node is running, and every node
that is not terminal is ready as soon as its dependencies are completed. -/
structure Resumable (dag : DAG) : Prop where
  noneRunning : ∀ node ∈ dag.nodes, node.status ≠ .running
  ready : ∀ node ∈ dag.nodes, ¬node.status.IsTerminal →
    (∀ dep ∈ node.dependsOn, dag.status? dep = some .completed) → node ∈ dag.getReadyNodes
  startable : Startable dag

/-- Nodes that wait or are terminal are all a resumed run needs. -/
theorem resumable_of_startable {dag : DAG} (h : Startable dag) : Resumable dag where
  noneRunning := by
    intro node hnode hrunning
    have hquiet := h.quiet node hnode
    rw [hrunning] at hquiet
    rcases hquiet with hstart | hterminal
    · exact absurd hstart (by decide)
    · exact absurd hterminal (by decide)
  ready := by
    intro node hnode hopen hdeps
    refine DAG.mem_getReadyNodes.2 ⟨DAG.node?_of_mem hnode, ?_, ?_, hdeps⟩
    · exact (h.quiet node hnode).resolve_right hopen
    · rintro ⟨dep, hdep, hfailed | hskipped⟩
      · rw [hdeps dep hdep] at hfailed
        cases hfailed
      · rw [hdeps dep hdep] at hskipped
        cases hskipped
  startable := h

/-- The DAG rebuilt from the nodes of a DAG between two batches. -/
theorem startable_rebuilt {dag rebuilt : DAG} (hrebuilt : DAG.new dag.nodes = .ok rebuilt)
    (hclosed : dag.FailureClosed)
    (hquiet : ∀ nodeId status, dag.status? nodeId = some status → DAG.IsQuiet status) :
    Startable rebuilt := by
  have hnodes : rebuilt.nodes = dag.nodes := by
    rw [(DAG.new_eq_ok hrebuilt).1]
    exact DAG.nodeDict_of_nodup dag.nodup
  have hnode? : ∀ nodeId, rebuilt.node? nodeId = dag.node? nodeId := by
    intro nodeId
    rw [DAG.node?, DAG.node?, hnodes]
  refine ⟨⟨dag.nodes, dag.nodup, hrebuilt⟩, ?_, ?_⟩
  · intro node hnode
    rw [hnodes] at hnode
    exact hquiet node.nodeId node.status
      (DAG.status?_eq_some_iff.2 ⟨node, DAG.node?_of_mem hnode, rfl⟩)
  · intro nodeId status hstatus hstart dep hdep
    rw [DAG.status?, hnode?] at hstatus
    rw [DAG.deps, hnode?] at hdep
    rw [DAG.status?, hnode?]
    exact hclosed nodeId status hstatus hstart dep hdep

/-- Every DAG that can be rebuilt from the checkpoint of the pause can be
resumed. -/
def CheckpointResumable (stopped : Stopped) : Prop :=
  ∀ pause, stopped.1 = .paused pause → ∀ checkpoint, pause.checkpoint = some checkpoint →
    ∀ (host : Host) (now : Time) (rebuilt : DAG),
      checkpoint.resumedDag host now = .ok rebuilt → Resumable rebuilt

/-- The gate pauses on the only node at work. -/
theorem checkpointResumable_of_paused {workflowId : UUID} {visit : Visit} {run : Run}
    {context : NodeContext} {stopped : Stopped} (h : workingPhases.gating [] [] run)
    (hcontext : context ∈ run.contexts) (hpaused : Paused workflowId visit run context stopped)
    (hatWork : ∀ event ∈ stopped.2.log, pausesAtWork event = false) :
    CheckpointResumable stopped := by
  obtain ⟨hworking, -, hreopened⟩ := h
  obtain ⟨⟨request, hpause⟩, workflows, tasks, hstate⟩ := hpaused
  have hreset := hatWork (.paused context.node.nodeId (contextIds run)
    (run.reopened ++ [context.node.nodeId])) (by rw [hstate]; simp [contextIds])
  have hall : ∀ id ∈ contextIds run, id ∈ run.reopened ++ [context.node.nodeId] := by
    intro id hid
    by_contra hwork
    rw [pausesAtWork, List.any_eq_false] at hreset
    exact hreset id hid (by simpa using hwork)
  have hactive : context.node.nodeId ∈ {id | id ∈ contextIds run} := mem_contextIds hcontext
  have hpending := hworking.markPending hactive
  have hquiet : ∀ nodeId status,
      (run.dag.markPending context.node.nodeId).status? nodeId = some status →
        DAG.IsQuiet status := by
    intro nodeId status hstatus
    by_cases hat : nodeId ∈ contextIds run
    · rw [DAG.status?_markPending] at hstatus
      split at hstatus
      · obtain ⟨_, -, rfl⟩ := Option.map_eq_some_iff.1 hstatus
        exact Or.inl (by decide)
      · rename_i hne
        rcases List.mem_append.1 (hall nodeId hat) with hold | hnew
        · exact hreopened nodeId hold status hstatus
        · exact absurd (List.mem_singleton.1 hnew) hne
    · exact hpending.quiet nodeId status hstatus hat
  intro pause hstopped checkpoint hcheckpoint host now rebuilt hrebuilt
  rw [hpause] at hstopped
  cases hstopped
  obtain ⟨hash, -, rfl⟩ := Option.map_eq_some_iff.1 hcheckpoint
  have hnew : DAG.new (run.dag.markPending context.node.nodeId).nodes = .ok rebuilt :=
    WorkflowCheckpoint.resumedDag_fromDag host now visit.now workflowId _ _ _ _ _ hrebuilt
  exact resumable_of_startable (startable_rebuilt hnew hpending.closed hquiet)

/-- A pause that leaves no other node at work, in a run without a policy
denial, can be resumed. -/
theorem checkpointResumable_of_reset (env : Environment) (workflowId : UUID)
    (agents : String → Option Agent) (db : Db) (dag : DAG) (hdag : Startable dag)
    (stopped : Stopped) (hrun : executeWorkflow env workflowId agents db dag = .error stopped)
    (hpolicy : ∀ event ∈ stopped.2.log, isPolicyDenial event = false)
    (hatWork : ∀ event ∈ stopped.2.log, pausesAtWork event = false) :
    CheckpointResumable stopped := by
  have hkept : workingPhases.Kept env workflowId agents
      (fun event => isPolicyDenial event = false ∧ pausesAtWork event = false)
      CheckpointResumable := by
    refine workingPhases_kept (fun _ h => h.1) ?_ ?_
    · intro stopped hraised pause hpause
      rw [hraised] at hpause
      cases hpause
    · intro run visit context stopped h hcontext hpaused hmeets
      exact checkpointResumable_of_paused h hcontext hpaused
        (fun event hevent => (hmeets event hevent).2)
  exact (hkept.executeWorkflow_holds db dag hdag.working).of_error hrun
    (fun event hevent => ⟨hpolicy event hevent, hatWork event hevent⟩)

end WorkflowScheduler

/-! ## A node that is at work beside the paused one -/

namespace SchedulerExample

/-- A checkpoint is saved before the gate pauses. -/
def saved (_ : Nat) (nodeId : String) : Visit := { visit nodeId with savedHash := some "c1" }

/-- What a paused run leaves behind, as far as it can be decided. -/
structure Pausing where
  resumedStatuses : List TaskStatus
  policyDenial : Bool
  atWork : Bool
  deriving DecidableEq

/-- How a run pauses whose checkpoint is saved and can be read back. -/
def pausing? : Except Stopped (List (String × Json) × Run) → Option Pausing
  | .error (.paused pause, run) => do
    let checkpoint ← pause.checkpoint
    let dag ← (checkpoint.resumedDag host 0).toOption
    return {
      resumedStatuses := dag.nodes.map DAGNode.status
      policyDenial := run.log.any WorkflowScheduler.isPolicyDenial
      atWork := run.log.any WorkflowScheduler.pausesAtWork }
  | _ => none

theorem pausing?_eq_some {execution : Except Stopped (List (String × Json) × Run)}
    {pausing : Pausing} (h : pausing? execution = some pausing) :
    ∃ pause run checkpoint dag, execution = .error (.paused pause, run) ∧
      pause.checkpoint = some checkpoint ∧ checkpoint.resumedDag host 0 = .ok dag ∧
      dag.nodes.map DAGNode.status = pausing.resumedStatuses ∧
      run.log.any WorkflowScheduler.isPolicyDenial = pausing.policyDenial ∧
      run.log.any WorkflowScheduler.pausesAtWork = pausing.atWork := by
  unfold pausing? at h
  split at h
  · rename_i pause run
    obtain ⟨checkpoint, hcheckpoint, h⟩ := Option.bind_eq_some_iff.1 h
    obtain ⟨dag, hdag, h⟩ := Option.bind_eq_some_iff.1 h
    cases h
    refine ⟨pause, run, checkpoint, dag, rfl, hcheckpoint, ?_, rfl, rfl, rfl⟩
    cases hresumed : checkpoint.resumedDag host 0 with
    | ok dag' =>
      rw [hresumed] at hdag
      cases hdag
      rfl
    | error error =>
      rw [hresumed] at hdag
      cases hdag
  · cases h

end SchedulerExample

namespace WorkflowScheduler

open SchedulerExample in
/-- A run that pauses on its only ready node can be resumed. -/
theorem checkpointResumable_of_single :
    ∃ stopped, execute saved [root "t1" "risk-assessment"] = .error stopped ∧
      CheckpointResumable stopped := by
  have hpausing : pausing? (execute saved [root "t1" "risk-assessment"]) =
      some ⟨[.pending], false, false⟩ := by decide +kernel
  obtain ⟨pause, run, -, -, hrun, -, -, -, hdenial, hatWork⟩ := pausing?_eq_some hpausing
  refine ⟨_, hrun, checkpointResumable_of_reset _ _ _ _ _
    (startable (by decide) (by decide +kernel) (by decide)) _ hrun ?_ ?_⟩
  · intro event hevent
    simpa using List.any_eq_false.1 hdenial event hevent
  · intro event hevent
    simpa using List.any_eq_false.1 hatWork event hevent

open SchedulerExample in
/-- A second ready node is still running in the DAG that is rebuilt. -/
theorem checkpointResumable_fails :
    ¬∀ (env : Environment) (workflowId : UUID) (agents : String → Option Agent) (db : Db)
      (dag : DAG), Startable dag → ∀ stopped : Stopped,
        executeWorkflow env workflowId agents db dag = .error stopped →
          CheckpointResumable stopped := by
  intro h
  have hpausing : pausing?
      (execute saved [root "t1" "risk-assessment", root "t2" "research"]) =
        some ⟨[.pending, .running], false, true⟩ := by decide +kernel
  obtain ⟨pause, run, checkpoint, dag, hrun, hcheckpoint, hdag, hstatuses, -, -⟩ :=
    pausing?_eq_some hpausing
  have hresumable := h _ _ _ _ _ (startable (by decide) (by decide +kernel) (by decide)) _ hrun
    pause rfl checkpoint hcheckpoint host 0 dag hdag
  have hrunning : TaskStatus.running ∈ dag.nodes.map DAGNode.status := by
    rw [hstatuses]
    decide
  obtain ⟨node, hnode, hstatus⟩ := List.mem_map.1 hrunning
  exact hresumable.noneRunning node hnode hstatus

end WorkflowScheduler

end MassClaw
