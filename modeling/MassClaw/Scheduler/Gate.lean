import MassClaw.Scheduler.State

/-!
# Phase 1.5: policy verdicts and the approval gate

The policy rules are asked about every node with a context.  A denied node
loses its context, an escalated one goes through the approval gate together
with the nodes of a high-risk capability.

The gate looks for a recorded decision first.  Without one it resets the node
to pending, saves a checkpoint, requests an approval and pauses the run when
the request is still pending.
-/

namespace MassClaw

namespace WorkflowScheduler

/-- `APPROVAL_REQUIRED_CAPABILITIES`. -/
def approvalRequiredCapabilities : List String :=
  ["risk-assessment", "compliance-check", "safety-analysis"]

/-! ## Policy verdicts -/

/-- One node of `_policy_evaluate_nodes`, with the nodes escalated so far. -/
def policyEvaluateNode (visit : Visit) (state : Run × List DAGNode) (context : NodeContext) :
    Except Stopped (Run × List DAGNode) :=
  match visit.policy with
  | none => .ok state
  | some verdict => do
    state.1.check (visit.raises .policyRecord)
    let run := state.1.record (.policy context.node.nodeId verdict)
    match verdict with
    | .deny ruleId reason =>
      let rule := ruleId.getD "None"
      let run := run.updateTask context.taskId (fun task =>
        { task with
          status := .skipped
          errorMessage := some s!"Policy denied ({rule}): {reason}" })
      run.check (visit.raises .policyFlush)
      return (run.dropContext context.node.nodeId, state.2)
    | .escalateHuman => return (run, state.2 ++ [context.node])
    | .allow | .abstain => return (run, state.2)

/-- `_policy_evaluate_nodes`; without enabled rules nothing is evaluated. -/
def policyEvaluateNodes (env : Environment) (iteration : Nat) (run : Run) :
    Except Stopped (Run × List DAGNode) :=
  if env.policyRules iteration then
    run.contexts.foldlM
      (fun state context =>
        policyEvaluateNode (env.visit iteration context.node.nodeId) state context)
      (run, [])
  else .ok (run, [])

/-! ## The approval gate -/

/-- The gate on a node whose recorded decision is a denial. -/
def denyNode (env : Environment) (visit : Visit) (run : Run) (context : NodeContext)
    (decision : ApprovalRequest) : Except Stopped Run := do
  let reviewer := match decision.decidedBy with
    | none => "reviewer"
    | some decidedBy => if decidedBy = "" then "reviewer" else decidedBy
  let reason := Json.getD decision.context "denial_reason" (.str "No reason provided")
  let run := { run with
    dag := run.dag.markFailed context.node.nodeId (some s!"Denied by human: {reviewer}") }
  let run := run.updateTask context.taskId (fun task =>
    { task with
      status := .skipped
      errorMessage := some s!"Denied: {reason.pyStr env.host.repr}" })
  run.check (visit.raises .denialFlush)
  return run.dropContext context.node.nodeId

/-- The checkpoint the gate saves before it pauses. -/
def gateCheckpoint (workflowId : UUID) (visit : Visit) (dag : DAG) (context : NodeContext) :
    WorkflowCheckpoint :=
  WorkflowCheckpoint.fromDag visit.now workflowId dag
    s!"awaiting_approval: {context.node.capability}" (some context.node.nodeId)
    [("capability", .str context.node.capability), ("agent", .str context.agent.name)] none

/-- The approval request of the gate. -/
def gateRequest (workflowId : UUID) (visit : Visit) (context : NodeContext) : ApprovalRequest where
  requestId := visit.requestId
  workflowId := workflowId.str
  taskId := some context.taskId.str
  action := s!"execute_{context.node.capability}"
  context :=
    [ ("workflow_id", .str workflowId.str)
    , ("task_id", .str context.taskId.str)
    , ("capability", .str context.node.capability)
    , ("description", .str context.node.description)
    , ("agent", .str context.agent.name) ]
  policyRule := "high_risk_task"
  checkpointHash := visit.savedHash

/-- The satellite session that makes the pause visible. -/
def awaitApproval (workflowId : UUID) (visit : Visit) (db : Db) (context : NodeContext) : Db :=
  if visit.statusCommits then
    (db.updateWorkflow workflowId (fun workflow =>
        { workflow with status := .awaitingApproval })).updateTask context.taskId (fun task =>
      { task with
        status := .awaitingApproval
        errorMessage := some s!"Awaiting human approval (request: {visit.requestId})" })
  else db

/-- The gate on a node without a recorded decision. -/
def requestApproval (workflowId : UUID) (visit : Visit) (run : Run) (context : NodeContext) :
    Except Stopped Run := do
  let nodeId := context.node.nodeId
  let run := { run with
    dag := run.dag.markPending nodeId
    reopened := run.reopened ++ [nodeId] }
  let checkpoint := visit.savedHash.map (fun hash =>
    { gateCheckpoint workflowId visit run.dag context with contentHash := some hash })
  run.check (visit.raises .requestApproval)
  run.check (visit.raises .checkStatus)
  let run := run.record (.statusRead nodeId visit.statusRead)
  if visit.statusRead = some "pending" then
    let run := { run with db := awaitApproval workflowId visit run.db context }
    throw (.paused { workflowId, nodeId, request := gateRequest workflowId visit context,
                     checkpoint },
      run.record (.paused nodeId (run.contexts.map (fun context => context.node.nodeId))
        run.reopened))
  else
    let run := run.updateTask context.taskId (fun task =>
      { task with status := .running, errorMessage := none })
    run.check (visit.raises .resumeFlush)
    return run

/-- The gate on one node; a node without a context is a `KeyError`. -/
def gateNode (env : Environment) (workflowId : UUID) (visit : Visit) (run : Run)
    (node : DAGNode) : Except Stopped Run :=
  match run.context? node.nodeId with
  | none => .error (.raised, run)
  | some context =>
    let twins := visit.twins.getD []
    match FederatedApprovalStore.findDecisionForNode env.order twins workflowId.str
        node.nodeId with
    | some decision =>
      let run := run.record (.decisionFound node.nodeId twins decision)
      if decision.status = "denied" then denyNode env visit run context decision
      else .ok run
    | none => requestApproval workflowId visit run context

/-- Phase 1.5 after the policy verdicts. -/
def approvalGate (env : Environment) (workflowId : UUID) (iteration : Nat)
    (gated : List DAGNode) (run : Run) : Except Stopped Run :=
  if gated.isEmpty then .ok run
  else do
    run.check (env.gateCommitRaises iteration)
    gated.foldlM (fun run node =>
      gateNode env workflowId (env.visit iteration node.nodeId) run node) run

/-! ## What the phase does -/

/-- The ways in which the policy rules leave a node. -/
inductive Evaluated (run : Run) (escalated : List DAGNode) (context : NodeContext)
    (state : Run × List DAGNode) : Prop
  | failed (hstate : state = (run, escalated))
  | denied (ruleId : Option String) (reason : String) (tasks : List Task)
      (hrun : state.1 = { run.dropContext context.node.nodeId with
        db := { run.db with tasks }
        log := run.log ++ [.policy context.node.nodeId (.deny ruleId reason)] })
      (hescalated : state.2 = escalated)
  | kept (verdict : PolicyVerdict) (hverdict : ∀ ruleId reason, verdict ≠ .deny ruleId reason)
      (hrun : state.1 = run.record (.policy context.node.nodeId verdict))
      (hescalated : state.2 = escalated ∨ state.2 = escalated ++ [context.node])

theorem policyEvaluateNode_holds (visit : Visit) (run : Run) (escalated : List DAGNode)
    (context : NodeContext) :
    Outcome.Holds (Evaluated run escalated context) (RaisedFrom run)
      (policyEvaluateNode visit (run, escalated) context) := by
  unfold policyEvaluateNode
  cases visit.policy with
  | none => exact .failed rfl
  | some verdict =>
    dsimp only
    refine (Run.check_holds (.refl rfl)).bind (fun _ _ => ?_)
    cases verdict with
    | allow => exact .kept .allow (by simp) rfl (Or.inl rfl)
    | abstain => exact .kept .abstain (by simp) rfl (Or.inl rfl)
    | escalateHuman => exact .kept .escalateHuman (by simp) rfl (Or.inr rfl)
    | deny ruleId reason =>
      dsimp only
      refine (Run.check_holds (.record rfl rfl)).bind (fun _ _ => ?_)
      exact .denied ruleId reason _ rfl rfl

/-- The ways in which the gate lets a run go on. -/
inductive Gated (env : Environment) (workflowId : UUID) (visit : Visit) (run : Run)
    (context : NodeContext) (run' : Run) : Prop
  | denied (decision : ApprovalRequest) (tasks : List Task) (error : String)
      (hstatus : decision.status = "denied")
      (hrun : run' = { run.dropContext context.node.nodeId with
        db := { run.db with tasks }
        dag := run.dag.markFailed context.node.nodeId (some error)
        log := run.log ++
          [.decisionFound context.node.nodeId (visit.twins.getD []) decision] })
  | passed (decision : ApprovalRequest) (hstatus : decision.status ≠ "denied")
      (hdecides : FederatedApprovalStore.Decides (visit.twins.getD []) workflowId.str
        context.node.nodeId decision)
      (hrun : run' =
        run.record (.decisionFound context.node.nodeId (visit.twins.getD []) decision))
  | fellThrough (tasks : List Task) (hstatus : visit.statusRead ≠ some "pending")
      (hrun : run' = { run with
        db := { run.db with tasks }
        dag := run.dag.markPending context.node.nodeId
        reopened := run.reopened ++ [context.node.nodeId]
        log := run.log ++ [.statusRead context.node.nodeId visit.statusRead] })

/-- The gate pauses the run on a node. -/
structure Paused (workflowId : UUID) (visit : Visit) (run : Run) (context : NodeContext)
    (stopped : Stopped) : Prop where
  pause : ∃ request, stopped.1 = .paused
    { workflowId
      nodeId := context.node.nodeId
      request
      checkpoint := visit.savedHash.map (fun hash =>
        { gateCheckpoint workflowId visit (run.dag.markPending context.node.nodeId) context with
          contentHash := some hash }) }
  state : ∃ workflows tasks, stopped.2 = { run with
    db := { run.db with workflows, tasks }
    dag := run.dag.markPending context.node.nodeId
    reopened := run.reopened ++ [context.node.nodeId]
    log := run.log ++
      [ .statusRead context.node.nodeId (some "pending")
      , .paused context.node.nodeId (run.contexts.map (fun context => context.node.nodeId))
          (run.reopened ++ [context.node.nodeId]) ] }

/-- The gate stops a run by an exception or by a pause. -/
def GateStopped (workflowId : UUID) (visit : Visit) (run : Run) (node : DAGNode)
    (stopped : Stopped) : Prop :=
  RaisedFrom run stopped ∨
    ∃ context ∈ run.contexts, context.node.nodeId = node.nodeId ∧
      Paused workflowId visit run context stopped

theorem Run.context?_eq_some {run : Run} {nodeId : String} {context : NodeContext}
    (h : run.context? nodeId = some context) :
    context ∈ run.contexts ∧ context.node.nodeId = nodeId :=
  ⟨List.mem_of_find?_eq_some h, by simpa using List.find?_some h⟩

private theorem awaitApproval_eq (workflowId : UUID) (visit : Visit) (db : Db)
    (context : NodeContext) :
    ∃ workflows tasks, awaitApproval workflowId visit db context = { db with workflows, tasks } := by
  unfold awaitApproval
  split
  · exact ⟨_, _, rfl⟩
  · exact ⟨db.workflows, db.tasks, rfl⟩

theorem gateNode_holds (env : Environment) (workflowId : UUID) (visit : Visit) (run : Run)
    (node : DAGNode) :
    Outcome.Holds
      (fun run' => ∃ context ∈ run.contexts, context.node.nodeId = node.nodeId ∧
        Gated env workflowId visit run context run')
      (GateStopped workflowId visit run node)
      (gateNode env workflowId visit run node) := by
  unfold gateNode
  cases hcontext : run.context? node.nodeId with
  | none => exact Or.inl ⟨rfl, .refl rfl⟩
  | some context =>
    obtain ⟨hmem, hid⟩ := Run.context?_eq_some hcontext
    have hcheck : ∀ {run' : Run} (raises : Bool), Quietly run run' →
        Outcome.Holds (fun _ => raises = false) (GateStopped workflowId visit run node)
          (run'.check raises) :=
      fun raises h => (Run.check_holds h).mono (fun _ h => h) (fun _ h => Or.inl h)
    dsimp only
    cases hdecision : FederatedApprovalStore.findDecisionForNode env.order (visit.twins.getD [])
        workflowId.str node.nodeId with
    | some decision =>
      dsimp only
      split
      · rename_i hdenied
        unfold denyNode
        refine (hcheck _ (.record rfl rfl)).bind (fun _ _ => ?_)
        exact ⟨context, hmem, hid, .denied decision _ _ hdenied (by rw [← hid]; rfl)⟩
      · rename_i hdenied
        refine ⟨context, hmem, hid, .passed decision hdenied ?_ (by rw [hid])⟩
        rw [hid]
        exact FederatedApprovalStore.decides_of_findDecisionForNode hdecision
    | none =>
      unfold requestApproval
      dsimp only
      have hreset : Quietly run { run with
          dag := run.dag.markPending context.node.nodeId
          reopened := run.reopened ++ [context.node.nodeId] } := .refl rfl
      refine (hcheck _ hreset).bind (fun _ _ => (hcheck _ hreset).bind (fun _ _ => ?_))
      split
      · rename_i hpending
        obtain ⟨workflows, tasks, hdb⟩ := awaitApproval_eq workflowId visit run.db context
        refine Or.inr ⟨context, hmem, hid, ⟨_, rfl⟩, workflows, tasks, ?_⟩
        simp only [Run.record, hdb, hpending, List.append_assoc, List.cons_append,
          List.nil_append]
      · rename_i hpending
        refine (hcheck _ (.record rfl rfl)).bind (fun _ _ => ?_)
        exact ⟨context, hmem, hid, .fellThrough _ hpending rfl⟩

end WorkflowScheduler

end MassClaw
