import MassClaw.Scheduler.State
import MassClaw.Wallet.Operations

/-!
# Phase 1: preparing the ready nodes

Every ready node gets an agent, a budget reservation and a task row, or fails.
The reservation is sized by `_estimate_node_cost` and keyed by workflow and
node, so that a node which becomes ready again is not reserved twice.
-/

namespace MassClaw

namespace WorkflowScheduler

/-! ## The estimate -/

/-- `HAIKU_CAPABILITIES`. -/
def haikuCapabilities : List String :=
  ["intake", "classify", "extract-requirements", "data-retrieval", "literature-review",
    "summarization"]

/-- `SONNET_CAPABILITIES`. -/
def sonnetCapabilities : List String :=
  ["verification", "quality-check", "consistency-audit", "risk-assessment", "compliance-check",
    "safety-analysis", "optimization", "process-analysis", "report-generation",
    "executive-brief", "cost-analysis"]

/-- `_select_model`: the model and its output ceiling. -/
def selectModel (node : DAGNode) : String × Nat :=
  if node.capability ∈ haikuCapabilities ∧ node.estimatedComplexity ≠ "high" then
    ("claude-haiku-4-5-20251001", 1000)
  else if node.capability ∈ sonnetCapabilities ∨ node.estimatedComplexity = "high" then
    ("claude-sonnet-5", 2000)
  else ("claude-sonnet-5", 1200)

/-- `_ASSUMED_PROMPT_TOKENS`. -/
def assumedPromptTokens : Nat := 6000

/-- `_ITERATION_ALLOWANCE`. -/
def iterationAllowance : ℚ := 15 / 100

/-- `_estimate_node_cost`. -/
def estimateNodeCost (toolMaxIterations : Int) (node : DAGNode) (agent : Agent) : ℚ :=
  let perCallUsd := estimateCost assumedPromptTokens (selectModel node).2 (selectModel node).1
  let iterations := 1 + (toolMaxIterations - 1) * iterationAllowance
  max (tokensToCredits perCallUsd * iterations) (tokensToCredits agent.avgCostPerCall * (3 / 2))

/-- An amount with one decimal, as the format `.1f` prints it: ties to even. -/
def formatTenths (amount : ℚ) : String :=
  let scaled := |amount| * 10
  let floor := ⌊scaled⌋
  let tenths :=
    if scaled - floor < 1 / 2 ∨ scaled - floor = 1 / 2 ∧ floor % 2 = 0 then floor else floor + 1
  let sign := if amount < 0 then "-" else ""
  s!"{sign}{tenths / 10}.{tenths % 10}"

/-- The digits of a node id as a number, 0 without digits. -/
def stepNumber (nodeId : String) : Nat :=
  (nodeId.toList.filter Char.isDigit).foldl (fun acc digit => acc * 10 + (digit.toNat - 48)) 0

/-- The idempotency key of the reservation. -/
def reserveKey (workflowId : UUID) (nodeId : String) : String :=
  s!"{workflowId.str}:{nodeId}:reserve"

/-- The idempotency key of the charge. -/
def chargeKey (workflowId : UUID) (nodeId : String) : String :=
  s!"{workflowId.str}:{nodeId}:charge"

/-! ## The phase -/

/-- `_upsert_task_row`: the task row of a node is used again, or created. -/
def upsertTaskRow (workflowId : UUID) (visit : Visit) (run : Run) (node : DAGNode)
    (agentId : Option UUID) (status : TaskStatus) (errorMessage : Option String) :
    Except Stopped (UUID × Run) := do
  run.check (visit.raises .upsertTask)
  match ((run.dag.node? node.nodeId).bind DAGNode.taskId).bind run.db.task? with
  | some existing =>
    return (existing.taskId, run.updateTask existing.taskId (fun task =>
      { task with
        status
        errorMessage
        assignedAgentId := agentId.or task.assignedAgentId }))
  | none =>
    run.check (run.db.task? visit.newTaskId).isSome
    let task : Task :=
      { taskId := visit.newTaskId
        workflowId
        assignedAgentId := agentId
        stepNumber := stepNumber node.nodeId
        capability := node.capability
        description := node.description
        status
        output := none
        confidence := none
        retryCount := 0
        costUsed := 0
        latencyMs := none
        errorMessage
        completedAt := none }
    return (visit.newTaskId,
      { run with
        db := { run.db with tasks := run.db.tasks ++ [task] }
        dag := run.dag.setTaskId node.nodeId visit.newTaskId })

/-- The end of Phase 1 for a node whose budget is reserved. -/
def startNode (workflowId : UUID) (visit : Visit) (run : Run) (node : DAGNode) (agent : Agent) :
    Except Stopped Run := do
  let run := { run with dag := run.dag.markRunning node.nodeId }
  let (taskId, run) ← upsertTaskRow workflowId visit run node (some agent.agentId) .running none
  run.check (visit.raises .context)
  return { run with contexts := run.contexts ++ [{ node, taskId, agent }] }

/-- The end of Phase 1 for a node that the budget does not cover. -/
def starveNode (workflowId : UUID) (visit : Visit) (run : Run) (node : DAGNode) (agent : Agent)
    (estimatedCost : ℚ) : Except Stopped Run := do
  let need := formatTenths estimatedCost
  let run := { run with
    dag := run.dag.markFailed node.nodeId
      (some s!"Budget insufficient for {node.capability}: need ~{need} cr") }
  let (_, run) ← upsertTaskRow workflowId visit run node (some agent.agentId) .failed
    (some s!"Budget insufficient: need ~{need} cr")
  return run

/-- Phase 1 on one ready node. -/
def prepareNode (env : Environment) (workflowId : UUID) (agents : String → Option Agent)
    (visit : Visit) (run : Run) (node : DAGNode) : Except Stopped Run :=
  match agents node.nodeId with
  | none => .ok { run with dag := run.dag.markFailed node.nodeId (some "No agent assigned") }
  | some agent => do
    let estimatedCost := estimateNodeCost env.toolMaxIterations node agent
    run.check (visit.raises .reserve)
    match WalletService.reserveBudget run.db workflowId (some agent.agentId) estimatedCost
        s!"Task {node.nodeId}: {node.capability}" (some (reserveKey workflowId node.nodeId)) with
    | .error (.budgetExhausted _ _ _ _ _) =>
      starveNode workflowId visit run node agent estimatedCost
    | .error _ => throw (.raised, run)
    | .ok (reservation, db) =>
      let run := { run with db }
      run.check (visit.raises .reserveCache)
      let run := { run with
        reservations := run.reservations ++ [(node.nodeId, reservation)]
        log := run.log ++ [.reserved node.nodeId reservation] }
      startNode workflowId visit run node agent

/-! ## What the phase does -/

/-- The node has a task row after the step: the one it had, or a new one. -/
def Tasked (before after : DAG) (nodeId : String) (taskId : UUID) : Prop :=
  (after = before ∧ (before.node? nodeId).bind DAGNode.taskId = some taskId) ∨
    after = before.setTaskId nodeId taskId

/-- A task row is written and nothing else. -/
def RowWritten (before : Run) (nodeId : String) (result : UUID × Run) : Prop :=
  ∃ tasks dag, Tasked before.dag dag nodeId result.1 ∧
    result.2 = { before with db := { before.db with tasks }, dag }

theorem upsertTaskRow_holds {workflowId : UUID} {visit : Visit} {start run : Run} {node : DAGNode}
    {agentId : Option UUID} {status : TaskStatus} {errorMessage : Option String}
    (hstart : Quietly start run) :
    Outcome.Holds (RowWritten run node.nodeId) (RaisedFrom start)
      (upsertTaskRow workflowId visit run node agentId status errorMessage) := by
  unfold upsertTaskRow
  refine (Run.check_holds hstart).bind (fun _ _ => ?_)
  cases hexisting : ((run.dag.node? node.nodeId).bind DAGNode.taskId).bind run.db.task? with
  | some existing =>
    dsimp only
    obtain ⟨taskId, htask, hrow⟩ := Option.bind_eq_some_iff.1 hexisting
    have hid : existing.taskId = taskId := by
      simpa using List.find?_some hrow
    exact ⟨_, run.dag, Or.inl ⟨rfl, by rw [htask, hid]⟩, rfl⟩
  | none =>
    dsimp only
    refine (Run.check_holds hstart).bind (fun _ _ => ?_)
    exact ⟨_, _, Or.inr rfl, rfl⟩

/-- The ways in which Phase 1 leaves a ready node. -/
inductive Prepared (env : Environment) (workflowId : UUID) (agents : String → Option Agent)
    (run : Run) (node : DAGNode) (run' : Run) : Prop
  | noAgent (error : String) (hagent : agents node.nodeId = none)
      (hrun : run' = { run with dag := run.dag.markFailed node.nodeId (some error) })
  | starved (error : String) (tasks : List Task) (dag : DAG) (taskId : UUID)
      (htask : Tasked (run.dag.markFailed node.nodeId (some error)) dag node.nodeId taskId)
      (hrun : run' = { run with db := { run.db with tasks }, dag })
  | started (agent : Agent) (reservation : WalletEvent) (db : Db) (tasks : List Task) (dag : DAG)
      (taskId : UUID) (hagent : agents node.nodeId = some agent)
      (hreserve : WalletService.reserveBudget run.db workflowId (some agent.agentId)
        (estimateNodeCost env.toolMaxIterations node agent)
        s!"Task {node.nodeId}: {node.capability}" (some (reserveKey workflowId node.nodeId)) =
          .ok (reservation, db))
      (htask : Tasked (run.dag.markRunning node.nodeId) dag node.nodeId taskId)
      (hrun : run' = { run with
        db := { db with tasks }
        dag
        reservations := run.reservations ++ [(node.nodeId, reservation)]
        contexts := run.contexts ++ [{ node, taskId, agent }]
        log := run.log ++ [.reserved node.nodeId reservation] })

theorem prepareNode_holds (env : Environment) (workflowId : UUID)
    (agents : String → Option Agent) (visit : Visit) (run : Run) (node : DAGNode) :
    Outcome.Holds (Prepared env workflowId agents run node) (RaisedFrom run)
      (prepareNode env workflowId agents visit run node) := by
  unfold prepareNode
  cases hagent : agents node.nodeId with
  | none => exact .noAgent _ hagent rfl
  | some agent =>
    dsimp only
    refine (Run.check_holds (.refl rfl)).bind (fun _ _ => ?_)
    cases hreserve : WalletService.reserveBudget run.db workflowId (some agent.agentId)
        (estimateNodeCost env.toolMaxIterations node agent)
        s!"Task {node.nodeId}: {node.capability}" (some (reserveKey workflowId node.nodeId)) with
    | error error =>
      cases error with
      | budgetExhausted need available limit used reserved =>
        unfold starveNode
        refine (upsertTaskRow_holds (.refl rfl)).bind ?_
        rintro ⟨taskId, run'⟩ ⟨tasks, dag, htask, hrun⟩
        exact .starved _ tasks dag taskId htask hrun
      | validation => exact ⟨rfl, .refl rfl⟩
      | notFound resource => exact ⟨rfl, .refl rfl⟩
      | integrity => exact ⟨rfl, .refl rfl⟩
      | numericOverflow => exact ⟨rfl, .refl rfl⟩
    | ok result =>
      obtain ⟨reservation, db⟩ := result
      dsimp only
      refine (Run.check_holds (.refl rfl)).bind (fun _ _ => ?_)
      have hlog : Quietly run { run with
          db
          dag := run.dag.markRunning node.nodeId
          reservations := run.reservations ++ [(node.nodeId, reservation)]
          log := run.log ++ [.reserved node.nodeId reservation] } :=
        .record rfl rfl
      unfold startNode
      refine (upsertTaskRow_holds hlog).bind ?_
      rintro ⟨taskId, run'⟩ ⟨tasks, dag, htask, hrun⟩
      dsimp only at hrun ⊢
      have hlog' : Quietly run run' := .record (by rw [hrun]) rfl
      refine (Run.check_holds hlog').bind (fun _ _ => ?_)
      exact .started agent reservation db tasks dag taskId hagent hreserve htask (by rw [hrun])

end WorkflowScheduler

end MassClaw
