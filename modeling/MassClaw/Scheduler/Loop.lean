import MassClaw.Scheduler.Gate
import MassClaw.Scheduler.Settle

/-!
# The scheduler loop, `execute_workflow`

While the DAG is not complete and has ready nodes, a batch takes all of them
through the phases.  The loop has a bound on its iterations; past it the
workflow is failed as a runaway.  Otherwise the outputs are synthesized and
the workflow is finalised by the counts of completed and failed nodes.
-/

namespace MassClaw

namespace WorkflowScheduler

variable (env : Environment) (workflowId : UUID) (agents : String → Option Agent)

/-! ## One batch -/

/-- The variables of a new batch. -/
def openBatch (run : Run) : Run :=
  { run with
    contexts := []
    reservations := []
    reopened := []
    log := run.log ++ [.batch (run.dag.getReadyNodes.map DAGNode.nodeId)] }

/-- The nodes with a context whose capability requires an approval. -/
def highRiskNodes (run : Run) : List DAGNode :=
  (run.contexts.map NodeContext.node).filter (fun node =>
    node.capability ∈ approvalRequiredCapabilities)

/-- `workflow.dag_snapshot = dag.to_dict()` and the flush. -/
def persistDag (iteration : Nat) (run : Run) : Except Stopped Run := do
  let run := { run with
    db := run.db.updateWorkflow workflowId (fun workflow =>
      { workflow with dagSnapshot := some run.dag.toDict }) }
  run.check (env.persistRaises iteration)
  return run

/-- Phase 1. -/
def preparePhase (iteration : Nat) (ready : List DAGNode) (run : Run) : Except Stopped Run :=
  ready.foldlM (fun run node =>
    prepareNode env workflowId agents (env.visit iteration node.nodeId) run node) run

/-- Phase 1.5, with the nodes that went through the gate. -/
def gatePhase (iteration : Nat) (run : Run) : Except Stopped (List DAGNode × Run) := do
  let highRisk := highRiskNodes run
  let (run, escalated) ← policyEvaluateNodes env iteration run
  let gated := highRisk ++ escalated.filter (fun node => node ∉ highRisk)
  let run ← approvalGate env workflowId iteration gated run
  return (gated, run)

/-- Phase 3. -/
def settlePhase (iteration : Nat) (run : Run) : Except Stopped Run :=
  run.contexts.foldlM (fun run context =>
    settleNode env workflowId (env.visit iteration context.node.nodeId) run context) run

/-- The body of the loop for a DAG with ready nodes. -/
def executeBatch (iteration : Nat) (run : Run) : Except Stopped Run := do
  let run ← preparePhase env workflowId agents iteration run.dag.getReadyNodes (openBatch run)
  let (gated, run) ← gatePhase env workflowId iteration run
  let run ← executeNodes env iteration gated run
  let run ← settlePhase env workflowId iteration run
  persistDag env workflowId iteration run

/-! ## The loop -/

/-- `max_iterations_defensive`. -/
def maxIterations (dag : DAG) : Nat := max (dag.nodes.length * 5) 50

/-- The loop with the number of iterations that are left; the flag tells
whether it ran away. -/
def loop : Nat → Nat → Run → Except Stopped (Bool × Run)
  | 0, _, run => .ok (!run.dag.isComplete, run)
  | remaining + 1, iteration, run =>
    if run.dag.isComplete then .ok (false, run)
    else if run.dag.getReadyNodes.isEmpty then .ok (false, run)
    else do
      let run ← executeBatch env workflowId agents iteration run
      loop remaining (iteration + 1) run

/-! ## The end of a run -/

/-- The end of a runaway loop. -/
def failRunaway (limit : Nat) (run : Run) : Except Stopped (List (String × Json) × Run) := do
  let result : List (String × Json) :=
    [ ("error", .str "scheduler_loop_runaway")
    , ("detail", .str s!"Exceeded {limit} iterations without completing")
    , ("completed", .int run.dag.completedCount)
    , ("failed", .int run.dag.failedCount) ]
  let run := { run with
    db := run.db.updateWorkflow workflowId (fun workflow =>
      { workflow with
        status := .failed
        completedAt := some env.finishTime
        result := some result }) }
  run.check env.finishFlushRaises
  return (result, run)

/-- The output of the synthesizer, or what stands in for it. -/
def synthesize : List (String × Json) :=
  match env.synthesis with
  | .ok result => result
  | .error message =>
    [ ("content", .str
        "Synthesis failed. Individual task outputs are available in the DAG.")
    , ("confidence", .float (.finite 0))
    , ("summary", .str s!"Synthesis error: {message}")
    , ("synthesis_failed", .bool true) ]

/-- The status a workflow is finalised with. -/
def finalStatus (dag : DAG) : WorkflowStatus :=
  if 0 < dag.failedCount ∧ dag.completedCount = 0 then .failed else .completed

/-- The keys a finalised workflow adds to the synthesized result. -/
def finalResult (dag : DAG) (workflow : Workflow) : List (String × Json) :=
  let result := synthesize env
  let result :=
    if 0 < dag.failedCount ∧ 0 < dag.completedCount then
      Assoc.set (Assoc.set result "partial" (.bool true)) "failed_tasks" (.int dag.failedCount)
    else result
  let result :=
    if dag.skippedCount ≠ 0 then Assoc.set result "skipped_tasks" (.int dag.skippedCount)
    else result
  let starved := dag.nodesFailedForBudget
  let result :=
    if starved.isEmpty then result
    else
      Assoc.set (Assoc.set (Assoc.set (Assoc.set result "budget_exhausted" (.bool true))
        "budget_exhausted_tasks" (.list (starved.map .str)))
        "budget_limit" (.float (.finite (toFloat workflow.budgetLimit))))
        "budget_used" (.float (.finite (toFloat workflow.budgetUsed)))
  match env.synthesis with
  | .ok _ => result
  | .error _ => Assoc.set result "synthesis_failed" (.bool true)

/-- Finalise the workflow row. -/
def finalise (run : Run) : Except Stopped (List (String × Json) × Run) :=
  match run.db.workflow? workflowId with
  | none => .error (.raised, run)
  | some workflow => do
    let result := finalResult env run.dag workflow
    let run := { run with
      db := run.db.updateWorkflow workflowId (fun workflow =>
        { workflow with
          status := finalStatus run.dag
          completedAt := some env.finishTime
          result := some result
          dagSnapshot := some run.dag.toDict }) }
    run.check env.finishFlushRaises
    return (result, run)

/-- The run at the start of the loop. -/
def startRun (db : Db) (dag : DAG) : Run where
  db := db.updateWorkflow workflowId (fun workflow =>
    { workflow with
      status := .running
      startedAt := some env.startTime
      dagSnapshot := some dag.toDict })
  dag := dag

/-- `execute_workflow`. -/
def executeWorkflow (db : Db) (dag : DAG) : Except Stopped (List (String × Json) × Run) := do
  let run := startRun env workflowId db dag
  run.check env.startFlushRaises
  let (runaway, run) ← loop env workflowId agents (maxIterations dag) 1 run
  if runaway then failRunaway env workflowId (maxIterations dag) run
  else finalise env workflowId run

end WorkflowScheduler

end MassClaw
