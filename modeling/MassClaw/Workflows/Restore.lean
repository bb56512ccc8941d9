import MassClaw.Scheduler.CheckpointStore
import MassClaw.Scheduler.Prepare

/-!
# Restoring a workflow, `app/orchestration/resume.py`

`restore` writes the snapshot of a checkpoint back to the workflow row, which
it creates if the node has never seen the workflow, and adjusts the task rows
to the buckets of the checkpoint.  The row is RUNNING from then on, whatever it
was before; the run itself is started elsewhere.
-/

namespace MassClaw

/-- What a resume meets outside the database: the clock, the ids of new task
rows, `hash` and `repr` of a text. -/
structure ResumeInput where
  now : Time
  newTaskId : String → UUID
  stringHash : String → Int
  quote : String → String

/-- `ResumeError`, with its text. -/
structure ResumeError where
  message : String

/-- `ResumeOutcome`, without the rows. -/
structure ResumeOutcome where
  createdWorkflow : Bool
  createdTaskIds : List String := []
  updatedTaskIds : List String := []

namespace WorkflowResumer

/-- What `load` and `restore` raise. -/
inductive Failure
  | resume (error : ResumeError)
  | checkpoint (error : CheckpointLoadError)
  | snapshot (error : SnapshotError)

/-- `load`. -/
def load (host : Host) (input : ResumeInput) (db : Db) (contentHash : String) :
    Except Failure WorkflowCheckpoint :=
  if contentHash = "" then .error (.resume ⟨"content_hash is required"⟩)
  else
    match CheckpointStore.loadByHash host input.now db contentHash with
    | .error error => .error (.checkpoint error)
    | .ok none => .error (.resume ⟨s!"checkpoint not found for hash {input.quote contentHash}"⟩)
    | .ok (some checkpoint) => .ok checkpoint

/-- `_bucket_statuses`. -/
def bucketStatuses (checkpoint : WorkflowCheckpoint) : List (String × TaskStatus) :=
  Assoc.ofList
    (checkpoint.completedTaskIds.map (·, .completed) ++
      checkpoint.failedTaskIds.map (·, .failed) ++ checkpoint.pendingTaskIds.map (·, .pending))

/-- `status_by_node.get(node_id, TaskStatus.PENDING)`. -/
def targetStatus (checkpoint : WorkflowCheckpoint) (nodeId : String) : TaskStatus :=
  (((bucketStatuses checkpoint).find? (fun entry => entry.1 = nodeId)).map Prod.snd).getD .pending

/-- `_step_number`: an id without digits is numbered by its hash. -/
def stepNumber (input : ResumeInput) (nodeId : String) : Nat :=
  if nodeId.toList.any Char.isDigit then WorkflowScheduler.stepNumber nodeId
  else (input.stringHash nodeId).natAbs % (2 ^ 31 - 1) + 1

/-- The row of a workflow that this node has never seen. -/
def shadowWorkflow (now : Time) (checkpoint : WorkflowCheckpoint) : Workflow where
  workflowId := checkpoint.workflowId
  prompt :=
    let hash := String.ofList ((checkpoint.contentHash.getD "").toList.take 12)
    s!"resumed from checkpoint {hash}"
  status := .running
  budgetLimit := numeric4 100
  budgetUsed := 0
  dagSnapshot := some checkpoint.dagSnapshot
  result := none
  startedAt := some now
  completedAt := none

/-- The workflow row is created or patched. -/
def restoreWorkflow (now : Time) (db : Db) (checkpoint : WorkflowCheckpoint) : Bool × Db :=
  match db.workflow? checkpoint.workflowId with
  | none => (true, { db with workflows := db.workflows ++ [shadowWorkflow now checkpoint] })
  | some _ => (false, db.updateWorkflow checkpoint.workflowId (fun workflow =>
      { workflow with
        dagSnapshot := some checkpoint.dagSnapshot
        status := .running
        completedAt := none }))

/-- The new row of a node. -/
def newTask (input : ResumeInput) (checkpoint : WorkflowCheckpoint) (node : DAGNode) : Task where
  taskId := input.newTaskId node.nodeId
  workflowId := checkpoint.workflowId
  assignedAgentId := none
  stepNumber := stepNumber input node.nodeId
  capability := node.capability
  description := node.description
  status := targetStatus checkpoint node.nodeId
  output := none
  confidence := none
  retryCount := 0
  costUsed := 0
  latencyMs := none
  errorMessage := none
  completedAt := none

/-- The task row of a node, among the rows that were there before, is adjusted
to the bucket of the node, or a row is added. -/
def restoreTask (input : ResumeInput) (checkpoint : WorkflowCheckpoint) (existing : List Task)
    (state : ResumeOutcome × Db) (node : DAGNode) : ResumeOutcome × Db :=
  let (outcome, db) := state
  let target := targetStatus checkpoint node.nodeId
  match existing.find? (fun task => task.stepNumber = stepNumber input node.nodeId) with
  | none =>
    ({ outcome with createdTaskIds := outcome.createdTaskIds ++ [node.nodeId] },
      { db with tasks := db.tasks ++ [newTask input checkpoint node] })
  | some task =>
    if (db.task? task.taskId).map Task.status = some target then (outcome, db)
    else
      ({ outcome with updatedTaskIds := outcome.updatedTaskIds ++ [node.nodeId] },
        db.updateTask task.taskId (fun task => { task with status := target }))

/-- `restore`. -/
def restore (input : ResumeInput) (db : Db) (checkpoint : WorkflowCheckpoint) :
    Except Failure (ResumeOutcome × Db) :=
  match DAG.fromDict checkpoint.dagSnapshot with
  | .error error => .error (.snapshot error)
  | .ok dag =>
    let (createdWorkflow, db) := restoreWorkflow input.now db checkpoint
    let existing := db.tasks.filter (fun task => task.workflowId = checkpoint.workflowId)
    .ok (dag.nodes.foldl (restoreTask input checkpoint existing) ({ createdWorkflow }, db))

/-! ## What is restored -/

theorem workflows_restoreTask {input : ResumeInput} {checkpoint : WorkflowCheckpoint}
    {existing : List Task} (state : ResumeOutcome × Db) (node : DAGNode) :
    (restoreTask input checkpoint existing state node).2.workflows = state.2.workflows := by
  obtain ⟨outcome, db⟩ := state
  unfold restoreTask
  dsimp only
  split
  · rfl
  · split <;> rfl

theorem workflows_restoreTasks {input : ResumeInput} {checkpoint : WorkflowCheckpoint}
    {existing : List Task} (nodes : List DAGNode) (state : ResumeOutcome × Db) :
    (nodes.foldl (restoreTask input checkpoint existing) state).2.workflows =
      state.2.workflows := by
  induction nodes generalizing state with
  | nil => rfl
  | cons node rest ih => rw [List.foldl_cons, ih, workflows_restoreTask]

/-- The row of the workflow is running with the snapshot of the checkpoint. -/
theorem workflow?_restoreWorkflow (now : Time) (db : Db) (checkpoint : WorkflowCheckpoint) :
    ∃ workflow, (restoreWorkflow now db checkpoint).2.workflow? checkpoint.workflowId =
        some workflow ∧ workflow.status = .running ∧
      workflow.dagSnapshot = some checkpoint.dagSnapshot := by
  unfold restoreWorkflow
  cases hfound : db.workflow? checkpoint.workflowId with
  | none =>
    refine ⟨shadowWorkflow now checkpoint, ?_, rfl, rfl⟩
    unfold Db.workflow? at hfound ⊢
    rw [List.find?_append, hfound]
    simp [shadowWorkflow]
  | some workflow =>
    dsimp only
    rw [Db.workflow?_updateWorkflow _ _ _ (by intro; rfl), hfound]
    exact ⟨_, rfl, rfl, rfl⟩

/-- A restored workflow is running from the snapshot of its checkpoint. -/
theorem workflow?_restore {input : ResumeInput} {db db' : Db} {checkpoint : WorkflowCheckpoint}
    {outcome : ResumeOutcome} (h : restore input db checkpoint = .ok (outcome, db')) :
    ∃ workflow, db'.workflow? checkpoint.workflowId = some workflow ∧
      workflow.status = .running ∧ workflow.dagSnapshot = some checkpoint.dagSnapshot := by
  unfold restore at h
  split at h
  · cases h
  · rename_i dag hdag
    obtain ⟨workflow, hfound, hrow⟩ := workflow?_restoreWorkflow input.now db checkpoint
    refine ⟨workflow, ?_, hrow⟩
    show (outcome, db').2.workflow? checkpoint.workflowId = some workflow
    rw [← Except.ok.inj h, Db.workflow?, workflows_restoreTasks]
    exact hfound

end WorkflowResumer

end MassClaw
