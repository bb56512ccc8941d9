import MassClaw.Dag.Completed
import MassClaw.Scheduler.Batch

/-!
# What a batch does to the retry counts

The reflection on a completed node resets it for another attempt, and counts
the retry in the task row.  No step of a run lowers the count of a row or takes
the row away from its node, and only the reset makes a node wait again that
the batch has taken up.
-/

namespace MassClaw

/-! ## The counts -/

/-- The retries that a task row counts; 0 without a row. -/
def Db.retryCount (db : Db) (taskId : UUID) : Nat :=
  ((db.task? taskId).map Task.retryCount).getD 0

/-- No row counts fewer retries than before. -/
def RetriesGrow (db db' : Db) : Prop := ∀ taskId, db.retryCount taskId ≤ db'.retryCount taskId

theorem RetriesGrow.of_tasks {db db' : Db} (h : db'.tasks = db.tasks) : RetriesGrow db db' := by
  intro taskId
  unfold Db.retryCount Db.task?
  rw [h]

theorem RetriesGrow.trans {db₁ db₂ db₃ : Db} (h : RetriesGrow db₁ db₂) (h' : RetriesGrow db₂ db₃) :
    RetriesGrow db₁ db₃ :=
  fun taskId => (h taskId).trans (h' taskId)

theorem Db.retryCount_updateTask (db : Db) (taskId : UUID) (f : Task → Task)
    (hf : ∀ task, (f task).taskId = task.taskId) (other : UUID) :
    (db.updateTask taskId f).retryCount other =
      if other = taskId then (((db.task? other).map f).map Task.retryCount).getD 0
      else db.retryCount other := by
  unfold retryCount
  rw [task?_updateTask db taskId f hf]
  split
  · rfl
  · rfl

theorem retriesGrow_updateTask (db : Db) (taskId : UUID) (f : Task → Task)
    (hf : ∀ task, (f task).taskId = task.taskId ∧ task.retryCount ≤ (f task).retryCount) :
    RetriesGrow db (db.updateTask taskId f) := by
  intro other
  rw [Db.retryCount_updateTask db taskId f (fun task => (hf task).1)]
  split
  · unfold Db.retryCount
    cases db.task? other with
    | none => exact le_refl _
    | some task => exact (hf task).2
  · exact le_refl _

theorem retriesGrow_append (db : Db) (task : Task) :
    RetriesGrow db { db with tasks := db.tasks ++ [task] } := by
  intro other
  unfold Db.retryCount Db.task?
  rw [List.find?_append]
  cases db.tasks.find? (fun task => task.taskId = other) with
  | none => exact Nat.zero_le _
  | some found => exact le_refl _

namespace WorkflowScheduler

/-- The retries of a node. -/
def retries (run : Run) (nodeId : String) : Nat :=
  (run.dag.taskId? nodeId).elim 0 run.db.retryCount

/-- The node waits for its turn. -/
def IsWaiting (dag : DAG) (nodeId : String) : Prop :=
  ∃ status, dag.status? nodeId = some status ∧ status.IsStartable

theorem not_isWaiting {dag : DAG} {nodeId : String}
    (h : ∀ status, dag.status? nodeId = some status → ¬status.IsStartable) :
    ¬IsWaiting dag nodeId := by
  rintro ⟨status, hstatus, hstart⟩
  exact h status hstatus hstart

/-! ## Steps of a batch -/

/-- A step on the node `nodeId`: rows and counts stay or grow, and no other node
begins to wait. -/
structure Moves (nodeId : String) (run run' : Run) : Prop where
  ids : run'.dag.ids = run.dag.ids
  grow : RetriesGrow run.db run'.db
  kept : DAG.TasksKept run.dag run'.dag
  waiting : ∀ other, other ≠ nodeId → IsWaiting run'.dag other → IsWaiting run.dag other
  replans : run'.replanCount = run.replanCount

namespace Moves

variable {nodeId : String} {run run₁ run₂ run' : Run}

theorem trans (h : Moves nodeId run run₁) (h' : Moves nodeId run₁ run₂) : Moves nodeId run run₂ where
  ids := h'.ids.trans h.ids
  grow := h.grow.trans h'.grow
  kept := h.kept.trans h'.kept
  waiting := fun other hne hwaiting => h.waiting other hne (h'.waiting other hne hwaiting)
  replans := h'.replans.trans h.replans

/-- Only the database changes. -/
theorem of_db (hdag : run'.dag = run.dag) (hreplans : run'.replanCount = run.replanCount)
    (hgrow : RetriesGrow run.db run'.db) : Moves nodeId run run' where
  ids := by rw [hdag]
  grow := hgrow
  kept := by
    rw [hdag]
    exact DAG.TasksKept.refl _
  waiting := by
    rw [hdag]
    exact fun _ _ h => h
  replans := hreplans

theorem refl (run : Run) : Moves nodeId run run :=
  .of_db rfl rfl (.of_tasks rfl)

/-- A task row is assigned to. -/
theorem updateTask (run : Run) (taskId : UUID) (f : Task → Task)
    (hf : ∀ task, (f task).taskId = task.taskId ∧ task.retryCount ≤ (f task).retryCount) :
    Moves nodeId run (run.updateTask taskId f) :=
  .of_db rfl rfl (retriesGrow_updateTask run.db taskId f hf)

/-- A task row is failed. -/
theorem failTask (run : Run) (taskId : UUID) (message : String) :
    Moves nodeId run (run.updateTask taskId (fun task =>
      { task with status := .failed, errorMessage := some message })) :=
  updateTask run taskId _ (fun _ => ⟨rfl, le_refl _⟩)

/-- The node gets a status. -/
theorem of_status {status : TaskStatus} {dag : DAG} (run : Run)
    (hids : dag.ids = run.dag.ids) (hkept : DAG.TasksKept run.dag dag)
    (hstatus : ∀ other, dag.status? other =
      if other = nodeId then (run.dag.status? other).map (fun _ => status)
      else run.dag.status? other) : Moves nodeId run { run with dag } where
  ids := hids
  grow := .of_tasks rfl
  kept := hkept
  waiting := by
    rintro other hne ⟨otherStatus, hother, hstart⟩
    have hold := hstatus other
    rw [if_neg hne] at hold
    exact ⟨otherStatus, hold ▸ hother, hstart⟩
  replans := rfl

theorem markRunning (run : Run) :
    Moves nodeId run { run with dag := run.dag.markRunning nodeId } :=
  .of_status run (DAG.ids_markRunning _ _) (DAG.tasksKept_markRunning _ _)
    (DAG.status?_markRunning _ _)

theorem markPending (run : Run) :
    Moves nodeId run { run with dag := run.dag.markPending nodeId } :=
  .of_status run (DAG.ids_markPending _ _) (DAG.tasksKept_markPending _ _)
    (DAG.status?_markPending _ _)

theorem markCompleted (run : Run) (output : Option String) :
    Moves nodeId run { run with dag := run.dag.markCompleted nodeId output } :=
  .of_status run (DAG.ids_markCompleted _ _ _) (DAG.tasksKept_markCompleted _ _ _)
    (DAG.status?_markCompleted _ _ _)

theorem markFailed (run : Run) (error : Option String) :
    Moves nodeId run { run with dag := run.dag.markFailed nodeId error } where
  ids := DAG.ids_markFailed _ _ _
  grow := .of_tasks rfl
  kept := DAG.tasksKept_markFailed _ _ _
  waiting := by
    rintro other hne ⟨status, hstatus, hstart⟩
    rcases DAG.status?_markFailed_cases run.dag nodeId error hstatus with ⟨-, rfl⟩ | ⟨-, rfl⟩ |
      ⟨-, -, hold⟩
    · exact absurd hstart (by decide)
    · exact absurd hstart (by decide)
    · exact ⟨status, hold, hstart⟩
  replans := rfl

end Moves

section Ended

variable (dag : DAG) (nodeId : String)

theorem not_isWaiting_markRunning : ¬IsWaiting (dag.markRunning nodeId) nodeId := by
  refine not_isWaiting (fun status hstatus => ?_)
  rw [DAG.status?_markRunning, if_pos rfl] at hstatus
  obtain ⟨_, -, rfl⟩ := Option.map_eq_some_iff.1 hstatus
  decide

theorem not_isWaiting_markCompleted (output : Option String) :
    ¬IsWaiting (dag.markCompleted nodeId output) nodeId := by
  refine not_isWaiting (fun status hstatus => ?_)
  rw [DAG.status?_markCompleted, if_pos rfl] at hstatus
  obtain ⟨_, -, rfl⟩ := Option.map_eq_some_iff.1 hstatus
  decide

theorem not_isWaiting_markFailed (error : Option String) :
    ¬IsWaiting (dag.markFailed nodeId error) nodeId := by
  refine not_isWaiting (fun status hstatus => ?_)
  rcases DAG.status?_markFailed_cases dag nodeId error hstatus with ⟨-, rfl⟩ | ⟨-, rfl⟩ | ⟨h, -, -⟩
  · decide
  · decide
  · exact absurd rfl h

end Ended

private theorem check_any (run : Run) (raises : Bool) :
    Outcome.Holds (fun _ => True) (fun _ => True) (run.check raises) := by
  cases raises with
  | true => trivial
  | false => trivial

/-! ## The calls of Phase 3 -/

section Settle

variable {env : Environment} {workflowId : UUID} {visit : Visit} {nodeId : String} {run run' : Run}
  {context : NodeContext} {response : LLMResponse}

theorem Released.tasks (h : Released workflowId run nodeId run') : run'.db.tasks = run.db.tasks := by
  cases h with
  | unreserved _ hrun => rw [hrun]
  | failed _ _ hrun => rw [hrun]; rfl
  | released _ _ _ db _ hrelease hrun =>
    rw [hrun]
    show db.tasks = run.db.tasks
    rcases WalletService.releaseReservation_cases hrelease with ⟨-, hdb⟩ |
      ⟨-, _, -, -, -, -, -, -, -, -, hdb⟩
    · rw [hdb]
    · rw [hdb]

theorem Released.moves (h : Released workflowId run nodeId run') : Moves nodeId run run' := by
  refine .of_db ?_ ?_ (.of_tasks h.tasks)
  · rw [h.eq]
  · rw [h.eq]

theorem Charged.moves {charged : Bool}
    (h : Charged workflowId visit run context response charged run') : Moves nodeId run run' := by
  refine .of_db ?_ ?_ (.of_tasks ?_)
  · rw [h.eq]
  · rw [h.eq]
  · cases h with
    | unreserved _ _ hrun => rw [hrun]
    | failed _ _ _ _ _ hrun => rw [hrun]
    | booked _ _ _ db _ hcharge hrun =>
      rw [hrun]
      show db.tasks = run.db.tasks
      rcases WalletService.charge_cases hcharge with ⟨-, hdb⟩ |
        ⟨-, _, _, -, -, -, -, -, -, -, -, -, -, -, -, hdb⟩
      · rw [hdb]
      · rw [hdb, Db.tasks_updateWorkflow]

theorem Wrote.moves {content : String} {db : Db}
    (h : Wrote env workflowId visit context content run.db db) :
    Moves nodeId run { run with db } := by
  refine .of_db rfl rfl (.of_tasks ?_)
  show db.tasks = run.db.tasks
  obtain ⟨hlength, record, hwrite⟩ := h
  rcases MemoryService.writeMemory_cases ⟨rfl, rfl, rfl, rfl⟩ hwrite with
    ⟨-, hdb⟩ | ⟨-, -, -, -, hdb⟩
  · rw [hdb]
  · rw [hdb]

/-- The node ends its turn: it is completed, or the call raises. -/
theorem completeNode_moves (charged : Bool) :
    Outcome.Holds
      (fun run' => Moves context.node.nodeId run run' ∧ ¬IsWaiting run'.dag context.node.nodeId)
      (fun failure => Moves context.node.nodeId run failure.run)
      (completeNode visit run context response charged) := by
  unfold completeNode
  split
  · exact .refl run
  · dsimp only
    have hrow : Moves context.node.nodeId run (run.updateTask context.taskId (fun task =>
        { task with
          status := .completed
          output := some [("content", .str response.content), ("model", .str response.model)]
          confidence := some (qualityScore response.content)
          costUsed := numeric4 (tokensToCredits response.cost)
          latencyMs := some response.latencyMs
          completedAt := some visit.now })) :=
      .updateTask run context.taskId _ (fun task => ⟨rfl, le_refl _⟩)
    split
    · exact hrow
    · exact ⟨hrow.trans (.markCompleted _ _), not_isWaiting_markCompleted _ _ _⟩

theorem verifyConsensus_moves (visit : Visit) (run : Run) (context : NodeContext) :
    Moves nodeId run (verifyConsensus visit run context) ∧
    (verifyConsensus visit run context).dag = run.dag := by
  unfold verifyConsensus
  split
  · split
    · exact ⟨.refl run, rfl⟩
    · split
      · exact ⟨.refl run, rfl⟩
      · exact ⟨.updateTask run _ _ (fun task => ⟨rfl, le_refl _⟩), rfl⟩
  · exact ⟨.refl run, rfl⟩

theorem requestReview_moves (visit : Visit) (run : Run) (context : NodeContext) :
    Moves nodeId run (requestReview visit run context) ∧
    (requestReview visit run context).dag = run.dag := by
  unfold requestReview
  split
  · exact ⟨.refl run, rfl⟩
  · refine ⟨.updateTask run _ _ (fun task => ?_), rfl⟩
    split
    · exact ⟨rfl, le_refl _⟩
    · exact ⟨rfl, le_refl _⟩

/-- A node is added, and the replan is counted. -/
structure Replanned (run run' : Run) : Prop where
  added : ∃ node, run.dag.addNode node = some run'.dag ∧ node.taskId = none
  grow : RetriesGrow run.db run'.db
  below : run.replanCount < maxReplansPerWorkflow
  replans : run'.replanCount = run.replanCount + 1

/-- How the turn of a node ends.  It waits no longer, maybe with an alternative,
or it waits again with one more retry in its task row. -/
inductive Turned (context : NodeContext) (run run' : Run) : Prop
  | ended (hmoves : Moves context.node.nodeId run run')
      (hended : ¬IsWaiting run'.dag context.node.nodeId)
  | replanned (run₁ : Run) (hmoves : Moves context.node.nodeId run run₁)
      (hended : ¬IsWaiting run₁.dag context.node.nodeId) (hreplanned : Replanned run₁ run')
  | retried (hmoves : Moves context.node.nodeId run run')
      (hbelow : run.db.retryCount context.taskId < SelfCorrectionEngine.maxRetriesPerTask)
      (hcounted : run.db.retryCount context.taskId < run'.db.retryCount context.taskId)

theorem Turned.of_moves {run₁ : Run} (h : Moves context.node.nodeId run run₁)
    (h' : Turned context run₁ run') : Turned context run run' := by
  cases h' with
  | ended hmoves hended => exact .ended (h.trans hmoves) hended
  | replanned run₂ hmoves hended hreplanned =>
    exact .replanned run₂ (h.trans hmoves) hended hreplanned
  | retried hmoves hbelow hcounted =>
    have hgrow := h.grow context.taskId
    exact .retried (h.trans hmoves) (by omega) (by omega)

/-- The task row of a node that is reset for another attempt. -/
def retriedTask (reflection : ReflectionResult) (task : Task) : Task :=
  let fed := setOutput task "retry_feedback"
    (.str (SelfCorrectionEngine.buildFeedbackPrompt reflection.issues reflection.suggestions))
  { fed with
    retryCount := task.retryCount + 1
    status := .pending
    output := fed.output.map (fun output =>
      output.filter (fun entry => entry.1 ≠ "review_requested")) }

theorem retryTask_turned {reflection : ReflectionResult}
    (hended : ¬IsWaiting run.dag context.node.nodeId) :
    Turned context run (retryTask run context reflection) := by
  unfold retryTask
  split
  · exact .ended (.refl run) hended
  · rename_i task htask
    split
    · rename_i hretry
      show Turned context run { run.updateTask context.taskId (retriedTask reflection) with
        dag := run.dag.markPending context.node.nodeId }
      have hcount : run.db.retryCount context.taskId = task.retryCount := by
        rw [Db.retryCount, htask]
        rfl
      have hbelow : task.retryCount < SelfCorrectionEngine.maxRetriesPerTask := by
        unfold SelfCorrectionEngine.shouldRetry at hretry
        simp only [Bool.and_eq_true, decide_eq_true_eq] at hretry
        exact hretry.1.1
      refine .retried ?_ (hcount ▸ hbelow) ?_
      · exact (Moves.updateTask run context.taskId (retriedTask reflection)
          (fun task => ⟨rfl, Nat.le_succ _⟩)).trans (.markPending _)
      · show _ < (run.db.updateTask context.taskId (retriedTask reflection)).retryCount
          context.taskId
        rw [Db.retryCount_updateTask run.db context.taskId (retriedTask reflection)
          (fun task => rfl), if_pos rfl, htask, hcount]
        exact Nat.lt_succ_self _
    · exact .ended (.refl run) hended

theorem replanTask_turned {reflection : ReflectionResult}
    (hended : ¬IsWaiting run.dag context.node.nodeId) :
    Turned context run (replanTask run context reflection) := by
  unfold replanTask
  split
  · exact .ended (.updateTask run _ _ (fun task => ⟨rfl, le_refl _⟩)) hended
  · rename_i hbelow
    dsimp only
    split
    · exact .ended (.refl run) hended
    · rename_i added dag hreplan
      obtain ⟨node, -, rfl, hadd⟩ := DynamicReplanner.replan_eq_some hreplan
      refine .replanned run (.refl run) hended ⟨⟨_, hadd, rfl⟩, ?_, not_le.1 hbelow, rfl⟩
      exact retriesGrow_updateTask run.db _ _ (fun task => ⟨rfl, le_refl _⟩)

theorem abortWorkflow_moves (workflowId : UUID) (visit : Visit) (run : Run)
    (context : NodeContext) (reflection : ReflectionResult) :
    Moves nodeId run (abortWorkflow workflowId visit run context reflection) ∧
      (abortWorkflow workflowId visit run context reflection).dag = run.dag := by
  unfold abortWorkflow
  dsimp only
  split
  · exact ⟨.of_db rfl rfl (.of_tasks rfl), rfl⟩
  · refine ⟨(Moves.updateTask run context.taskId _ ?_).trans
      (.of_db rfl rfl (.of_tasks rfl)), rfl⟩
    exact fun task => ⟨rfl, le_refl _⟩

theorem reflectOnTask_turned (hended : ¬IsWaiting run.dag context.node.nodeId) :
    Turned context run (reflectOnTask workflowId visit run context) := by
  unfold reflectOnTask
  split
  · exact .ended (.refl run) hended
  · rename_i reflection _
    dsimp only
    refine .of_moves (Moves.updateTask run context.taskId
      (fun task => setOutput task "reflection" (.dict
        [ ("action", .str reflection.action)
        , ("confidence", .float (.finite reflection.confidence))
        , ("issues", jsonTexts 3 reflection.issues)
        , ("suggestions", jsonTexts 3 reflection.suggestions) ]))
      (fun task => ⟨rfl, le_refl _⟩)) ?_
    split
    · exact retryTask_turned hended
    · split
      · exact replanTask_turned hended
      · split
        · obtain ⟨hmoves, hdag⟩ := abortWorkflow_moves workflowId visit _ context reflection
          exact .ended hmoves (by rw [hdag]; exact hended)
        · exact .ended (.refl _) hended

/-- The `try` block of Phase 3 ends the turn of the node, or raises. -/
theorem processResponse_turned (env : Environment) (workflowId : UUID) (visit : Visit) (run : Run)
    (context : NodeContext) (response : LLMResponse) :
    Outcome.Holds (Turned context run)
      (fun failure => Moves context.node.nodeId run failure.run)
      (processResponse env workflowId visit run context response) := by
  unfold processResponse
  refine Outcome.Holds.bind
    (P := fun result : Bool × Run => Moves context.node.nodeId run result.2) ?_ ?_
  · exact (chargeNode_holds workflowId visit run context response).mono (fun _ h => h.1.moves)
      (fun _ h => h.2.moves)
  rintro ⟨charged, run₁⟩ hcharged
  refine Outcome.Holds.bind (P := Moves context.node.nodeId run) ?_ ?_
  · refine (writeResult_holds env workflowId visit run₁ context response.content charged).mono
      ?_ ?_
    · rintro run₂ ⟨db, hwrote, rfl⟩
      exact hcharged.trans hwrote.moves
    · rintro failure ⟨-, hrun⟩
      rw [hrun]
      exact hcharged
  intro run₂ hwritten
  refine ((completeNode_moves charged).mono (fun _ h => h) (fun _ h => hwritten.trans h)).bind ?_
  rintro run₃ ⟨hcompleted, hended⟩
  obtain ⟨hverified, hdag⟩ := verifyConsensus_moves visit run₃ context
  obtain ⟨hreviewed, hdag'⟩ :=
    requestReview_moves visit (verifyConsensus visit run₃ context) context
  refine .of_moves (((hwritten.trans hcompleted).trans hverified).trans hreviewed) ?_
  refine reflectOnTask_turned ?_
  rw [hdag', hdag]
  exact hended

/-- Phase 3 ends the turn of a node. -/
theorem settleNode_turned (env : Environment) (workflowId : UUID) (visit : Visit) (run : Run)
    (context : NodeContext) :
    Outcome.Holds (Turned context run) (fun _ => True)
      (settleNode env workflowId visit run context) := by
  unfold settleNode
  split
  · rename_i message _
    unfold settleError
    dsimp only
    refine (check_any _ _).bind (fun _ _ => ?_)
    refine .ended ?_ (not_isWaiting_markFailed _ _ _)
    exact ((Moves.failTask run context.taskId message).trans
      (releaseNode_released ..).moves).trans (.markFailed _ _)
  · rename_i response _
    dsimp only
    have hprocess := processResponse_turned env workflowId visit
      (run.record (.processed context response run.db visit)) context response
    have hrecorded : Moves context.node.nodeId run
        (run.record (.processed context response run.db visit)) := .of_db rfl rfl (.of_tasks rfl)
    cases hresult : processResponse env workflowId visit
        (run.record (.processed context response run.db visit)) context response with
    | ok run' => exact .of_moves hrecorded (hprocess.of_ok hresult)
    | error failure =>
      have hfailed := hrecorded.trans (hprocess.of_error hresult)
      unfold settleFailure
      dsimp only
      refine (check_any _ _).bind (fun _ _ => ?_)
      refine .ended ?_ (not_isWaiting_markFailed _ _ _)
      refine (hfailed.trans ?_).trans (.markFailed _ _)
      split
      · exact .failTask _ _ _
      · exact (releaseNode_released ..).moves.trans (.failTask _ _ _)

end Settle

/-! ## The calls of the phases before -/

/-- What the retries and the waiting nodes need of a step on a node: the node
itself may get another task row, which counts no fewer retries. -/
structure Steps (nodeId : String) (run run' : Run) : Prop where
  ids : run'.dag.ids = run.dag.ids
  retries : ∀ other, retries run other ≤ retries run' other
  kept : ∀ other, other ≠ nodeId → run'.dag.taskId? other = run.dag.taskId? other ∨
    run.dag.taskId? other = none
  waiting : ∀ other, other ≠ nodeId → IsWaiting run'.dag other → IsWaiting run.dag other
  replans : run'.replanCount = run.replanCount

theorem Steps.trans {nodeId : String} {run run₁ run₂ : Run} (h : Steps nodeId run run₁)
    (h' : Steps nodeId run₁ run₂) : Steps nodeId run run₂ where
  ids := h'.ids.trans h.ids
  retries := fun other => (h.retries other).trans (h'.retries other)
  kept := by
    intro other hne
    rcases h.kept other hne with heq | hnone
    · rcases h'.kept other hne with heq' | hnone
      · exact Or.inl (heq'.trans heq)
      · exact Or.inr (heq ▸ hnone)
    · exact Or.inr hnone
  waiting := fun other hne hwaiting => h.waiting other hne (h'.waiting other hne hwaiting)
  replans := h'.replans.trans h.replans

theorem Moves.retries {nodeId : String} {run run' : Run} (h : Moves nodeId run run')
    (other : String) : retries run other ≤ retries run' other := by
  unfold WorkflowScheduler.retries
  cases htask : run.dag.taskId? other with
  | none => exact Nat.zero_le _
  | some taskId =>
    rw [h.kept other taskId htask]
    exact h.grow taskId

theorem Moves.steps {nodeId : String} {run run' : Run} (h : Moves nodeId run run') :
    Steps nodeId run run' where
  ids := h.ids
  retries := h.retries
  kept := by
    intro other _
    cases htask : run.dag.taskId? other with
    | none => exact Or.inr rfl
    | some taskId => exact Or.inl (h.kept other taskId htask)
  waiting := h.waiting
  replans := h.replans

section Prepare

variable {env : Environment} {workflowId : UUID} {agents : String → Option Agent} {visit : Visit}
  {run : Run} {node : DAGNode}

/-- A node has a row after the upsert, and the statuses are as before. -/
theorem upsertTaskRow_steps {agentId : Option UUID} {status : TaskStatus}
    {errorMessage : Option String} (hmem : node.nodeId ∈ run.dag.ids) :
    Outcome.Holds
      (fun result => Steps node.nodeId run result.2 ∧ result.2.contexts = run.contexts ∧
        (∀ other, result.2.dag.status? other = run.dag.status? other) ∧
        result.2.dag.taskId? node.nodeId = some result.1)
      (fun _ => True)
      (upsertTaskRow workflowId visit run node agentId status errorMessage) := by
  unfold upsertTaskRow
  refine (check_any run _).bind (fun _ _ => ?_)
  cases hexisting : ((run.dag.node? node.nodeId).bind DAGNode.taskId).bind run.db.task? with
  | some existing =>
    dsimp only
    obtain ⟨taskId, htask, hrow⟩ := Option.bind_eq_some_iff.1 hexisting
    have hid : existing.taskId = taskId := by simpa using List.find?_some hrow
    refine ⟨?_, rfl, fun _ => rfl, ?_⟩
    · refine (Moves.updateTask run existing.taskId _ ?_).steps
      exact fun task => ⟨rfl, le_refl _⟩
    · rw [hid]
      exact htask
  | none =>
    dsimp only
    refine (check_any run _).bind (fun _ _ => ?_)
    have hkeys := DAG.taskId?_setTaskId run.dag node.nodeId visit.newTaskId
    refine ⟨⟨DAG.ids_setTaskId _ _ _, fun other => ?_, fun other hne => Or.inl ?_, ?_, rfl⟩, rfl,
      DAG.status?_setTaskId _ _ _, ?_⟩
    · by_cases hself : other = node.nodeId
      · have hzero : retries run other = 0 := by
          unfold retries DAG.taskId?
          rw [hself]
          cases htask : (run.dag.node? node.nodeId).bind DAGNode.taskId with
          | none => rfl
          | some taskId =>
            rw [htask, Option.bind_some] at hexisting
            show ((run.db.task? taskId).map Task.retryCount).getD 0 = 0
            rw [hexisting]
            rfl
        rw [hzero]
        exact Nat.zero_le _
      · unfold retries
        dsimp only
        rw [hkeys, if_neg (fun h => hself h.1)]
        cases run.dag.taskId? other with
        | none => exact le_refl _
        | some taskId => exact retriesGrow_append run.db _ taskId
    · exact (hkeys other).trans (if_neg (fun h => hne h.1))
    · rintro other - ⟨otherStatus, hother, hstart⟩
      exact ⟨otherStatus, DAG.status?_setTaskId run.dag node.nodeId _ other ▸ hother, hstart⟩
    · exact (hkeys node.nodeId).trans (if_pos ⟨rfl, hmem⟩)

/-- Phase 1 takes a node up, or ends its turn; it no longer waits. -/
theorem prepareNode_steps (env : Environment) (workflowId : UUID)
    (agents : String → Option Agent) (visit : Visit) (run : Run) (node : DAGNode)
    (hmem : node.nodeId ∈ run.dag.ids) :
    Outcome.Holds
      (fun run' => Steps node.nodeId run run' ∧ ¬IsWaiting run'.dag node.nodeId ∧
        (run'.contexts = run.contexts ∨ ∃ (taskId : UUID) (agent : Agent),
          run'.contexts = run.contexts ++ [⟨node, taskId, agent⟩] ∧
          run'.dag.taskId? node.nodeId = some taskId ∧ agents node.nodeId = some agent))
      (fun _ => True) (prepareNode env workflowId agents visit run node) := by
  unfold prepareNode
  split
  · exact ⟨(Moves.markFailed run _).steps, not_isWaiting_markFailed _ _ _, Or.inl rfl⟩
  · rename_i agent hagent
    dsimp only
    refine (check_any run _).bind (fun _ _ => ?_)
    split
    · unfold starveNode
      dsimp only
      refine (upsertTaskRow_steps ?_).bind ?_
      · show node.nodeId ∈ (run.dag.markFailed _ _).ids
        rw [DAG.ids_markFailed]
        exact hmem
      · rintro ⟨taskId, run'⟩ ⟨hsteps, hcontexts, hstatus, -⟩
        refine ⟨(Moves.markFailed run _).steps.trans hsteps, ?_, Or.inl hcontexts⟩
        rintro ⟨status, hwaiting, hstart⟩
        rw [hstatus] at hwaiting
        exact not_isWaiting_markFailed _ _ _ ⟨status, hwaiting, hstart⟩
    · trivial
    · rename_i reservation db hreserve
      refine (check_any _ _).bind (fun _ _ => ?_)
      unfold startNode
      dsimp only
      have htasks : db.tasks = run.db.tasks := by
        rcases WalletService.reserveBudget_cases hreserve with ⟨-, hdb⟩ |
          ⟨-, -, -, -, -, -, -, -, hdb⟩
        · rw [hdb]
        · rw [hdb]
      refine (upsertTaskRow_steps ?_).bind ?_
      · show node.nodeId ∈ (run.dag.markRunning _).ids
        rw [DAG.ids_markRunning]
        exact hmem
      · rintro ⟨taskId, run'⟩ ⟨hsteps, hcontexts, hstatus, hkey⟩
        refine (check_any _ _).bind (fun _ _ => ?_)
        refine ⟨?_, ?_, Or.inr ⟨taskId, agent, ?_, hkey, hagent⟩⟩
        · have hstarted : Moves node.nodeId run { run with
              db
              dag := run.dag.markRunning node.nodeId
              reservations := run.reservations ++ [(node.nodeId, reservation)]
              log := run.log ++ [.reserved node.nodeId reservation] } :=
            (Moves.markRunning run).trans (.of_db rfl rfl (.of_tasks htasks))
          have hopened : Moves node.nodeId run' { run' with
              contexts := run'.contexts ++ [⟨node, taskId, agent⟩] } :=
            .of_db rfl rfl (.of_tasks rfl)
          exact (hstarted.steps.trans hsteps).trans hopened.steps
        · rintro ⟨status, hwaiting, hstart⟩
          rw [hstatus] at hwaiting
          exact not_isWaiting_markRunning _ _ ⟨status, hwaiting, hstart⟩
        · show run'.contexts ++ _ = _
          rw [hcontexts]

/-- A verdict changes no status; a denied node loses its context. -/
theorem policyEvaluateNode_moves (visit : Visit) (run : Run) (escalated : List DAGNode)
    (context : NodeContext) :
    Outcome.Holds
      (fun state => Moves context.node.nodeId run state.1 ∧ state.1.dag = run.dag ∧
        (state.1.contexts = run.contexts ∨
          state.1.contexts = (run.dropContext context.node.nodeId).contexts))
      (fun _ => True) (policyEvaluateNode visit (run, escalated) context) := by
  unfold policyEvaluateNode
  split
  · exact ⟨.refl run, rfl, Or.inl rfl⟩
  · refine (check_any _ _).bind (fun _ _ => ?_)
    dsimp only
    split
    · refine (check_any _ _).bind (fun _ _ => ?_)
      refine ⟨?_, rfl, Or.inr rfl⟩
      exact .of_db rfl rfl (retriesGrow_updateTask run.db _ _ (fun task => ⟨rfl, le_refl _⟩))
    · exact ⟨.of_db rfl rfl (.of_tasks rfl), rfl, Or.inl rfl⟩
    · exact ⟨.of_db rfl rfl (.of_tasks rfl), rfl, Or.inl rfl⟩
    · exact ⟨.of_db rfl rfl (.of_tasks rfl), rfl, Or.inl rfl⟩

/-- The gate leaves a node with its context, or fails it without. -/
theorem gateNode_moves (env : Environment) (workflowId : UUID) (visit : Visit) (run : Run)
    (node : DAGNode) :
    Outcome.Holds
      (fun run' => ∃ context ∈ run.contexts, Moves context.node.nodeId run run' ∧
        (run'.contexts = run.contexts ∨
          run'.contexts = (run.dropContext context.node.nodeId).contexts ∧
            ¬IsWaiting run'.dag context.node.nodeId))
      (fun _ => True) (gateNode env workflowId visit run node) := by
  unfold gateNode
  split
  · trivial
  · rename_i context hcontext
    have hmem := (Run.context?_eq_some hcontext).1
    dsimp only
    split
    · split
      · unfold denyNode
        dsimp only
        refine (check_any _ _).bind (fun _ _ => ?_)
        refine ⟨context, hmem, ?_, Or.inr ⟨rfl, not_isWaiting_markFailed _ _ _⟩⟩
        refine (Moves.markFailed run _).trans (.of_db rfl rfl ?_)
        exact retriesGrow_updateTask run.db _ _ (fun task => ⟨rfl, le_refl _⟩)
      · exact ⟨context, hmem, .of_db rfl rfl (.of_tasks rfl), Or.inl rfl⟩
    · unfold requestApproval
      dsimp only
      refine (check_any _ _).bind (fun _ _ => (check_any _ _).bind (fun _ _ => ?_))
      split
      · trivial
      · refine (check_any _ _).bind (fun _ _ => ?_)
        refine ⟨context, hmem, ?_, Or.inl rfl⟩
        refine (Moves.markPending run).trans (.of_db rfl rfl ?_)
        exact retriesGrow_updateTask run.db _ _ (fun task => ⟨rfl, le_refl _⟩)

end Prepare

end WorkflowScheduler

end MassClaw
