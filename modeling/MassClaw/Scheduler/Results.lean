import MassClaw.Dag.Completed
import MassClaw.Scheduler.Reservations

/-!
# The results in shared memory

Phase 3 writes the content of a response to shared memory and completes the
node.  `write_memory` answers with an older record of the same agent instead,
when there is one within the conflict window that is at least as confident, and
Phase 3 does not look at what was returned.
-/

namespace MassClaw

namespace WorkflowScheduler

/-! ## Recorded nodes -/

/-- The record holds the result of the node. -/
structure HoldsResult (workflowId : UUID) (node : DAGNode) (record : MemoryRecord) : Prop where
  workflowId : record.workflowId = some workflowId
  memoryType : record.memoryType = .result
  content : node.output = some record.content
  taskId : node.taskId.any (fun taskId =>
    (Json.lookup record.metadata "task_id").asString? = some taskId.str)

instance (workflowId : UUID) (node : DAGNode) (record : MemoryRecord) :
    Decidable (HoldsResult workflowId node record) :=
  decidable_of_iff
    (record.workflowId = some workflowId ∧ record.memoryType = .result ∧
      node.output = some record.content ∧
      node.taskId.any (fun taskId =>
        (Json.lookup record.metadata "task_id").asString? = some taskId.str))
    ⟨fun h => ⟨h.1, h.2.1, h.2.2.1, h.2.2.2⟩,
      fun h => ⟨h.workflowId, h.memoryType, h.content, h.taskId⟩⟩

/-- Every completed node has its result in shared memory. -/
def Recorded (workflowId : UUID) (dag : DAG) (records : List MemoryRecord) : Prop :=
  ∀ nodeId node, dag.node? nodeId = some node → node.status = .completed →
    ∃ record ∈ records, HoldsResult workflowId node record

theorem Recorded.from {workflowId : UUID} {dag dag' : DAG} {records records' : List MemoryRecord}
    (h : Recorded workflowId dag records) (hdag : DAG.CompletedFrom dag dag' none)
    (hrecords : records ⊆ records') : Recorded workflowId dag' records' := by
  intro nodeId node hnode hstatus
  obtain ⟨record, hmem, hholds⟩ := h nodeId node (hdag nodeId node (by simp) hnode hstatus) hstatus
  exact ⟨record, hrecords hmem, hholds⟩

/-! ## When the result is written -/

/-- The RESULT records that an agent has in a workflow since the start of the
conflict window. -/
def recentResults (db : Db) (now : Time) (workflowId agentId : UUID) : List MemoryRecord :=
  db.memoryRecords.rows.filter (fun record =>
    record.workflowId = some workflowId ∧ record.sourceAgentId = some agentId ∧
      record.memoryType = .result ∧ now - MemoryService.conflictWindow ≤ record.createdAt)

/-- The newest recent result of the agent is less confident than a new one. -/
def Unshadowed (workflowId : UUID) (context : NodeContext) (before : Db) (visit : Visit) : Prop :=
  ∀ record, MemoryService.newest?
      (recentResults before visit.now workflowId context.agent.agentId) = some record →
    (PyFloat.finite (85 / 100)).le record.confidence = false

/-- No attempt is processed while a recent result of its agent stands in the
way. -/
def writesResult (workflowId : UUID) : Event → Prop
  | .processed context _ before visit => Unshadowed workflowId context before visit
  | _ => True

section Written

variable {env : Environment} {workflowId : UUID} {agents : String → Option Agent} {run run' : Run}
  {visit : Visit} {context : NodeContext}

theorem keptExisting_of_unshadowed {db : Db} {content : String}
    (h : Unshadowed workflowId context db visit)
    (hlength : 1 ≤ content.length ∧ content.length ≤ 100000) :
    MemoryService.keptExisting db visit.now (resultRequest workflowId context content hlength) =
      none := by
  show (MemoryService.newest? (recentResults db visit.now workflowId context.agent.agentId)).filter
    _ = none
  rw [Option.filter_eq_none_iff]
  intro record hrecord
  exact Bool.not_eq_true _ ▸ h record hrecord

/-- Writing a result only adds to the memory. -/
theorem Wrote.memoryRecords {content : String} {db db' : Db}
    (h : Wrote env workflowId visit context content db db') :
    db.memoryRecords.rows ⊆ db'.memoryRecords.rows := by
  obtain ⟨hlength, record, hwrite⟩ := h
  rcases MemoryService.writeMemory_cases ⟨rfl, rfl, rfl, rfl⟩ hwrite with
    ⟨-, rfl⟩ | ⟨-, -, -, hrows, -⟩
  · exact List.Subset.refl _
  · rw [hrows]
    exact List.subset_append_left _ _

/-- An unshadowed result is written under the key of the task row. -/
theorem Wrote.result {content : String} {db db' : Db}
    (h : Wrote env workflowId visit context content db db')
    (hunshadowed : Unshadowed workflowId context db visit) :
    ∃ record ∈ db'.memoryRecords.rows, record.workflowId = some workflowId ∧
      record.memoryType = .result ∧ record.content = content ∧
      (Json.lookup record.metadata "task_id").asString? = some context.taskId.str := by
  obtain ⟨hlength, record, hwrite⟩ := h
  rcases MemoryService.writeMemory_cases ⟨rfl, rfl, rfl, rfl⟩ hwrite with
    ⟨hkept, -⟩ | ⟨-, hrow, -, hrows, -⟩
  · rw [keptExisting_of_unshadowed hunshadowed] at hkept
    cases hkept
  · refine ⟨record, ?_, hrow.workflowId, hrow.memoryType, hrow.content, ?_⟩
    · rw [hrows]
      exact List.mem_append_right _ (List.mem_singleton_self _)
    · rw [hrow.metadata]
      rfl

theorem Charged.memoryRecords {response : LLMResponse} {charged : Bool}
    (h : Charged workflowId visit run context response charged run') :
    run'.db.memoryRecords = run.db.memoryRecords := by
  cases h with
  | unreserved _ _ hrun => rw [hrun]
  | failed _ _ _ _ _ hrun => rw [hrun]
  | booked reservation event reason db _ hcharge hrun =>
    rw [hrun]
    rcases WalletService.charge_cases hcharge with ⟨-, rfl⟩ | ⟨-, _, _, -, -, -, -, -, -, -, -, -,
      -, -, -, hdb⟩
    · rfl
    · show db.memoryRecords = _
      rw [hdb]
      rfl

theorem Released.memoryRecords {nodeId : String} (h : Released workflowId run nodeId run') :
    run'.db.memoryRecords = run.db.memoryRecords := by
  cases h with
  | unreserved _ hrun => rw [hrun]
  | failed _ _ hrun => rw [hrun]; rfl
  | released reservation event reason db _ hrelease hrun =>
    rw [hrun]
    rcases WalletService.releaseReservation_cases hrelease with ⟨-, rfl⟩ | ⟨-, _, -, -, -, -, -, -,
      -, -, hdb⟩
    · rfl
    · show db.memoryRecords = _
      rw [hdb]

/-! ## The task rows of the contexts -/

/-- The node of a context has the task row of the context. -/
def Assigned (contexts : List NodeContext) (dag : DAG) : Prop :=
  ∀ context ∈ contexts, dag.taskId? context.node.nodeId = some context.taskId

theorem Assigned.kept {contexts contexts' : List NodeContext} {dag dag' : DAG}
    (h : Assigned contexts dag) (hdag : DAG.TasksKept dag dag')
    (hsub : ∀ context ∈ contexts', context ∈ contexts) : Assigned contexts' dag' :=
  fun context hcontext => hdag _ _ (h context (hsub context hcontext))

/-- The step that gives a node its task row touches no completed node. -/
theorem Tasked.spec {before after : DAG} {nodeId : String} {taskId : UUID}
    (h : Tasked before after nodeId taskId) (hmem : nodeId ∈ before.ids)
    (hstatus : before.status? nodeId ≠ some .completed) :
    DAG.CompletedFrom before after none ∧ after.taskId? nodeId = some taskId ∧
      (∀ other, other ≠ nodeId → after.taskId? other = before.taskId? other) ∧
      after.ids = before.ids := by
  rcases h with ⟨rfl, htask⟩ | rfl
  · exact ⟨.refl _ _, htask, fun _ _ => rfl, rfl⟩
  · refine ⟨DAG.completedFrom_setTaskId _ _ _ hstatus, ?_, ?_, DAG.ids_setTaskId _ _ _⟩
    · rw [DAG.taskId?_setTaskId, if_pos ⟨rfl, hmem⟩]
    · intro other hne
      rw [DAG.taskId?_setTaskId, if_neg (fun h => hne h.1)]

/-- What Phase 1 knows of a run. -/
structure Preparing (workflowId : UUID) (rest : List DAGNode) (run : Run) : Prop where
  recorded : Recorded workflowId run.dag run.db.memoryRecords.rows
  assigned : Assigned run.contexts run.dag
  distinct : (contextIds run ++ rest.map DAGNode.nodeId).Nodup
  known : ∀ node ∈ rest, node.nodeId ∈ run.dag.ids

theorem Preparing.prepared {node : DAGNode} {rest : List DAGNode}
    (h : Preparing workflowId (node :: rest) run)
    (hprepared : Prepared env workflowId agents run node run') :
    Preparing workflowId rest run' := by
  obtain ⟨hrecorded, hassigned, hdistinct, hknown⟩ := h
  have hsplit : (contextIds run ++ rest.map DAGNode.nodeId).Nodup ∧
      node.nodeId ∉ contextIds run ++ rest.map DAGNode.nodeId := nodup_split hdistinct
  have hmem : node.nodeId ∈ run.dag.ids := hknown node List.mem_cons_self
  have hrest : ∀ other ∈ rest, other.nodeId ∈ run.dag.ids :=
    fun other hother => hknown other (List.mem_cons_of_mem _ hother)
  have hne : ∀ context ∈ run.contexts, context.node.nodeId ≠ node.nodeId := by
    intro context hcontext heq
    exact hsplit.2 (List.mem_append_left _ (heq ▸ mem_contextIds hcontext))
  cases hprepared with
  | noAgent error _ hrun =>
    rw [hrun]
    refine ⟨hrecorded.from (DAG.completedFrom_markFailed _ _ _) (List.Subset.refl _),
      hassigned.kept (DAG.tasksKept_markFailed _ _ _) (fun _ h => h), hsplit.1, ?_⟩
    exact fun other hother => by rw [DAG.ids_markFailed]; exact hrest other hother
  | starved error tasks dag taskId htask hrun =>
    have hfailed : (run.dag.markFailed node.nodeId (some error)).status? node.nodeId ≠
        some .completed := by
      intro hcompleted
      rcases DAG.status?_markFailed_cases _ _ _ hcompleted with ⟨-, h⟩ | ⟨-, h⟩ | ⟨hself, -, -⟩
      · cases h
      · cases h
      · exact hself rfl
    obtain ⟨hfrom, -, hothers, hids⟩ := htask.spec (by rw [DAG.ids_markFailed]; exact hmem) hfailed
    rw [hrun]
    refine ⟨hrecorded.from ((DAG.completedFrom_markFailed _ _ _).trans hfrom)
      (List.Subset.refl _), ?_, hsplit.1, ?_⟩
    · intro context hcontext
      show dag.taskId? context.node.nodeId = _
      rw [hothers _ (hne context hcontext)]
      exact DAG.tasksKept_markFailed _ _ _ _ _ (hassigned context hcontext)
    · intro other hother
      show other.nodeId ∈ dag.ids
      rw [hids, DAG.ids_markFailed]
      exact hrest other hother
  | started agent reservation db tasks dag taskId _ hreserve htask hrun =>
    have hrunning : (run.dag.markRunning node.nodeId).status? node.nodeId ≠ some .completed := by
      rw [DAG.status?_markRunning, if_pos rfl]
      cases run.dag.status? node.nodeId <;> simp
    obtain ⟨hfrom, hown, hothers, hids⟩ :=
      htask.spec (by rw [DAG.ids_markRunning]; exact hmem) hrunning
    have hmemory : db.memoryRecords = run.db.memoryRecords := by
      rcases WalletService.reserveBudget_cases hreserve with ⟨-, rfl⟩ |
        ⟨-, -, -, -, -, -, -, -, hdb⟩
      · rfl
      · rw [hdb]
    have hcontexts : run'.contexts = run.contexts ++ [⟨node, taskId, agent⟩] := by rw [hrun]
    have hids' : contextIds run' = contextIds run ++ [node.nodeId] := by
      rw [contextIds, hcontexts, List.map_append]
      rfl
    refine ⟨?_, ?_, ?_, ?_⟩
    · rw [hrun]
      show Recorded workflowId dag db.memoryRecords.rows
      rw [hmemory]
      exact hrecorded.from ((DAG.completedFrom_markRunning _ _).trans hfrom) (List.Subset.refl _)
    · rw [hcontexts]
      intro context hcontext
      have hdag : run'.dag = dag := by rw [hrun]
      rw [hdag]
      rcases List.mem_append.1 hcontext with hold | hnew
      · rw [hothers _ (hne context hold)]
        exact DAG.tasksKept_markRunning _ _ _ _ (hassigned context hold)
      · rw [List.mem_singleton.1 hnew]
        exact hown
    · rw [hids', List.append_assoc]
      exact hdistinct
    · intro other hother
      have hdag : run'.dag = dag := by rw [hrun]
      rw [hdag, hids, DAG.ids_markRunning]
      exact hrest other hother

/-- Reflecting on a completed node completes no other one. -/
theorem Reflected.completedFrom {dag dag' : DAG} {nodeId : String} (h : Reflected dag nodeId dag') :
    DAG.CompletedFrom dag dag' none ∧ DAG.TasksKept dag dag' := by
  rcases h with rfl | rfl | ⟨text, added, hreplan⟩
  · exact ⟨.refl _ _, .refl _⟩
  · exact ⟨DAG.completedFrom_markPending _ _, DAG.tasksKept_markPending _ _⟩
  · obtain ⟨node, -, rfl, hadd⟩ := DynamicReplanner.replan_eq_some hreplan
    exact ⟨DAG.completedFrom_addNode hadd (by simp [DynamicReplanner.altNode]),
      DAG.tasksKept_addNode hadd⟩

/-- Phase 3 records the node it completes. -/
theorem Recorded.settled {rest : List NodeContext}
    (h : Recorded workflowId run.dag run.db.memoryRecords.rows)
    (hassigned : Assigned (context :: rest) run.dag)
    (hsettled : Settled env workflowId visit run context run')
    (hmeets : ∀ event ∈ run'.log, writesResult workflowId event) :
    Recorded workflowId run'.dag run'.db.memoryRecords.rows ∧ Assigned rest run'.dag := by
  obtain ⟨events, hlog, -⟩ := hsettled.events
  have hrest : ∀ other ∈ rest, other ∈ context :: rest :=
    fun other hother => List.mem_cons_of_mem _ hother
  cases hsettled with
  | llmFailed message tasks run₁ _ hreleased hrun =>
    have hdag : run₁.dag = run.dag := by rw [hreleased.eq]
    have hmemory : run₁.db.memoryRecords = run.db.memoryRecords := hreleased.memoryRecords
    rw [hrun]
    show Recorded workflowId (run₁.dag.markFailed _ _) run₁.db.memoryRecords.rows ∧
      Assigned rest (run₁.dag.markFailed _ _)
    rw [hdag, hmemory]
    exact ⟨h.from (DAG.completedFrom_markFailed _ _ _) (List.Subset.refl _),
      hassigned.kept (DAG.tasksKept_markFailed _ _ _) hrest⟩
  | completed response hresponse hcompleted =>
    obtain ⟨charged, run₁, db, workflows, tasks, dag, replanCount, hcharged, -, hwrote, hreflected,
      hrun⟩ := hcompleted
    have hmemory : run₁.db.memoryRecords = run.db.memoryRecords := hcharged.memoryRecords
    have hunshadowed : Unshadowed workflowId context run₁.db visit := by
      have hmem : .processed context response run.db visit ∈ run'.log := by
        rw [hlog, attempt, hresponse]
        simp
      intro record hrecord
      refine hmeets _ hmem record ?_
      rw [recentResults, ← hmemory]
      exact hrecord
    obtain ⟨record, hrecord, hworkflow, htype, hcontent, htask⟩ := hwrote.result hunshadowed
    have hgrows : run.db.memoryRecords.rows ⊆ db.memoryRecords.rows := by
      rw [← hmemory]
      exact hwrote.memoryRecords
    have hdone : Recorded workflowId (run.dag.markCompleted context.node.nodeId
        (some response.content)) db.memoryRecords.rows := by
      intro nodeId node hnode hstatus
      by_cases hself : nodeId = context.node.nodeId
      · have hown := DAG.tasksKept_markCompleted run.dag context.node.nodeId
          (some response.content) _ _ (hassigned context List.mem_cons_self)
        rw [hself] at hnode
        rw [DAG.taskId?, hnode, Option.bind_some] at hown
        rw [DAG.node?_markCompleted, if_pos rfl] at hnode
        obtain ⟨old, -, rfl⟩ := Option.map_eq_some_iff.1 hnode
        refine ⟨record, hrecord, hworkflow, htype, by rw [hcontent], ?_⟩
        rw [hown, htask]
        simp
      · obtain ⟨found, hfound, hholds⟩ := h nodeId node
          (DAG.completedFrom_markCompleted _ _ _ nodeId node
            (fun heq => hself (Option.some.inj heq)) hnode hstatus) hstatus
        exact ⟨found, hgrows hfound, hholds⟩
    rw [hrun]
    refine ⟨hdone.from hreflected.completedFrom.1 (List.Subset.refl _), ?_⟩
    exact hassigned.kept ((DAG.tasksKept_markCompleted _ _ _).trans hreflected.completedFrom.2)
      hrest
  | rejected response charged run₁ run₂ tasks error _ hrejected hreleased hrun =>
    have hdag : run₂.dag = run.dag := by rw [hrejected.eq hreleased]; rfl
    obtain ⟨run₀, db, tasks₀, hcharged, hwrote, hrun₁⟩ := hrejected
    have hmemory₀ : run₀.db.memoryRecords = run.db.memoryRecords := hcharged.memoryRecords
    have hgrows : run.db.memoryRecords.rows ⊆ run₁.db.memoryRecords.rows := by
      rw [hrun₁, ← hmemory₀]
      rcases hwrote with rfl | hwrote
      · exact List.Subset.refl _
      · exact hwrote.memoryRecords
    have hmemory : run₂.db.memoryRecords = run₁.db.memoryRecords := by
      rcases hreleased with ⟨-, rfl⟩ | ⟨-, hreleased⟩
      · rfl
      · exact hreleased.memoryRecords
    rw [hrun]
    show Recorded workflowId (run₂.dag.markFailed _ _) run₂.db.memoryRecords.rows ∧
      Assigned rest (run₂.dag.markFailed _ _)
    rw [hdag, hmemory]
    exact ⟨h.from (DAG.completedFrom_markFailed _ _ _) hgrows,
      hassigned.kept (DAG.tasksKept_markFailed _ _ _) hrest⟩

/-- The completed nodes are recorded at each point of a batch. -/
def recordingPhases (workflowId : UUID) : Phases where
  between run := Recorded workflowId run.dag run.db.memoryRecords.rows
  preparing := Preparing workflowId
  evaluating run :=
    Recorded workflowId run.dag run.db.memoryRecords.rows ∧ Assigned run.contexts run.dag
  gating _ _ run :=
    Recorded workflowId run.dag run.db.memoryRecords.rows ∧ Assigned run.contexts run.dag
  settling rest run :=
    Recorded workflowId run.dag run.db.memoryRecords.rows ∧ Assigned rest run.dag

theorem recordingPhases_kept (env : Environment) (workflowId : UUID)
    (agents : String → Option Agent) :
    (recordingPhases workflowId).Kept env workflowId agents (writesResult workflowId)
      (fun stopped => stopped.1 ≠ .raised →
        Recorded workflowId stopped.2.dag stopped.2.db.memoryRecords.rows) where
  opened := by
    intro run h
    refine ⟨h, ?_, DAG.getReadyNodes_nodup run.dag, ?_⟩
    · intro context hcontext
      cases hcontext
    · intro node hnode
      exact DAG.mem_ids_iff.2 ⟨node, (DAG.mem_getReadyNodes.1 hnode).1⟩
  prepared := fun h hprepared _ => h.prepared hprepared
  evaluate := fun h => ⟨h.recorded, h.assigned⟩
  evaluated := by
    rintro run escalated context state ⟨h, hassigned⟩ hevaluated -
    cases hevaluated with
    | failed hstate =>
      rw [hstate]
      exact ⟨h, hassigned⟩
    | denied ruleId reason tasks hrun _ =>
      rw [hrun]
      exact ⟨h, hassigned.kept (.refl _) (fun other hother => List.mem_of_mem_filter hother)⟩
    | kept verdict _ hrun _ =>
      rw [hrun]
      exact ⟨h, hassigned⟩
  gate := fun _ h => h
  gated := by
    rintro all node rest run visit context run' ⟨h, hassigned⟩ - - hgated -
    cases hgated with
    | denied decision tasks error _ hrun =>
      rw [hrun]
      exact ⟨h.from (DAG.completedFrom_markFailed _ _ _) (List.Subset.refl _),
        hassigned.kept (DAG.tasksKept_markFailed _ _ _)
          (fun other hother => List.mem_of_mem_filter hother)⟩
    | passed decision _ _ hrun =>
      rw [hrun]
      exact ⟨h, hassigned⟩
    | fellThrough tasks _ hrun =>
      rw [hrun]
      exact ⟨h.from (DAG.completedFrom_markPending _ _) (List.Subset.refl _),
        hassigned.kept (DAG.tasksKept_markPending _ _) (fun _ h => h)⟩
  paused := by
    rintro all node rest run visit context stopped ⟨h, -⟩ - - hpaused - -
    obtain ⟨workflows, tasks, hstate⟩ := hpaused.state
    rw [hstate]
    exact h.from (DAG.completedFrom_markPending _ _) (List.Subset.refl _)
  called := fun h => h
  settled := fun h hsettled hmeets => h.1.settled h.2 hsettled hmeets
  persist := fun f h => h.1
  raised := fun _ hraised _ hne => absurd hraised.1 hne

end Written

/-- In a run whose attempts are not shadowed by a recent result of their agent,
every completed node has its result in shared memory. -/
theorem recorded_of_unshadowed (env : Environment) (workflowId : UUID)
    (agents : String → Option Agent) (db : Db) (dag : DAG)
    (hstart : Recorded workflowId dag db.memoryRecords.rows) (run : Run)
    (hrun : Delivers (executeWorkflow env workflowId agents db dag) run)
    (hmeets : ∀ event ∈ run.log, writesResult workflowId event) :
    ∀ node ∈ run.dag.nodes, node.status = .completed →
      ∃ record ∈ run.db.memoryRecords.rows, HoldsResult workflowId node record := by
  have hrecorded : Recorded workflowId run.dag run.db.memoryRecords.rows :=
    (recordingPhases_kept env workflowId agents).of_delivers
      (P := fun run => Recorded workflowId run.dag run.db.memoryRecords.rows)
      hstart (fun _ h _ => h) hrun hmeets
  intro node hnode hstatus
  exact hrecorded node.nodeId node (DAG.node?_of_mem hnode) hstatus

end WorkflowScheduler

/-! ## Two nodes of one agent -/

namespace SchedulerExample

/-- What a returned run records, as far as it can be decided: whether each
completed node has its result, and whether each attempt is unshadowed. -/
structure Recording where
  completed : List Bool
  unshadowed : Bool
  deriving DecidableEq

/-- The completed nodes of a run, each with the question whether it has its
result. -/
def completedResults (run : Run) : List Bool :=
  (run.dag.nodes.filter (fun node => node.status = .completed)).map (fun node =>
    run.db.memoryRecords.rows.any (fun record =>
      WorkflowScheduler.HoldsResult (UUID.ofNat 1) node record))

/-- The newest recent result of the agent of an attempt is less confident. -/
def unshadowed? : Event → Bool
  | .processed context _ before visit =>
    (MemoryService.newest? (WorkflowScheduler.recentResults before visit.now (UUID.ofNat 1)
      context.agent.agentId)).all (fun record => !(PyFloat.finite (85 / 100)).le record.confidence)
  | _ => true

/-- What a returned run records. -/
def recording? : Except Stopped (List (String × Json) × Run) → Option Recording
  | .ok (_, run) => some
    { completed := completedResults run
      unshadowed := run.log.all unshadowed? }
  | .error _ => none

theorem recording?_eq_some {execution : Except Stopped (List (String × Json) × Run)}
    {recording : Recording} (h : recording? execution = some recording) :
    ∃ result run, execution = .ok (result, run) ∧
      completedResults run = recording.completed ∧
      run.log.all unshadowed? = recording.unshadowed := by
  cases execution with
  | error stopped => cases h
  | ok returned =>
    cases h
    exact ⟨returned.1, returned.2, rfl, rfl, rfl⟩

theorem writesResult_of_unshadowed {event : Event} (h : unshadowed? event = true) :
    WorkflowScheduler.writesResult (UUID.ofNat 1) event := by
  cases event
  case processed context response before visit =>
    intro record hrecord
    simp only [unshadowed?, hrecord, Option.all_some] at h
    simpa using h
  all_goals trivial

end SchedulerExample

namespace WorkflowScheduler

/-- No node is completed before the run. -/
theorem recorded_of_pending {workflowId : UUID} {dag : DAG} {records : List MemoryRecord}
    (h : ∀ node ∈ dag.nodes, node.status ≠ .completed) : Recorded workflowId dag records := by
  intro nodeId node hnode hstatus
  exact absurd hstatus (h node (DAG.node?_eq_some_iff.1 hnode).1)

open SchedulerExample in
/-- The only node of a run has its result. -/
theorem recorded_of_single :
    ∃ result run, execute (fun _ nodeId => visit nodeId) [root "t1" "research"] =
      .ok (result, run) ∧
      ∀ node ∈ run.dag.nodes, node.status = .completed →
        ∃ record ∈ run.db.memoryRecords.rows, HoldsResult (UUID.ofNat 1) node record := by
  have hrecording : recording? (execute (fun _ nodeId => visit nodeId)
      [root "t1" "research"]) = some ⟨[true], true⟩ := by decide +kernel
  obtain ⟨result, run, hrun, -, hunshadowed⟩ := recording?_eq_some hrecording
  refine ⟨result, run, hrun, recorded_of_unshadowed _ _ _ _ _ ?_ run (Or.inl ⟨result, hrun⟩) ?_⟩
  · exact recorded_of_pending (by decide)
  · intro event hevent
    exact writesResult_of_unshadowed (List.all_eq_true.1 hunshadowed event hevent)

open SchedulerExample in
/-- The second node of an agent is completed without a result of its own. -/
theorem recorded_fails :
    ¬∀ (env : Environment) (workflowId : UUID) (agents : String → Option Agent) (db : Db)
      (dag : DAG), Recorded workflowId dag db.memoryRecords.rows →
      ∀ run : Run, Delivers (executeWorkflow env workflowId agents db dag) run →
        ∀ node ∈ run.dag.nodes, node.status = .completed →
          ∃ record ∈ run.db.memoryRecords.rows, HoldsResult workflowId node record := by
  intro h
  have hrecording : recording? (execute (fun _ nodeId => visit nodeId)
      [root "t1" "research", root "t2" "research"]) = some ⟨[true, false], false⟩ := by
    decide +kernel
  obtain ⟨result, run, hrun, hcompleted, -⟩ := recording?_eq_some hrecording
  have hall := h _ _ _ _ _ (recorded_of_pending (by decide)) run (Or.inl ⟨result, hrun⟩)
  have hmissing : false ∈ completedResults run := by
    rw [hcompleted]
    decide
  obtain ⟨node, hnode, hany⟩ := List.mem_map.1 hmissing
  obtain ⟨hmem, hstatus⟩ := List.mem_filter.1 hnode
  obtain ⟨record, hrecord, hholds⟩ := hall node hmem (of_decide_eq_true hstatus)
  exact List.any_eq_false.1 hany record hrecord (decide_eq_true hholds)

end WorkflowScheduler

end MassClaw
