import MassClaw.Scheduler.Batch
import MassClaw.Scheduler.Completion

/-!
# Aborted workflows

When the reflection on a completed node answers `abort`, the workflow row is
failed and its result says that the safety reflection has refused the workflow.
That is all: the helper returns nothing the loop looks at, so the loop goes on
and the end of the run writes the same columns again.  The abort is the last
word exactly if an exception leaves the batch it occurs in.
-/

namespace MassClaw

/-- The status and the result of a workflow. -/
def Db.outcome? (db : Db) (workflowId : UUID) :
    Option (WorkflowStatus × Option (List (String × Json))) :=
  (db.workflow? workflowId).map (fun workflow => (workflow.status, workflow.result))

theorem Db.outcome?_updateWorkflow (db : Db) (workflowId : UUID) (f : Workflow → Workflow)
    (hf : ∀ workflow, (f workflow).workflowId = workflow.workflowId ∧
      (f workflow).status = workflow.status ∧ (f workflow).result = workflow.result) :
    (db.updateWorkflow workflowId f).outcome? workflowId = db.outcome? workflowId := by
  unfold outcome?
  rw [workflow?_updateWorkflow _ _ _ (fun workflow => (hf workflow).1), Option.map_map]
  refine congrArg (fun g => Option.map g (db.workflow? workflowId)) (funext fun workflow => ?_)
  rw [Function.comp_apply, (hf workflow).2.1, (hf workflow).2.2]

/-- The event takes nodes through the phases or calls the LLM for them. -/
def Event.startsNodes : Event → Bool
  | .batch _ | .llmCalls _ _ => true
  | _ => false

namespace WorkflowScheduler

variable (env : Environment) (workflowId : UUID) (agents : String → Option Agent)

/-! ## Where a run aborts -/

/-- `_reflect_on_task` takes its abort branch in Phase 3 on the node: the
reflection is the last call of the `try` block. -/
def takesAbort (visit : Visit) (run : Run) (context : NodeContext) : Bool :=
  visit.reflection.any (fun reflection => reflection.action = "abort") &&
    match visit.response with
    | .error _ => false
    | .ok response =>
      match processResponse env workflowId visit
          (run.record (.processed context response run.db visit)) context response with
      | .ok _ => true
      | .error _ => false

/-- The runs right after the aborts of Phase 3. -/
def settleAborts (iteration : Nat) : List NodeContext → Run → List Run
  | [], _ => []
  | context :: rest, run =>
    let visit := env.visit iteration context.node.nodeId
    match settleNode env workflowId visit run context with
    | .error _ => []
    | .ok run' =>
      if takesAbort env workflowId visit run context then run' :: settleAborts iteration rest run'
      else settleAborts iteration rest run'

/-- A point at which a run aborts. -/
structure AbortPoint where
  iteration : Nat
  /-- The run at the start of the batch. -/
  opened : Run
  /-- The run right after the abort. -/
  aborted : Run

/-- The aborts of one batch. -/
def batchAborts (iteration : Nat) (run : Run) : List AbortPoint :=
  match callPhases env workflowId agents iteration run with
  | .error _ => []
  | .ok called =>
    (settleAborts env workflowId iteration called.contexts called).map (fun aborted =>
      { iteration, opened := run, aborted })

/-- The aborts of the loop. -/
def loopAborts : Nat → Nat → Run → List AbortPoint
  | 0, _, _ => []
  | remaining + 1, iteration, run =>
    if run.dag.isComplete then []
    else if run.dag.getReadyNodes.isEmpty then []
    else
      batchAborts env workflowId agents iteration run ++
        match executeBatch env workflowId agents iteration run with
        | .error _ => []
        | .ok run => loopAborts remaining (iteration + 1) run

/-- The aborts of a run of `execute_workflow`. -/
def abortPoints (db : Db) (dag : DAG) : List AbortPoint :=
  if env.startFlushRaises then []
  else loopAborts env workflowId agents (maxIterations dag) 1 (startRun env workflowId db dag)

/-! ## The last word -/

/-- The workflow is failed with the payload of the abort branch. -/
def IsAborted (db : Db) : Prop :=
  ∃ result, db.outcome? workflowId = some (.failed, some result) ∧
    Json.lookup result "status" = .str "aborted_by_safety_reflection"

/-- The run goes on without starting a node. -/
def Idly (run run' : Run) : Prop :=
  ∃ events, run'.log = run.log ++ events ∧ ∀ event ∈ events, event.startsNodes = false

/-- The abort was the last word: no node was started after it, and the workflow
is failed with its payload. -/
def AbortFinal (aborted final : Run) : Prop := Idly aborted final ∧ IsAborted workflowId final.db

/-- The run in which an execution ends, however it ends. -/
def finalRun (execution : Except Stopped (List (String × Json) × Run)) : Run :=
  match execution with
  | .ok (_, run) => run
  | .error (_, run) => run

/-! ## What Phase 3 does to the workflow -/

section Settling

variable {env : Environment} {workflowId : UUID} {visit : Visit} {context : NodeContext}
  {run run' run'' : Run}

theorem Idly.refl (h : run'.log = run.log) : Idly run run' :=
  ⟨[], by rw [h, List.append_nil], by simp⟩

theorem Idly.trans (h : Idly run run') (h' : Idly run' run'') : Idly run run'' := by
  obtain ⟨events, hlog, hevents⟩ := h
  obtain ⟨events', hlog', hevents'⟩ := h'
  refine ⟨events ++ events', by rw [hlog', hlog, List.append_assoc], ?_⟩
  intro event hevent
  rcases List.mem_append.1 hevent with hold | hnew
  · exact hevents event hold
  · exact hevents' event hnew

/-- The run goes on without starting a node and without writing the status or
the result of the workflow. -/
structure Onward (workflowId : UUID) (run run' : Run) : Prop where
  idly : Idly run run'
  outcome : run'.db.outcome? workflowId = run.db.outcome? workflowId

theorem Onward.refl (run : Run) : Onward workflowId run run := ⟨.refl rfl, rfl⟩

theorem Onward.trans (h : Onward workflowId run run') (h' : Onward workflowId run' run'') :
    Onward workflowId run run'' :=
  ⟨h.idly.trans h'.idly, h'.outcome.trans h.outcome⟩

theorem Released.onward {nodeId : String} (h : Released workflowId run nodeId run') :
    Onward workflowId run run' := by
  refine ⟨?_, ?_⟩
  · obtain ⟨events, hlog, hevents⟩ := h.events
    refine ⟨events, hlog, ?_⟩
    intro event hevent
    obtain ⟨_, _, rfl⟩ := hevents event hevent
    rfl
  · cases h with
    | unreserved _ hrun => rw [hrun]
    | failed _ _ hrun => rw [hrun]; rfl
    | released reservation event reason db _ hrelease hrun =>
      rw [hrun]
      show db.outcome? workflowId = _
      rcases WalletService.releaseReservation_cases hrelease with ⟨-, hdb⟩ |
        ⟨-, _, -, -, -, -, -, -, -, -, hdb⟩
      · rw [hdb]
      · rw [hdb]
        rfl

theorem Charged.onward {response : LLMResponse} {charged : Bool}
    (h : Charged workflowId visit run context response charged run') :
    Onward workflowId run run' := by
  refine ⟨.refl (by rw [h.eq]), ?_⟩
  cases h with
  | unreserved _ _ hrun => rw [hrun]
  | failed _ _ _ _ _ hrun => rw [hrun]
  | booked reservation event reason db _ hcharge hrun =>
    rw [hrun]
    show db.outcome? workflowId = _
    rcases WalletService.charge_cases hcharge with ⟨-, hdb⟩ |
      ⟨-, _, _, -, -, -, -, -, -, -, -, -, -, -, -, hdb⟩
    · rw [hdb]
    · rw [hdb, Db.outcome?_updateWorkflow _ _ _ (by intro; exact ⟨rfl, rfl, rfl⟩)]
      rfl

theorem Wrote.outcome {content : String} {db db' : Db}
    (h : Wrote env workflowId visit context content db db') :
    db'.outcome? workflowId = db.outcome? workflowId := by
  obtain ⟨hlength, record, hwrite⟩ := h
  rcases MemoryService.writeMemory_cases ⟨rfl, rfl, rfl, rfl⟩ hwrite with ⟨-, hdb⟩ |
    ⟨-, -, -, -, hdb⟩
  · rw [hdb]
  · rw [hdb]
    rfl

/-- The `try` block leaves the workflow to the reflection. -/
theorem processResponse_onward (response : LLMResponse) :
    Outcome.Holds
      (fun run' => ∃ run₀, Onward workflowId run run₀ ∧
        run' = reflectOnTask workflowId visit run₀ context)
      (fun failure => Onward workflowId run failure.run)
      (processResponse env workflowId visit run context response) := by
  unfold processResponse
  refine ((chargeNode_holds workflowId visit run context response).mono (fun _ h => h)
    (fun _ h => h.2.onward)).bind ?_
  rintro ⟨charged, run₁⟩ ⟨hcharged, -⟩
  have h₁ : Onward workflowId run run₁ := hcharged.onward
  refine ((writeResult_holds env workflowId visit run₁ context response.content charged).mono
    (fun _ h => h) ?_).bind ?_
  · rintro failure ⟨-, hrun⟩
    rw [hrun]
    exact h₁
  rintro _ ⟨db, hwrote, rfl⟩
  have h₂ : Onward workflowId run { run₁ with db } := h₁.trans ⟨.refl rfl, hwrote.outcome⟩
  refine ((completeNode_holds visit { run₁ with db } context response charged).mono
    (fun _ h => h) ?_).bind ?_
  · rintro failure ⟨-, tasks, hrun⟩
    rw [hrun]
    exact h₂.trans ⟨.refl rfl, rfl⟩
  rintro run₃ ⟨tasks, hrun₃⟩
  obtain ⟨tasks₄, hrun₄⟩ := verifyConsensus_eq visit run₃ context
  obtain ⟨tasks₅, hrun₅⟩ := requestReview_eq visit (verifyConsensus visit run₃ context) context
  refine ⟨_, h₂.trans ?_, rfl⟩
  rw [hrun₅, hrun₄, hrun₃]
  exact ⟨.refl rfl, rfl⟩

theorem IsAborted.congr {db db' : Db} (h : IsAborted workflowId db)
    (houtcome : db'.outcome? workflowId = db.outcome? workflowId) : IsAborted workflowId db' := by
  obtain ⟨result, hresult, hstatus⟩ := h
  exact ⟨result, by rw [houtcome, hresult], hstatus⟩

/-- The abort branch fails the workflow. -/
theorem isAborted_abortWorkflow (reflection : ReflectionResult)
    (hrow : (run.db.outcome? workflowId).isSome) :
    IsAborted workflowId (abortWorkflow workflowId visit run context reflection).db := by
  obtain ⟨outcome, houtcome⟩ := Option.isSome_iff_exists.1 hrow
  obtain ⟨workflow, hworkflow, -⟩ := Option.map_eq_some_iff.1 houtcome
  have hfound : ∀ db : Db, db.workflows = run.db.workflows →
      db.workflow? workflowId = some workflow := by
    intro db hdb
    rw [← hworkflow, Db.workflow?, hdb, Db.workflow?]
  unfold abortWorkflow
  dsimp only
  rw [IsAborted, Db.outcome?, Db.workflow?_updateWorkflow _ _ _ (by intro; rfl), hfound]
  · exact ⟨_, rfl, rfl⟩
  · cases visit.abortHash <;> rfl

/-- The reflection leaves the workflow alone or aborts it. -/
theorem reflectOnTask_cases (workflowId : UUID) (visit : Visit) (run : Run)
    (context : NodeContext) :
    Idly run (reflectOnTask workflowId visit run context) ∧
      ((visit.reflection.any (fun reflection => reflection.action = "abort") = false ∧
          (reflectOnTask workflowId visit run context).db.outcome? workflowId =
            run.db.outcome? workflowId) ∨
        ((run.db.outcome? workflowId).isSome →
          IsAborted workflowId (reflectOnTask workflowId visit run context).db)) := by
  refine ⟨?_, ?_⟩
  · obtain ⟨_, _, _, _, hrun, -⟩ := reflectOnTask_reflected workflowId visit run context
    rw [hrun]
    exact .refl rfl
  · unfold reflectOnTask
    cases visit.reflection with
    | none => exact Or.inl ⟨rfl, rfl⟩
    | some reflection =>
      dsimp only
      split
      · rename_i haction
        refine Or.inl ⟨by simp [haction], ?_⟩
        unfold retryTask
        split
        · rfl
        · split <;> rfl
      · split
        · rename_i haction
          refine Or.inl ⟨by rcases haction with h | h <;> simp [h], ?_⟩
          unfold replanTask
          split
          · rfl
          · dsimp only
            split <;> rfl
        · split
          · refine Or.inr (fun hrow => ?_)
            apply isAborted_abortWorkflow
            exact hrow
          · rename_i haction
            exact Or.inl ⟨by simp [haction], rfl⟩

theorem onward_record {event : Event} (h : event.startsNodes = false) :
    Onward workflowId run (run.record event) :=
  ⟨⟨[event], rfl, by simpa using h⟩, rfl⟩

/-- A node that Phase 3 has settled aborts the workflow exactly if the abort
branch is taken. -/
def AbortsIfTaken (env : Environment) (workflowId : UUID) (visit : Visit) (run : Run)
    (context : NodeContext) (run' : Run) : Prop :=
  Idly run run' ∧
    ((takesAbort env workflowId visit run context = false ∧
        run'.db.outcome? workflowId = run.db.outcome? workflowId) ∨
      ((run.db.outcome? workflowId).isSome → IsAborted workflowId run'.db))

theorem settleNode_aborts (env : Environment) (workflowId : UUID) (visit : Visit) (run : Run)
    (context : NodeContext) :
    Outcome.Holds (AbortsIfTaken env workflowId visit run context)
      (fun stopped => Onward workflowId run stopped.2)
      (settleNode env workflowId visit run context) := by
  have hcheck : ∀ {run' : Run} (raises : Bool), Onward workflowId run run' →
      Outcome.Holds (fun _ => True) (fun stopped : Stopped => Onward workflowId run stopped.2)
        (run'.check raises) := by
    intro run' raises h
    cases raises with
    | true => exact h
    | false => trivial
  have hupdate : ∀ {run' : Run} (f : Task → Task), Onward workflowId run run' →
      Onward workflowId run (run'.updateTask context.taskId f) :=
    fun _ h => ⟨h.idly, h.outcome⟩
  have hkept : ∀ {run' : Run}, takesAbort env workflowId visit run context = false →
      Onward workflowId run run' → AbortsIfTaken env workflowId visit run context run' :=
    fun hnot h => ⟨h.idly, Or.inl ⟨hnot, h.outcome⟩⟩
  unfold settleNode
  cases hresponse : visit.response with
  | error message =>
    have hnot : takesAbort env workflowId visit run context = false := by
      unfold takesAbort
      rw [hresponse, Bool.and_false]
    unfold settleError
    dsimp only
    refine (hcheck _ (hupdate _ (.refl run))).bind (fun _ _ => ?_)
    have hreleased := (releaseNode_released workflowId visit false (run.updateTask context.taskId
      (fun task => { task with status := .failed, errorMessage := some message }))
      context.node.nodeId s!"Task {context.node.nodeId} failed: LLM error").onward
    exact hkept hnot ⟨hreleased.idly, hreleased.outcome⟩
  | ok response =>
    dsimp only
    have hrecord : Onward workflowId run
        (run.record (.processed context response run.db visit)) := onward_record rfl
    have hprocess := @processResponse_onward env workflowId visit context
      (run.record (.processed context response run.db visit)) response
    cases hresult : processResponse env workflowId visit
        (run.record (.processed context response run.db visit)) context response with
    | ok run' =>
      obtain ⟨run₀, hrun₀, rfl⟩ := hprocess.of_ok hresult
      obtain ⟨hidly, hcases⟩ := reflectOnTask_cases workflowId visit run₀ context
      have honward : Onward workflowId run run₀ := hrecord.trans hrun₀
      refine ⟨honward.idly.trans hidly, ?_⟩
      rcases hcases with ⟨hnot, houtcome⟩ | haborts
      · refine Or.inl ⟨?_, houtcome.trans honward.outcome⟩
        rw [takesAbort, hnot, Bool.false_and]
      · refine Or.inr (fun hrow => haborts ?_)
        rw [honward.outcome]
        exact hrow
    | error failure =>
      have hfailed : Onward workflowId run failure.run := hrecord.trans (hprocess.of_error hresult)
      have hnot : takesAbort env workflowId visit run context = false := by
        unfold takesAbort
        rw [hresponse]
        dsimp only
        rw [hresult, Bool.and_false]
      unfold settleFailure
      dsimp only
      have hreleased : Onward workflowId run
          (if failure.charged then failure.run
            else releaseNode workflowId visit failure.aborted failure.run context.node.nodeId
              s!"Task {context.node.nodeId} post-processing failed: {env.errorText failure.error}")
          := by
        split
        · exact hfailed
        · exact hfailed.trans (releaseNode_released ..).onward
      refine (hcheck _ (hupdate _ hreleased)).bind (fun _ _ => ?_)
      exact hkept hnot ⟨hreleased.idly, hreleased.outcome⟩

/-- An abort stays the last word while Phase 3 goes on. -/
theorem settleNode_abortFinal {aborted : Run} (h : AbortFinal workflowId aborted run) :
    Outcome.Holds (AbortFinal workflowId aborted)
      (fun stopped => AbortFinal workflowId aborted stopped.2)
      (settleNode env workflowId visit run context) := by
  obtain ⟨hidly, haborted⟩ := h
  refine (settleNode_aborts env workflowId visit run context).mono ?_ ?_
  · rintro run' ⟨hidly', hcases⟩
    refine ⟨hidly.trans hidly', ?_⟩
    rcases hcases with ⟨-, houtcome⟩ | haborts
    · exact haborted.congr houtcome
    · apply haborts
      obtain ⟨result, hresult, -⟩ := haborted
      rw [hresult]
      rfl
  · intro stopped honward
    exact ⟨hidly.trans honward.idly, haborted.congr honward.outcome⟩

/-- What Phase 3 aborts stays aborted to its end. -/
theorem settleAborts_abortFinal {iteration : Nat} {contexts : List NodeContext} {aborted : Run}
    (h : aborted ∈ settleAborts env workflowId iteration contexts run)
    (hrow : (run.db.outcome? workflowId).isSome) :
    Outcome.Holds (AbortFinal workflowId aborted)
      (fun stopped => AbortFinal workflowId aborted stopped.2)
      (contexts.foldlM (fun run context =>
        settleNode env workflowId (env.visit iteration context.node.nodeId) run context) run) := by
  induction contexts generalizing run with
  | nil => cases h
  | cons context rest ih =>
    rw [List.foldlM_cons]
    unfold settleAborts at h
    dsimp only at h
    have hsettled := settleNode_aborts env workflowId (env.visit iteration context.node.nodeId) run
      context
    cases hresult : settleNode env workflowId (env.visit iteration context.node.nodeId) run
        context with
    | error stopped =>
      rw [hresult] at h
      cases h
    | ok run' =>
      rw [hresult] at h
      obtain ⟨hidly, hcases⟩ := hsettled.of_ok hresult
      show Outcome.Holds _ _ (rest.foldlM _ run')
      have hrest : aborted ∈ settleAborts env workflowId iteration rest run' →
          Outcome.Holds (AbortFinal workflowId aborted)
            (fun stopped => AbortFinal workflowId aborted stopped.2)
            (rest.foldlM (fun run context => settleNode env workflowId
              (env.visit iteration context.node.nodeId) run context) run') := by
        intro hmem
        apply ih hmem
        rcases hcases with ⟨-, houtcome⟩ | haborts
        · rw [houtcome]
          exact hrow
        · obtain ⟨result, hresult, -⟩ := haborts hrow
          rw [hresult]
          rfl
      dsimp only at h
      split at h
      · rename_i htaken
        rcases List.mem_cons.1 h with rfl | hmem
        · have haborted : IsAborted workflowId aborted.db := by
            rcases hcases with ⟨hnot, -⟩ | haborts
            · rw [htaken] at hnot
              cases hnot
            · exact haborts hrow
          exact Outcome.Holds.foldlM_mem rest aborted
            (fun _ _ _ hrun => settleNode_abortFinal hrun) ⟨.refl rfl, haborted⟩
        · exact hrest hmem
      · exact hrest h

end Settling

/-! ## The phases of a batch -/

section Batch

variable {env workflowId agents}

/-- The run with its DAG persisted. -/
private def persisted (workflowId : UUID) (run : Run) : Run :=
  { run with
    db := run.db.updateWorkflow workflowId (fun workflow =>
      { workflow with dagSnapshot := some run.dag.toDict }) }

private theorem outcome?_persisted (run : Run) :
    (persisted workflowId run).db.outcome? workflowId = run.db.outcome? workflowId :=
  Db.outcome?_updateWorkflow _ _ _ (by intro; exact ⟨rfl, rfl, rfl⟩)

theorem persistDag_rule {iteration : Nat} {run : Run} (hP : P (persisted workflowId run))
    (hE : E (.raised, persisted workflowId run)) :
    Outcome.Holds P E (persistDag env workflowId iteration run) := by
  unfold persistDag
  cases env.persistRaises iteration with
  | true => exact hE
  | false => exact hP

/-- A batch extends the log. -/
theorem executeBatch_log (iteration : Nat) (run : Run) :
    Outcome.Holds (fun run' => (openBatch run).log <+: run'.log)
      (fun stopped => (openBatch run).log <+: stopped.2.log)
      (executeBatch env workflowId agents iteration run) := by
  have hgrow : ∀ {run₁ run₂ : Run}, (openBatch run).log <+: run₁.log → Quietly run₁ run₂ →
      (openBatch run).log <+: run₂.log :=
    fun h hquiet => h.trans hquiet.log
  rw [executeBatch_eq]
  refine Outcome.Holds.bind (P := fun run' => (openBatch run).log <+: run'.log) ?_ ?_
  · refine callPhases_rule (P := fun run' => (openBatch run).log <+: run'.log)
      (E := fun stopped => (openBatch run).log <+: stopped.2.log) ?_ ?_ ?_ ?_ (fun _ h => h)
      iteration run (List.prefix_refl _)
    · intro visit run₁ node h
      exact (prepareNode_holds env workflowId agents visit run₁ node).mono
        (fun _ hprepared => hgrow h hprepared.quietly) (fun _ hraised => hgrow h hraised.2)
    · intro visit run₁ escalated context h
      exact (policyEvaluateNode_holds visit run₁ escalated context).mono
        (fun _ hevaluated => hgrow h hevaluated.quietly) (fun _ hraised => hgrow h hraised.2)
    · intro visit run₁ node h
      refine (gateNode_holds env workflowId visit run₁ node).mono ?_ ?_
      · rintro run₂ ⟨_, -, -, hgated⟩
        exact hgrow h hgated.quietly
      · rintro stopped (hraised | ⟨_, -, -, hpaused⟩)
        · exact hgrow h hraised.2
        · exact hgrow h hpaused.quietly
    · intro run₁ gated called h
      exact h.trans (List.prefix_append _ _)
  · intro run₁ h
    refine Outcome.Holds.bind (P := fun run' => (openBatch run).log <+: run'.log) ?_ ?_
    · refine Outcome.Holds.foldlM_mem _ _ (fun context _ run₂ h => ?_) h
      exact (settleNode_holds env workflowId _ run₂ context).mono
        (fun _ hsettled => hgrow h hsettled.quietly) (fun _ hraised => hgrow h hraised.2)
    · exact fun run₂ h => persistDag_rule h h

theorem loop_log (remaining iteration : Nat) (run : Run) :
    Outcome.Holds (fun result => run.log <+: result.2.log)
      (fun stopped => run.log <+: stopped.2.log)
      (loop env workflowId agents remaining iteration run) := by
  induction remaining generalizing iteration run with
  | zero => exact List.prefix_refl _
  | succ remaining ih =>
    unfold loop
    split
    · exact List.prefix_refl _
    · split
      · exact List.prefix_refl _
      · have hopen : run.log <+: (openBatch run).log := List.prefix_append _ _
        refine ((executeBatch_log iteration run).mono (fun _ h => h)
          (fun _ h => hopen.trans h)).bind ?_
        intro run' h
        exact (ih (iteration + 1) run').mono (fun _ h' => (hopen.trans h).trans h')
          (fun _ h' => (hopen.trans h).trans h')

/-- The phases before Phase 3 keep the row of the workflow. -/
theorem callPhases_outcome (iteration : Nat) (run : Run) :
    Outcome.Holds (fun run' => run'.db.outcome? workflowId = run.db.outcome? workflowId)
      (fun _ => True) (callPhases env workflowId agents iteration run) := by
  refine callPhases_rule (P := fun run' => run'.db.outcome? workflowId = run.db.outcome? workflowId)
    ?_ ?_ ?_ (fun _ _ _ h => h) (fun _ _ => trivial) iteration run rfl
  · intro visit run₁ node h
    refine (prepareNode_holds env workflowId agents visit run₁ node).mono ?_ (fun _ _ => trivial)
    intro run₂ hprepared
    rw [← h]
    cases hprepared with
    | noAgent _ _ hrun => rw [hrun]
    | starved _ _ _ _ _ hrun => rw [hrun]; rfl
    | started agent reservation db _ _ _ _ hreserve _ hrun =>
      rw [hrun]
      show db.outcome? workflowId = _
      rcases WalletService.reserveBudget_cases hreserve with ⟨-, hdb⟩ |
        ⟨-, -, -, -, -, -, -, -, hdb⟩
      · rw [hdb]
      · rw [hdb]
        rfl
  · intro visit run₁ escalated context h
    refine (policyEvaluateNode_holds visit run₁ escalated context).mono ?_ (fun _ _ => trivial)
    intro state hevaluated
    rw [← h]
    cases hevaluated with
    | failed hstate => rw [hstate]
    | denied _ _ _ hrun _ => rw [hrun]; rfl
    | kept _ _ hrun _ => rw [hrun]; rfl
  · intro visit run₁ node h
    refine (gateNode_holds env workflowId visit run₁ node).mono ?_ (fun _ _ => trivial)
    rintro run₂ ⟨_, -, -, hgated⟩
    rw [← h]
    cases hgated with
    | denied _ _ _ _ hrun => rw [hrun]; rfl
    | passed _ _ _ hrun => rw [hrun]; rfl
    | fellThrough _ _ hrun => rw [hrun]; rfl

/-- A batch keeps the row of the workflow. -/
theorem executeBatch_row {iteration : Nat} {run run' : Run}
    (h : executeBatch env workflowId agents iteration run = .ok run')
    (hrow : (run.db.outcome? workflowId).isSome) : (run'.db.outcome? workflowId).isSome := by
  have hholds : Outcome.Holds (fun run' => (run'.db.outcome? workflowId).isSome = true)
      (fun _ => True) (executeBatch env workflowId agents iteration run) := by
    rw [executeBatch_eq]
    refine (callPhases_outcome iteration run).bind ?_
    intro run₁ hrun₁
    refine Outcome.Holds.bind (P := fun run' => (run'.db.outcome? workflowId).isSome = true) ?_ ?_
    · refine Outcome.Holds.foldlM_mem _ _ (fun context _ run₂ hrun₂ => ?_) (by rw [hrun₁]; exact hrow)
      refine (settleNode_aborts env workflowId _ run₂ context).mono ?_ (fun _ _ => trivial)
      rintro run₃ ⟨-, ⟨-, houtcome⟩ | haborts⟩
      · rw [houtcome]
        exact hrun₂
      · obtain ⟨result, hresult, -⟩ := haborts hrun₂
        rw [hresult]
        rfl
    · intro run₂ hrun₂
      refine persistDag_rule ?_ trivial
      rw [outcome?_persisted]
      exact hrun₂
  exact hholds.of_ok h

/-- An abort is the last word until its batch is left. -/
theorem batchAborts_abortFinal {iteration : Nat} {run : Run} {point : AbortPoint}
    (h : point ∈ batchAborts env workflowId agents iteration run)
    (hrow : (run.db.outcome? workflowId).isSome) :
    point.iteration = iteration ∧ point.opened = run ∧
      Outcome.Holds (AbortFinal workflowId point.aborted)
        (fun stopped => AbortFinal workflowId point.aborted stopped.2)
        (executeBatch env workflowId agents iteration run) := by
  rw [executeBatch_eq]
  unfold batchAborts at h
  cases hcalled : callPhases env workflowId agents iteration run with
  | error stopped =>
    rw [hcalled] at h
    cases h
  | ok called =>
    rw [hcalled] at h
    obtain ⟨aborted, haborted, rfl⟩ := List.mem_map.1 h
    refine ⟨rfl, rfl, ?_⟩
    have hcalledRow : (called.db.outcome? workflowId).isSome := by
      rw [(callPhases_outcome iteration run).of_ok hcalled]
      exact hrow
    refine (settleAborts_abortFinal haborted hcalledRow).bind ?_
    rintro run' ⟨hidly, hfinal⟩
    have hpersisted : AbortFinal workflowId aborted (persisted workflowId run') :=
      ⟨hidly.trans (.refl rfl), hfinal.congr (outcome?_persisted run')⟩
    exact persistDag_rule hpersisted hpersisted

end Batch

/-! ## The end of a run -/

/-- The synthesizer returns no key `status`: its keys are `content`,
`confidence`, `summary`, `synthesis_cost` and `synthesis_tokens`. -/
def SynthesisKeys (env : Environment) : Prop :=
  ∀ result, env.synthesis = .ok result → "status" ∉ Assoc.keys result

section End

variable {env : Environment} {workflowId : UUID} {agents : String → Option Agent} {run : Run}

private theorem lookup_set {entries : List (String × Json)} {key : String} {value : Json}
    (h : key ≠ "status") :
    Json.lookup (Assoc.set entries key value) "status" = Json.lookup entries "status" := by
  unfold Json.lookup Json.getD
  rw [Assoc.find?_set]
  intro entry hentry
  simpa [hentry] using h

/-- A finalised result has no status of its own. -/
theorem lookup_finalResult (hsynthesis : SynthesisKeys env) (dag : DAG) (workflow : Workflow) :
    Json.lookup (finalResult env dag workflow) "status" = .null := by
  have hsynthesize : Json.lookup (synthesize env) "status" = .null := by
    unfold synthesize
    split
    · rename_i result hresult
      have hnone : result.find? (fun entry => entry.1 == "status") = none := by
        rw [List.find?_eq_none]
        intro entry hentry hkey
        refine hsynthesis result hresult (List.mem_map.2 ⟨entry, hentry, ?_⟩)
        simpa using hkey
      rw [Json.lookup, Json.getD, hnone]
      rfl
    · rfl
  unfold finalResult
  dsimp only
  split
  all_goals
    repeat' split
    all_goals
      simp only [lookup_set, hsynthesize, ne_eq, String.reduceEq, not_false_eq_true]

/-- A workflow that ran away is not left aborted. -/
theorem not_isAborted_failRunaway (limit : Nat) :
    ¬IsAborted workflowId (finalRun (failRunaway env workflowId limit run)).db := by
  rintro ⟨result, hresult, hstatus⟩
  have hdb : (finalRun (failRunaway env workflowId limit run)).db.outcome? workflowId =
      (run.db.workflow? workflowId).map (fun _ => (.failed, some
        [ ("error", .str "scheduler_loop_runaway")
        , ("detail", .str s!"Exceeded {limit} iterations without completing")
        , ("completed", .int run.dag.completedCount)
        , ("failed", .int run.dag.failedCount) ])) := by
    unfold failRunaway
    cases env.finishFlushRaises <;>
    · show (Db.updateWorkflow _ _ _).outcome? workflowId = _
      rw [Db.outcome?, Db.workflow?_updateWorkflow _ _ _ (by intro; rfl), Option.map_map]
      rfl
  rw [hdb] at hresult
  obtain ⟨_, -, hpair⟩ := Option.map_eq_some_iff.1 hresult
  cases hpair
  cases hstatus

/-- A finalised workflow is not left aborted. -/
theorem not_isAborted_finalise (hsynthesis : SynthesisKeys env)
    (hrow : (run.db.outcome? workflowId).isSome) :
    ¬IsAborted workflowId (finalRun (finalise env workflowId run)).db := by
  rintro ⟨result, hresult, hstatus⟩
  obtain ⟨_, houtcome⟩ := Option.isSome_iff_exists.1 hrow
  obtain ⟨workflow, hworkflow, -⟩ := Option.map_eq_some_iff.1 houtcome
  have hdb : (finalRun (finalise env workflowId run)).db.outcome? workflowId =
      some (finalStatus run.dag, some (finalResult env run.dag workflow)) := by
    unfold finalise
    rw [hworkflow]
    cases env.finishFlushRaises <;>
    · show (Db.updateWorkflow _ _ _).outcome? workflowId = _
      rw [Db.outcome?, Db.workflow?_updateWorkflow _ _ _ (by intro; rfl), hworkflow]
      rfl
  rw [hdb] at hresult
  obtain ⟨-, hpayload⟩ := Prod.mk.inj (Option.some.inj hresult)
  rw [← Option.some.inj hpayload, lookup_finalResult hsynthesis] at hstatus
  cases hstatus

/-- The end of a run, after the loop. -/
def finish (env : Environment) (workflowId : UUID) (limit : Nat) (result : Bool × Run) :
    Except Stopped (List (String × Json) × Run) :=
  if result.1 then failRunaway env workflowId limit result.2 else finalise env workflowId result.2

theorem log_finish (limit : Nat) (result : Bool × Run) :
    (finalRun (finish env workflowId limit result)).log = result.2.log := by
  unfold finish
  split
  · unfold failRunaway
    cases env.finishFlushRaises <;> rfl
  · unfold finalise
    split
    · rfl
    · cases env.finishFlushRaises <;> rfl

/-- A batch that ends normally is followed by the end of the run or by another
batch. -/
theorem not_abortFinal_of_loop (hsynthesis : SynthesisKeys env) {aborted : Run} (limit : Nat)
    (remaining iteration : Nat) (hrow : (run.db.outcome? workflowId).isSome)
    (haborted : Idly aborted run) :
    ¬AbortFinal workflowId aborted (finalRun
      (loop env workflowId agents remaining iteration run >>= finish env workflowId limit)) := by
  have hend : ∀ runaway, ¬AbortFinal workflowId aborted (finalRun
      (finish env workflowId limit (runaway, run))) := by
    rintro (_ | _) hfinal
    · exact not_isAborted_finalise hsynthesis hrow hfinal.2
    · exact not_isAborted_failRunaway limit hfinal.2
  cases remaining with
  | zero => exact hend _
  | succ remaining =>
    unfold loop
    split
    · exact hend false
    · split
      · exact hend false
      · rintro ⟨⟨events, hlog, hevents⟩, -⟩
        have hgrown : (openBatch run).log <+: (finalRun
            ((executeBatch env workflowId agents iteration run >>=
              loop env workflowId agents remaining (iteration + 1)) >>=
                finish env workflowId limit)).log := by
          have hloop : Outcome.Holds (fun result => (openBatch run).log <+: result.2.log)
              (fun stopped => (openBatch run).log <+: stopped.2.log)
              (executeBatch env workflowId agents iteration run >>=
                loop env workflowId agents remaining (iteration + 1)) :=
            (executeBatch_log iteration run).bind (fun run' h =>
              (loop_log remaining (iteration + 1) run').mono (fun _ h' => h.trans h')
                (fun _ h' => h.trans h'))
          cases hresult : executeBatch env workflowId agents iteration run >>=
              loop env workflowId agents remaining (iteration + 1) with
          | error stopped => exact hloop.of_error hresult
          | ok result =>
            refine (hloop.of_ok hresult).trans ?_
            show result.2.log <+: (finalRun (finish env workflowId limit result)).log
            rw [log_finish]
        obtain ⟨more, hmore⟩ := hgrown
        obtain ⟨before, hbefore, -⟩ := haborted
        have hbatch : Event.batch (run.dag.getReadyNodes.map DAGNode.nodeId) ∈ events := by
          rw [← hmore, openBatch, hbefore, List.append_assoc, List.append_assoc,
            List.append_cancel_left_eq] at hlog
          rw [← hlog]
          simp
        have hnot := hevents _ hbatch
        cases hnot

theorem abortFinal_iff_of_loop (hsynthesis : SynthesisKeys env) (limit : Nat)
    {remaining iteration : Nat} {point : AbortPoint}
    (hpoint : point ∈ loopAborts env workflowId agents remaining iteration run)
    (hrow : (run.db.outcome? workflowId).isSome) :
    AbortFinal workflowId point.aborted (finalRun
        (loop env workflowId agents remaining iteration run >>= finish env workflowId limit)) ↔
      ∃ stopped, executeBatch env workflowId agents point.iteration point.opened =
        .error stopped := by
  induction remaining generalizing iteration run with
  | zero => cases hpoint
  | succ remaining ih =>
    unfold loopAborts at hpoint
    unfold loop
    split at hpoint
    · cases hpoint
    rename_i hcomplete
    split at hpoint
    · cases hpoint
    rename_i hready
    rw [if_neg hcomplete, if_neg hready]
    rcases List.mem_append.1 hpoint with hhere | hlater
    · obtain ⟨hiteration, hopened, hholds⟩ := batchAborts_abortFinal hhere hrow
      rw [hiteration, hopened]
      cases hbatch : executeBatch env workflowId agents iteration run with
      | error stopped =>
        exact ⟨fun _ => ⟨stopped, rfl⟩, fun _ => hholds.of_error hbatch⟩
      | ok run' =>
        have hnot : ¬AbortFinal workflowId point.aborted (finalRun
            (loop env workflowId agents remaining (iteration + 1) run' >>=
              finish env workflowId limit)) :=
          not_abortFinal_of_loop hsynthesis limit remaining (iteration + 1)
            (executeBatch_row hbatch hrow) (hholds.of_ok hbatch).1
        constructor
        · intro hfinal
          exact absurd hfinal hnot
        · intro hstopped
          obtain ⟨stopped, herror⟩ := hstopped
          cases herror
    · cases hbatch : executeBatch env workflowId agents iteration run with
      | error stopped =>
        rw [hbatch] at hlater
        cases hlater
      | ok run' =>
        rw [hbatch] at hlater
        exact ih hlater (executeBatch_row hbatch hrow)

end End

end WorkflowScheduler

/-! ## An abort that is overwritten -/

namespace SchedulerExample

/-- The reflection refuses the output. -/
def refused (_ : Nat) (nodeId : String) : Visit :=
  { visit nodeId with reflection := some { action := "abort", issues := ["unsafe"] } }

/-- The reflection refuses the output, and the flush after Phase 3 raises. -/
def crashing : Environment := { env refused with persistRaises := fun _ => true }

/-- The aborts of a run with one root node. -/
def aborts (environment : Environment) : List WorkflowScheduler.AbortPoint :=
  WorkflowScheduler.abortPoints environment (UUID.ofNat 1) (fun _ => some agent) db
    (DAG.ofNodes [root "t1" "research"])

theorem synthesisKeys {environment : Environment}
    (h : environment.synthesis = .ok [("content", .str "summary")]) :
    WorkflowScheduler.SynthesisKeys environment := by
  intro result hresult
  rw [h] at hresult
  cases hresult
  decide

end SchedulerExample

namespace WorkflowScheduler

end WorkflowScheduler

end MassClaw
