import MassClaw.Scheduler.Prepare

/-!
# Phases 2 and 3: the LLM calls and their results

Phase 2 ends with a response or an exception for every node that still has a
context.  Phase 3 charges the cost of a response against the reservation,
writes the content to shared memory, completes the node and reflects on the
output; an exception on the way fails the node and gives the reservation back
unless it was charged.
-/

namespace MassClaw

/-! ## Self-correction and replanning -/

namespace SelfCorrectionEngine

/-- `MAX_RETRIES_PER_TASK`. -/
def maxRetriesPerTask : Nat := 2

/-- `should_retry` of `evaluate`. -/
def shouldRetry (reflection : ReflectionResult) (retryCount : Nat) : Bool :=
  retryCount < maxRetriesPerTask &&
    (reflection.action == "retry_task" || reflection.action == "re_plan") &&
    reflection.confidence < 6 / 10

/-- `_build_feedback_prompt`. -/
def buildFeedbackPrompt (issues suggestions : List String) : String :=
  let issueLines :=
    if issues.isEmpty then []
    else "**Issues identified:**" :: (issues.take 3).map (fun issue => s!"- {issue}")
  let suggestionLines :=
    if suggestions.isEmpty then []
    else "\n**Suggestions for improvement:**" ::
      (suggestions.take 3).map (fun suggestion => s!"- {suggestion}")
  String.intercalate "\n"
    (["\n\n## Feedback from Quality Review\n"] ++ issueLines ++ suggestionLines ++
      ["\nPlease address these issues in your revised response."])

end SelfCorrectionEngine

namespace DynamicReplanner

/-- The id of the alternative of a node. -/
def altNodeId (nodeId : String) : String := s!"{nodeId}_alt"

/-- The alternative of a node. -/
def altNode (node : DAGNode) (context : String) : DAGNode where
  nodeId := altNodeId node.nodeId
  capability := node.capability
  description := s!"[RETRY with different approach] {node.description}\n" ++
    s!"Previous attempt was inadequate. {context}\n" ++
    "Use a fundamentally different methodology or perspective."
  dependsOn := node.dependsOn
  estimatedComplexity := node.estimatedComplexity

/-- `replan` for the action `re_plan`: the added node and the DAG with it. -/
def replan (dag : DAG) (failedNodeId context : String) : Option (DAGNode × DAG) :=
  (dag.node? failedNodeId).bind (fun node =>
    (dag.addNode (altNode node context)).map (fun dag => (altNode node context, dag)))

theorem replan_eq_some {dag dag' : DAG} {failedNodeId context : String} {added : DAGNode}
    (h : replan dag failedNodeId context = some (added, dag')) :
    ∃ node, dag.node? failedNodeId = some node ∧ added = altNode node context ∧
      dag.addNode (altNode node context) = some dag' := by
  obtain ⟨node, hnode, hadded⟩ := Option.bind_eq_some_iff.1 h
  obtain ⟨dag'', hadd, heq⟩ := Option.map_eq_some_iff.1 hadded
  cases heq
  exact ⟨node, hnode, rfl, hadd⟩

end DynamicReplanner

namespace WorkflowScheduler

/-! ## Phase 2 -/

/-- Phase 2 for the nodes that still have a context.  The calls run
concurrently; when one raises, the results of the others are lost. -/
def executeNodes (env : Environment) (iteration : Nat) (gated : List DAGNode) (run : Run) :
    Except Stopped Run := do
  let run := run.record (.llmCalls (gated.map DAGNode.nodeId)
    (run.contexts.map (fun context => context.node.nodeId)))
  run.check (run.contexts.any (fun context =>
    (env.visit iteration context.node.nodeId).raises .semanticCache))
  return run

/-! ## Charging and writing -/

/-- An exception in the `try` block of Phase 3, with the flag `charged` and the
state it was raised in.  `aborted` is set when the database has aborted the
transaction, so that every later statement raises. -/
structure SettleFailure where
  error : SettleError
  charged : Bool
  aborted : Bool := false
  run : Run

/-- The error leaves an aborted transaction. -/
def abortsTransaction : WalletError → Bool
  | .integrity | .numericOverflow => true
  | .validation | .notFound _ | .budgetExhausted _ _ _ _ _ => false

/-- The charge of Phase 3; the flag is `charged`. -/
def chargeNode (workflowId : UUID) (visit : Visit) (run : Run) (context : NodeContext)
    (response : LLMResponse) : Except SettleFailure (Bool × Run) :=
  match run.reservation? context.node.nodeId with
  | none => .ok (false, run)
  | some reservation =>
    if visit.raises .charge then .error { error := .raised .charge, charged := false, run }
    else
      match WalletService.charge run.db workflowId (some context.agent.agentId)
          (tokensToCredits response.cost) reservation.walletEventId
          s!"Task {context.node.nodeId} completed: {response.totalTokens} tokens"
          (some (chargeKey workflowId context.node.nodeId)) with
      | .error error =>
        .error { error := .wallet error, charged := false, aborted := abortsTransaction error, run }
      | .ok (_, db) =>
        let run := { run with db }
        if visit.raises .chargeCache then
          .error { error := .raised .chargeCache, charged := false, run }
        else .ok (true, run)

/-- The request that stores a result. -/
def resultRequest (workflowId : UUID) (context : NodeContext) (content : String)
    (h : 1 ≤ content.length ∧ content.length ≤ 100000) : MemoryWriteRequest where
  workflowId := workflowId
  sourceAgentId := some context.agent.agentId
  memoryType := .result
  content := content
  confidence := 85 / 100
  metadata :=
    [("task_id", .str context.taskId.str), ("capability", .str context.node.capability)]
  contentLength := h
  confidenceRange := by norm_num
  ttlPositive := MemoryWriteRequest.ttlPositive_none

/-- The memory write of Phase 3. -/
def writeResult (env : Environment) (workflowId : UUID) (visit : Visit) (run : Run)
    (context : NodeContext) (content : String) (charged : Bool) : Except SettleFailure Run :=
  if h : 1 ≤ content.length ∧ content.length ≤ 100000 then
    if visit.raises .writeMemory then .error { error := .raised .writeMemory, charged, run }
    else
      match MemoryService.writeMemory env.host run.db visit.now visit.transactionStart
          (resultRequest workflowId context content h) with
      | .error error => .error { error := .memory error, charged, run }
      | .ok (_, db) => .ok { run with db }
  else .error { error := .contentLength content.length, charged, run }

/-- `quality_score`. -/
def qualityScore (content : String) : ℚ := min 1 (content.length / 500)

/-- The end of a node in Phase 3: the trust event, the task row, the DAG. -/
def completeNode (visit : Visit) (run : Run) (context : NodeContext) (response : LLMResponse)
    (charged : Bool) : Except SettleFailure Run :=
  if visit.raises .trust then .error { error := .raised .trust, charged, run }
  else
    let run := run.updateTask context.taskId (fun task =>
      { task with
        status := .completed
        output := some [("content", .str response.content), ("model", .str response.model)]
        confidence := some (qualityScore response.content)
        costUsed := numeric4 (tokensToCredits response.cost)
        latencyMs := some response.latencyMs
        completedAt := some visit.now })
    if visit.raises .completeFlush then .error { error := .raised .completeFlush, charged, run }
    else .ok { run with
      dag := run.dag.markCompleted context.node.nodeId (some response.content) }

/-! ## After completion -/

/-- Assign to a key of `task_rec.output`. -/
def setOutput (task : Task) (key : String) (value : Json) : Task :=
  { task with output := some (Assoc.set (task.output.getD []) key value) }

/-- The consensus verification of a high-risk node. -/
def verifyConsensus (visit : Visit) (run : Run) (context : NodeContext) : Run :=
  if context.node.capability ∈ ["risk-assessment", "compliance-check", "safety-analysis"] then
    match visit.consensus with
    | none => run
    | some consensus =>
      if consensus.agreed then run
      else run.updateTask context.taskId (fun task =>
        { setOutput task "consensus_warning"
            (.str (s!"Consensus not reached (agreement: {consensus.percent}). " ++
              "Output may require manual review.")) with
          confidence := some (max (3 / 10)
            (task.confidence.getD 0 * consensus.weightedAgreement)) })
  else run

/-- The review request for an output of low confidence. -/
def requestReview (visit : Visit) (run : Run) (context : NodeContext) : Run :=
  if visit.reviewRaises then run
  else run.updateTask context.taskId (fun task =>
    if task.confidence.any (· < 4 / 10) ∧
        ¬(Json.lookup (task.output.getD []) "review_requested").truthy then
      setOutput task "review_requested" (.bool true)
    else task)

/-- The first texts of a list as JSON. -/
def jsonTexts (count : Nat) (texts : List String) : Json := .list ((texts.take count).map .str)

/-- The `retry_task` branch of `_reflect_on_task`. -/
def retryTask (run : Run) (context : NodeContext) (reflection : ReflectionResult) : Run :=
  match run.db.task? context.taskId with
  | none => run
  | some task =>
    if SelfCorrectionEngine.shouldRetry reflection task.retryCount then
      { run.updateTask context.taskId (fun task =>
          let fed := setOutput task "retry_feedback"
            (.str (SelfCorrectionEngine.buildFeedbackPrompt reflection.issues
              reflection.suggestions))
          { fed with
            retryCount := task.retryCount + 1
            status := .pending
            output := fed.output.map (fun output =>
              output.filter (fun entry => entry.1 ≠ "review_requested")) }) with
        dag := run.dag.markPending context.node.nodeId }
    else run

/-- `MAX_REPLANS_PER_WORKFLOW`. -/
def maxReplansPerWorkflow : Nat := 3

/-- The `re_plan` and `add_verifier` branch of `_reflect_on_task`. -/
def replanTask (run : Run) (context : NodeContext) (reflection : ReflectionResult) : Run :=
  if maxReplansPerWorkflow ≤ run.replanCount then
    run.updateTask context.taskId (fun task =>
      setOutput task "replan_capped" (.dict
        [ ("action_requested", .str reflection.action)
        , ("cap", .int maxReplansPerWorkflow)
        , ("issues", jsonTexts 3 reflection.issues) ]))
  else
    let issues := String.intercalate "; " (reflection.issues.take 3)
    let text := if issues = "" then reflection.action else issues
    match DynamicReplanner.replan run.dag context.node.nodeId text with
    | none => run
    | some (added, dag) =>
      { run.updateTask context.taskId (fun task =>
          setOutput task "replan" (.dict
            [ ("added_node_ids", .list [.str added.nodeId])
            , ("action", .str reflection.action)
            , ("context", .str text) ])) with
        dag
        replanCount := run.replanCount + 1 }

/-- The `abort` branch of `_reflect_on_task`. -/
def abortWorkflow (workflowId : UUID) (visit : Visit) (run : Run) (context : NodeContext)
    (reflection : ReflectionResult) : Run :=
  let issues := String.intercalate ", " (reflection.issues.take 2)
  let reason := s!"reflection_abort: {issues}"
  let run := match visit.abortHash with
    | none => run
    | some hash => run.updateTask context.taskId (fun task =>
        setOutput task "abort_checkpoint" (.dict [("hash", .str hash), ("reason", .str reason)]))
  let issues := String.intercalate "; " (reflection.issues.take 3)
  { run with
    db := run.db.updateWorkflow workflowId (fun workflow =>
      { workflow with
        status := .failed
        completedAt := some visit.now
        result := some
          [ ("status", .str "aborted_by_safety_reflection")
          , ("aborted_at_task", .str context.node.nodeId)
          , ("aborted_at_capability", .str context.node.capability)
          , ("issues", .str (if issues = "" then "safety check failed" else issues))
          , ("suggestions", .str (String.intercalate "; " (reflection.suggestions.take 2)))
          , ("checkpoint_hash", (visit.abortHash.map .str).getD .null)
          , ("next_steps", .str
              ("The safety reflection engine refused to execute this workflow. " ++
                "If you believe the block is a false positive, rephrase the request " ++
                "with explicit authorization context or submit it via the HITL " ++
                "approval flow using the checkpoint_hash above.")) ] }) }

/-- `_reflect_on_task`. -/
def reflectOnTask (workflowId : UUID) (visit : Visit) (run : Run) (context : NodeContext) : Run :=
  match visit.reflection with
  | none => run
  | some reflection =>
    let run := run.updateTask context.taskId (fun task =>
      setOutput task "reflection" (.dict
        [ ("action", .str reflection.action)
        , ("confidence", .float (.finite reflection.confidence))
        , ("issues", jsonTexts 3 reflection.issues)
        , ("suggestions", jsonTexts 3 reflection.suggestions) ]))
    if reflection.action = "retry_task" then retryTask run context reflection
    else if reflection.action = "re_plan" ∨ reflection.action = "add_verifier" then
      replanTask run context reflection
    else if reflection.action = "abort" then abortWorkflow workflowId visit run context reflection
    else run

/-! ## Phase 3 -/

/-- Give the reservation of a node back; an exception is swallowed. -/
def releaseNode (workflowId : UUID) (visit : Visit) (aborted : Bool) (run : Run) (nodeId : String)
    (reason : String) : Run :=
  match run.reservation? nodeId with
  | none => run
  | some reservation =>
    if aborted || visit.raises .release then run.record (.released nodeId reservation true)
    else
      match WalletService.releaseReservation run.db workflowId reservation.walletEventId reason
          none with
      | .error _ => run.record (.released nodeId reservation true)
      | .ok (_, db) => { run with db }.record (.released nodeId reservation false)

/-- Phase 3 for a node whose LLM call ended with an exception. -/
def settleError (workflowId : UUID) (visit : Visit) (run : Run) (context : NodeContext)
    (message : String) : Except Stopped Run := do
  let nodeId := context.node.nodeId
  let run := run.updateTask context.taskId (fun task =>
    { task with status := .failed, errorMessage := some message })
  run.check (visit.raises .errorFlush)
  let run := releaseNode workflowId visit false run nodeId s!"Task {nodeId} failed: LLM error"
  return { run with dag := run.dag.markFailed nodeId (some message) }

/-- The `try` block of Phase 3. -/
def processResponse (env : Environment) (workflowId : UUID) (visit : Visit) (run : Run)
    (context : NodeContext) (response : LLMResponse) : Except SettleFailure Run := do
  let (charged, run) ← chargeNode workflowId visit run context response
  let run ← writeResult env workflowId visit run context response.content charged
  let run ← completeNode visit run context response charged
  let run := verifyConsensus visit run context
  let run := requestReview visit run context
  return reflectOnTask workflowId visit run context

/-- The handler of the `try` block. -/
def settleFailure (env : Environment) (workflowId : UUID) (visit : Visit) (context : NodeContext)
    (failure : SettleFailure) : Except Stopped Run := do
  let nodeId := context.node.nodeId
  let message := env.errorText failure.error
  let run :=
    if failure.charged then failure.run
    else releaseNode workflowId visit failure.aborted failure.run nodeId
      s!"Task {nodeId} post-processing failed: {message}"
  let run := run.updateTask context.taskId (fun task =>
    { task with status := .failed, errorMessage := some message })
  run.check (failure.aborted || visit.raises .failureFlush)
  return { run with dag := run.dag.markFailed nodeId (some message) }

/-- Phase 3 on one node. -/
def settleNode (env : Environment) (workflowId : UUID) (visit : Visit) (run : Run)
    (context : NodeContext) : Except Stopped Run :=
  match visit.response with
  | .error message => settleError workflowId visit run context message
  | .ok response =>
    let run := run.record (.processed context response run.db visit)
    match processResponse env workflowId visit run context response with
    | .ok run => .ok run
    | .error failure => settleFailure env workflowId visit context failure

/-! ## What the phase does -/

/-- The reflection on a completed node leaves the DAG alone, resets the node or
adds its alternative. -/
def Reflected (before : DAG) (nodeId : String) (after : DAG) : Prop :=
  after = before ∨ after = before.markPending nodeId ∨
    ∃ text added, DynamicReplanner.replan before nodeId text = some (added, after)

theorem reflectOnTask_reflected (workflowId : UUID) (visit : Visit) (run : Run)
    (context : NodeContext) :
    ∃ workflows tasks dag replanCount,
      reflectOnTask workflowId visit run context =
        { run with db := { run.db with workflows, tasks }, dag, replanCount } ∧
      Reflected run.dag context.node.nodeId dag := by
  unfold reflectOnTask
  cases visit.reflection with
  | none => exact ⟨_, _, _, _, rfl, Or.inl rfl⟩
  | some reflection =>
    dsimp only
    split
    · unfold retryTask
      split
      · exact ⟨_, _, _, _, rfl, Or.inl rfl⟩
      · split
        · exact ⟨_, _, _, _, rfl, Or.inr (Or.inl rfl)⟩
        · exact ⟨_, _, _, _, rfl, Or.inl rfl⟩
    · split
      · unfold replanTask
        split
        · exact ⟨_, _, _, _, rfl, Or.inl rfl⟩
        · dsimp only
          split
          · exact ⟨_, _, _, _, rfl, Or.inl rfl⟩
          · rename_i added dag hreplan
            exact ⟨_, _, _, _, rfl, Or.inr (Or.inr ⟨_, added, hreplan⟩)⟩
      · split
        · unfold abortWorkflow
          dsimp only
          split <;> exact ⟨_, _, _, _, rfl, Or.inl rfl⟩
        · exact ⟨_, _, _, _, rfl, Or.inl rfl⟩

/-- The ways in which a reservation is given back. -/
inductive Released (workflowId : UUID) (run : Run) (nodeId : String) (run' : Run) : Prop
  | unreserved (hreservation : run.reservation? nodeId = none) (hrun : run' = run)
  | failed (reservation : WalletEvent) (hreservation : run.reservation? nodeId = some reservation)
      (hrun : run' = run.record (.released nodeId reservation true))
  | released (reservation event : WalletEvent) (reason : String) (db : Db)
      (hreservation : run.reservation? nodeId = some reservation)
      (hrelease : WalletService.releaseReservation run.db workflowId reservation.walletEventId
        reason none = .ok (event, db))
      (hrun : run' = { run with db }.record (.released nodeId reservation false))

theorem releaseNode_released (workflowId : UUID) (visit : Visit) (aborted : Bool) (run : Run)
    (nodeId reason : String) :
    Released workflowId run nodeId (releaseNode workflowId visit aborted run nodeId reason) := by
  unfold releaseNode
  split
  · rename_i hreservation
    exact .unreserved hreservation rfl
  · rename_i reservation hreservation
    split
    · exact .failed reservation hreservation rfl
    · split
      · exact .failed reservation hreservation rfl
      · rename_i event db hrelease
        exact .released reservation event reason db hreservation hrelease rfl

theorem Released.quietly {workflowId : UUID} {run run' : Run} {nodeId : String}
    (h : Released workflowId run nodeId run') : Quietly run run' := by
  cases h with
  | unreserved _ hrun => exact .refl (by rw [hrun])
  | failed reservation _ hrun => exact .record (by rw [hrun]; rfl) rfl
  | released reservation event reason db _ _ hrun => exact .record (by rw [hrun]; rfl) rfl

/-- Only the database and the log change. -/
theorem Released.eq {workflowId : UUID} {run run' : Run} {nodeId : String}
    (h : Released workflowId run nodeId run') : run' = { run with db := run'.db, log := run'.log } := by
  cases h with
  | unreserved _ hrun => rw [hrun]
  | failed _ _ hrun => rw [hrun]; rfl
  | released _ _ _ _ _ _ hrun => rw [hrun]; rfl

/-- The ways in which the charge of a response ends, with the flag `charged`. -/
inductive Charged (workflowId : UUID) (visit : Visit) (run : Run) (context : NodeContext)
    (response : LLMResponse) (charged : Bool) (run' : Run) : Prop
  | unreserved (hreservation : run.reservation? context.node.nodeId = none)
      (hcharged : charged = false) (hrun : run' = run)
  | failed (reservation : WalletEvent) (reason : String)
      (hreservation : run.reservation? context.node.nodeId = some reservation)
      (hfailed : visit.raises .charge = true ∨ ∃ error,
        WalletService.charge run.db workflowId (some context.agent.agentId)
          (tokensToCredits response.cost) reservation.walletEventId reason
          (some (chargeKey workflowId context.node.nodeId)) = .error error)
      (hcharged : charged = false) (hrun : run' = run)
  | booked (reservation event : WalletEvent) (reason : String) (db : Db)
      (hreservation : run.reservation? context.node.nodeId = some reservation)
      (hcharge : WalletService.charge run.db workflowId (some context.agent.agentId)
        (tokensToCredits response.cost) reservation.walletEventId reason
        (some (chargeKey workflowId context.node.nodeId)) = .ok (event, db))
      (hrun : run' = { run with db })

/-- Only the database changes. -/
theorem Charged.eq {workflowId : UUID} {visit : Visit} {run run' : Run} {context : NodeContext}
    {response : LLMResponse} {charged : Bool}
    (h : Charged workflowId visit run context response charged run') :
    run' = { run with db := run'.db } := by
  cases h with
  | unreserved _ _ hrun => rw [hrun]
  | failed _ _ _ _ _ hrun => rw [hrun]
  | booked _ _ _ _ _ _ hrun => rw [hrun]

theorem chargeNode_holds (workflowId : UUID) (visit : Visit) (run : Run) (context : NodeContext)
    (response : LLMResponse) :
    Outcome.Holds
      (fun result => Charged workflowId visit run context response result.1 result.2 ∧
        (result.1 = false → run.reservation? context.node.nodeId = none))
      (fun failure => failure.charged = false ∧
        Charged workflowId visit run context response false failure.run)
      (chargeNode workflowId visit run context response) := by
  unfold chargeNode
  split
  · rename_i hreservation
    exact ⟨.unreserved hreservation rfl rfl, fun _ => hreservation⟩
  · rename_i reservation hreservation
    split
    · rename_i hraises
      exact ⟨rfl, .failed reservation "" hreservation (Or.inl hraises) rfl rfl⟩
    · split
      · rename_i error hcharge
        exact ⟨rfl, .failed reservation _ hreservation (Or.inr ⟨error, hcharge⟩) rfl rfl⟩
      · rename_i event db hcharge
        dsimp only
        split
        · exact ⟨rfl, .booked reservation event _ db hreservation hcharge rfl⟩
        · exact ⟨.booked reservation event _ db hreservation hcharge rfl, by simp⟩

/-- The content of a response is written to shared memory. -/
def Wrote (env : Environment) (workflowId : UUID) (visit : Visit) (context : NodeContext)
    (content : String) (db db' : Db) : Prop :=
  ∃ h record, MemoryService.writeMemory env.host db visit.now visit.transactionStart
    (resultRequest workflowId context content h) = .ok (record, db')

theorem writeResult_holds (env : Environment) (workflowId : UUID) (visit : Visit) (run : Run)
    (context : NodeContext) (content : String) (charged : Bool) :
    Outcome.Holds
      (fun run' => ∃ db, Wrote env workflowId visit context content run.db db ∧
        run' = { run with db })
      (fun failure => failure.charged = charged ∧ failure.run = run)
      (writeResult env workflowId visit run context content charged) := by
  unfold writeResult
  split
  · rename_i hlength
    split
    · exact ⟨rfl, rfl⟩
    · split
      · exact ⟨rfl, rfl⟩
      · rename_i record db hwrite
        exact ⟨db, ⟨hlength, record, hwrite⟩, rfl⟩
  · exact ⟨rfl, rfl⟩

theorem completeNode_holds (visit : Visit) (run : Run) (context : NodeContext)
    (response : LLMResponse) (charged : Bool) :
    Outcome.Holds
      (fun run' => ∃ tasks, run' = { run with
        db := { run.db with tasks }
        dag := run.dag.markCompleted context.node.nodeId (some response.content) })
      (fun failure => failure.charged = charged ∧
        ∃ tasks, failure.run = { run with db := { run.db with tasks } })
      (completeNode visit run context response charged) := by
  unfold completeNode
  split
  · exact ⟨rfl, run.db.tasks, rfl⟩
  · dsimp only
    split
    · exact ⟨rfl, _, rfl⟩
    · exact ⟨_, rfl⟩

theorem verifyConsensus_eq (visit : Visit) (run : Run) (context : NodeContext) :
    ∃ tasks, verifyConsensus visit run context = { run with db := { run.db with tasks } } := by
  unfold verifyConsensus
  split
  · split
    · exact ⟨run.db.tasks, rfl⟩
    · split
      · exact ⟨run.db.tasks, rfl⟩
      · exact ⟨_, rfl⟩
  · exact ⟨run.db.tasks, rfl⟩

theorem requestReview_eq (visit : Visit) (run : Run) (context : NodeContext) :
    ∃ tasks, requestReview visit run context = { run with db := { run.db with tasks } } := by
  unfold requestReview
  split
  · exact ⟨run.db.tasks, rfl⟩
  · exact ⟨_, rfl⟩

/-- The `try` block has run to its end. -/
def Completed (env : Environment) (workflowId : UUID) (visit : Visit) (run : Run)
    (context : NodeContext) (response : LLMResponse) (run' : Run) : Prop :=
  ∃ charged run₁ db workflows tasks dag replanCount,
    Charged workflowId visit run context response charged run₁ ∧
      (charged = false → run.reservation? context.node.nodeId = none) ∧
      Wrote env workflowId visit context response.content run₁.db db ∧
      Reflected (run.dag.markCompleted context.node.nodeId (some response.content))
        context.node.nodeId dag ∧
      run' = { run with db := { db with workflows, tasks }, dag, replanCount }

/-- The `try` block has raised, and the node is not completed. -/
def Rejected (env : Environment) (workflowId : UUID) (visit : Visit) (run : Run)
    (context : NodeContext) (response : LLMResponse) (charged : Bool) (run' : Run) : Prop :=
  ∃ run₁ db tasks, Charged workflowId visit run context response charged run₁ ∧
    (db = run₁.db ∨ Wrote env workflowId visit context response.content run₁.db db) ∧
    run' = { run with db := { db with tasks } }

/-- Also with the release that may follow, only the database and the log change. -/
theorem Rejected.eq {env : Environment} {workflowId : UUID} {visit : Visit} {run run₁ run₂ : Run}
    {context : NodeContext} {response : LLMResponse} {charged : Bool} {nodeId : String}
    (h : Rejected env workflowId visit run context response charged run₁)
    (hreleased : (charged = true ∧ run₂ = run₁) ∨
      (charged = false ∧ Released workflowId run₁ nodeId run₂)) :
    run₂ = { run with db := run₂.db, log := run₂.log } := by
  obtain ⟨_, _, _, -, -, hrun⟩ := h
  rcases hreleased with ⟨-, rfl⟩ | ⟨-, hreleased⟩
  · rw [hrun]
  · rw [hreleased.eq, hrun]

theorem processResponse_holds (env : Environment) (workflowId : UUID) (visit : Visit) (run : Run)
    (context : NodeContext) (response : LLMResponse) :
    Outcome.Holds (Completed env workflowId visit run context response)
      (fun failure =>
        Rejected env workflowId visit run context response failure.charged failure.run)
      (processResponse env workflowId visit run context response) := by
  unfold processResponse
  refine ((chargeNode_holds workflowId visit run context response).mono (fun _ h => h) ?_).bind ?_
  · rintro failure ⟨hcharged, hrun⟩
    rw [hcharged]
    exact ⟨failure.run, failure.run.db, failure.run.db.tasks, hrun, Or.inl rfl, hrun.eq⟩
  rintro ⟨charged, run₁⟩ ⟨hcharged, hreserved⟩
  have hrun₁ : run₁ = { run with db := run₁.db } := hcharged.eq
  refine ((writeResult_holds env workflowId visit run₁ context response.content charged).mono
    (fun _ h => h) ?_).bind ?_
  · rintro failure ⟨hflag, hrun⟩
    rw [hflag, hrun]
    exact ⟨run₁, run₁.db, run₁.db.tasks, hcharged, Or.inl rfl, hrun₁⟩
  rintro run₂ ⟨db, hwrote, rfl⟩
  refine ((completeNode_holds visit { run₁ with db } context response charged).mono
    (fun _ h => h) ?_).bind ?_
  · rintro failure ⟨hflag, tasks, hrun⟩
    rw [hflag, hrun, hrun₁]
    exact ⟨run₁, db, tasks, hcharged, Or.inr hwrote, rfl⟩
  rintro run₃ ⟨tasks, hrun₃⟩
  obtain ⟨tasks₄, hrun₄⟩ := verifyConsensus_eq visit run₃ context
  obtain ⟨tasks₅, hrun₅⟩ := requestReview_eq visit (verifyConsensus visit run₃ context) context
  obtain ⟨workflows, tasks₆, dag, replanCount, hrun₆, hdag⟩ := reflectOnTask_reflected workflowId
    visit (requestReview visit (verifyConsensus visit run₃ context) context) context
  refine ⟨charged, run₁, db, workflows, tasks₆, dag, replanCount, hcharged, hreserved, hwrote,
    ?_, ?_⟩
  · rw [hrun₅, hrun₄, hrun₃, hrun₁] at hdag
    exact hdag
  · rw [hrun₆, hrun₅, hrun₄, hrun₃, hrun₁]

/-- The ways in which Phase 3 leaves a node. -/
inductive Settled (env : Environment) (workflowId : UUID) (visit : Visit) (run : Run)
    (context : NodeContext) (run' : Run) : Prop
  | llmFailed (message : String) (tasks : List Task) (run₁ : Run)
      (hresponse : visit.response = .error message)
      (hreleased : Released workflowId { run with db := { run.db with tasks } }
        context.node.nodeId run₁)
      (hrun : run' = { run₁ with
        dag := run₁.dag.markFailed context.node.nodeId (some message) })
  | completed (response : LLMResponse) (hresponse : visit.response = .ok response)
      (hcompleted : Completed env workflowId visit
        (run.record (.processed context response run.db visit)) context response run')
  | rejected (response : LLMResponse) (charged : Bool) (run₁ run₂ : Run) (tasks : List Task)
      (error : String) (hresponse : visit.response = .ok response)
      (hrejected : Rejected env workflowId visit
        (run.record (.processed context response run.db visit)) context response charged run₁)
      (hreleased : (charged = true ∧ run₂ = run₁) ∨
        (charged = false ∧ Released workflowId run₁ context.node.nodeId run₂))
      (hrun : run' = { run₂ with
        db := { run₂.db with tasks }
        dag := run₂.dag.markFailed context.node.nodeId (some error) })

theorem settleNode_holds (env : Environment) (workflowId : UUID) (visit : Visit) (run : Run)
    (context : NodeContext) :
    Outcome.Holds (Settled env workflowId visit run context) (RaisedFrom run)
      (settleNode env workflowId visit run context) := by
  unfold settleNode
  cases hresponse : visit.response with
  | error message =>
    unfold settleError
    dsimp only
    have hquiet : ∀ f, Quietly run (run.updateTask context.taskId f) := fun f => .refl rfl
    refine (Run.check_holds (hquiet _)).bind (fun _ _ => ?_)
    exact .llmFailed message _ _ hresponse (releaseNode_released ..) rfl
  | ok response =>
    dsimp only
    have hprocess := processResponse_holds env workflowId visit
      (run.record (.processed context response run.db visit)) context response
    cases hresult : processResponse env workflowId visit
        (run.record (.processed context response run.db visit)) context response with
    | ok run' => exact .completed response hresponse (hprocess.of_ok hresult)
    | error failure =>
      have hrejected := hprocess.of_error hresult
      have hlog : Quietly run failure.run := by
        obtain ⟨run₁, db, tasks, -, -, hrun⟩ := hrejected
        exact .record (by rw [hrun]; rfl) rfl
      unfold settleFailure
      dsimp only
      cases hcharged : failure.charged with
      | true =>
        have hquiet : ∀ f, Quietly run (failure.run.updateTask context.taskId f) :=
          fun f => hlog.trans (.refl rfl)
        refine (Run.check_holds (hquiet _)).bind (fun _ _ => ?_)
        rw [hcharged] at hrejected
        exact .rejected response true failure.run failure.run _ _ hresponse hrejected
          (Or.inl ⟨rfl, rfl⟩) rfl
      | false =>
        have hreleased := releaseNode_released workflowId visit failure.aborted failure.run
          context.node.nodeId
          s!"Task {context.node.nodeId} post-processing failed: {env.errorText failure.error}"
        have hquiet : ∀ f, Quietly run ((releaseNode workflowId visit failure.aborted failure.run
            context.node.nodeId s!"Task {context.node.nodeId} post-processing failed: {
              env.errorText failure.error}").updateTask context.taskId f) :=
          fun f => hlog.trans (hreleased.quietly.trans (.refl rfl))
        refine (Run.check_holds (hquiet _)).bind (fun _ _ => ?_)
        rw [hcharged] at hrejected
        exact .rejected response false failure.run _ _ _ hresponse hrejected
          (Or.inr ⟨rfl, hreleased⟩) rfl

end WorkflowScheduler

end MassClaw
