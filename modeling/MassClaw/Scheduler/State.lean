import MassClaw.Memory.Service
import MassClaw.Safety.Approval
import MassClaw.Scheduler.Checkpoint
import MassClaw.Wallet.Service

/-!
# The state of a scheduler run

A run of `execute_workflow` owns the database session, the DAG and the local
variables of the current batch.  Everything else it meets is answered by an
`Environment`: one `Visit` for each node and iteration of the loop says what
the LLM, the policy rules, the approval stores, the reflection engine and the
clock answer there, and which calls raise.

The log records what a run does, in order.  The code never reads it; the
properties of a run are stated about it.
-/

namespace MassClaw

/-! ## What the services answer -/

/-- `LLMResponse`. -/
structure LLMResponse where
  content : String
  model : String
  inputTokens : Nat := 0
  outputTokens : Nat := 0
  latencyMs : ℚ := 0
  /-- In US dollars. -/
  cost : ℚ := 0

/-- `total_tokens`. -/
def LLMResponse.totalTokens (response : LLMResponse) : Nat :=
  response.inputTokens + response.outputTokens

/-- `ReflectionResult`. -/
structure ReflectionResult where
  action : String := "accept"
  confidence : ℚ := 1 / 2
  issues : List String := []
  suggestions : List String := []

/-- `ConsensusResult`, with the agreement as the warning prints it. -/
structure ConsensusResult where
  agreed : Bool
  weightedAgreement : ℚ
  percent : String

/-- The aggregated `Decision` of the policy rules. -/
inductive PolicyVerdict
  | allow
  | deny (ruleId : Option String) (reason : String)
  | escalateHuman
  | abstain

/-- The calls of a visit that can raise. -/
inductive Point
  /-- `reserve_budget` before it has written, and its cache invalidation after. -/
  | reserve | reserveCache
  | upsertTask | context | policyRecord | policyFlush | denialFlush
  | requestApproval | checkStatus | resumeFlush
  /-- The handler of `_check_semantic_cache`. -/
  | semanticCache
  | errorFlush
  /-- `release_reservation` before it has written. -/
  | release
  /-- `charge` before it has written, and its cache invalidation after. -/
  | charge | chargeCache
  | writeMemory | trust | completeFlush | failureFlush
  deriving DecidableEq

/-- What the environment answers while one node is visited. -/
structure Visit where
  raises : Point → Bool := fun _ => false
  now : Time := 0
  /-- When the open database transaction started. -/
  transactionStart : Time := 0
  /-- The key a new task row would get. -/
  newTaskId : UUID
  /-- `none` when the evaluation raises. -/
  policy : Option PolicyVerdict := some .abstain
  /-- The approval twins the gate scans, newest first; `none` when it raises. -/
  twins : Option (List ApprovalTwin) := some []
  /-- The content hash of the saved checkpoint; `none` when saving fails. -/
  savedHash : Option String := none
  requestId : String := ""
  /-- The status read right after the request; `none` when it has vanished. -/
  statusRead : Option String := some "pending"
  /-- The satellite session that writes `AWAITING_APPROVAL` commits. -/
  statusCommits : Bool := true
  /-- What Phase 2 ends with: a response, or the text of an exception. -/
  response : Except String LLMResponse
  /-- `none` when the verification raises. -/
  consensus : Option ConsensusResult := none
  reviewRaises : Bool := false
  /-- `none` when the engine raises. -/
  reflection : Option ReflectionResult := some {}
  /-- The content hash of the checkpoint of an abort; `none` when saving fails. -/
  abortHash : Option String := none

/-- What the `try` block of Phase 3 can raise. -/
inductive SettleError
  | wallet (error : WalletError)
  /-- The `ValidationError` of the request for a content of this length. -/
  | contentLength (length : Nat)
  | memory (error : MemoryError)
  | raised (point : Point)

/-- Everything a run meets outside its own state. -/
structure Environment where
  host : Host
  order : SetOrder
  /-- `settings.tool_max_iterations`. -/
  toolMaxIterations : Int := 8
  /-- Some policy rule is enabled in the given iteration. -/
  policyRules : Nat → Bool := fun _ => false
  /-- By iteration and node id. -/
  visit : Nat → String → Visit
  startTime : Time := 0
  finishTime : Time := 0
  startFlushRaises : Bool := false
  gateCommitRaises : Nat → Bool := fun _ => false
  persistRaises : Nat → Bool := fun _ => false
  finishFlushRaises : Bool := false
  /-- `str(exc)`. -/
  errorText : SettleError → String := fun _ => ""
  /-- What the synthesizer returns, or the text of its exception. -/
  synthesis : Except String (List (String × Json)) := .ok []

/-! ## The run -/

/-- An entry of `node_contexts`, with the key of the task row. -/
structure NodeContext where
  node : DAGNode
  taskId : UUID
  agent : Agent

/-- What a run records about itself. -/
inductive Event
  /-- A batch starts with these ready nodes. -/
  | batch (ready : List String)
  /-- `reserve_budget` returned this event for the node. -/
  | reserved (nodeId : String) (reservation : WalletEvent)
  /-- The verdict of the policy rules on the node. -/
  | policy (nodeId : String) (verdict : PolicyVerdict)
  /-- The gate found a decision for the node among these twins. -/
  | decisionFound (nodeId : String) (twins : List ApprovalTwin) (decision : ApprovalRequest)
  /-- The status read right after the gate requested an approval. -/
  | statusRead (nodeId : String) (status : Option String)
  /-- Phase 2 calls the LLM for the nodes `called`; `gated` are those the gate
  went through. -/
  | llmCalls (gated called : List String)
  /-- Phase 3 starts on a response, in this database. -/
  | processed (context : NodeContext) (response : LLMResponse) (before : Db) (visit : Visit)
  /-- A reservation is given back; the flag tells whether the call raised first. -/
  | released (nodeId : String) (reservation : WalletEvent) (raised : Bool)
  /-- The gate pauses the run while these nodes have a context, after it has
  reset the nodes `reopened`. -/
  | paused (nodeId : String) (contexts reopened : List String)

/-- The session, the DAG, the variables of the current batch and the log. -/
structure Run where
  db : Db
  dag : DAG
  replanCount : Nat := 0
  contexts : List NodeContext := []
  reservations : List (String × WalletEvent) := []
  /-- The nodes of the batch that the gate has reset to pending. -/
  reopened : List String := []
  log : List Event := []

/-- `SchedulerPausedForApproval`, with the request and the saved checkpoint. -/
structure SchedulerPausedForApproval where
  workflowId : UUID
  nodeId : String
  request : ApprovalRequest
  checkpoint : Option WorkflowCheckpoint

/-- How a run stops before its end. -/
inductive Halt
  | paused (pause : SchedulerPausedForApproval)
  /-- An exception that the scheduler does not catch. -/
  | raised

/-- An early stop with the state it was reached in. -/
abbrev Stopped := Halt × Run

namespace Run

/-- `node_contexts.get(node_id)`. -/
def context? (run : Run) (nodeId : String) : Option NodeContext :=
  run.contexts.find? (fun context => context.node.nodeId = nodeId)

/-- `del node_contexts[node_id]`. -/
def dropContext (run : Run) (nodeId : String) : Run :=
  { run with contexts := run.contexts.filter (fun context => context.node.nodeId ≠ nodeId) }

/-- `reservations.get(node_id)`. -/
def reservation? (run : Run) (nodeId : String) : Option WalletEvent :=
  (run.reservations.find? (fun entry => entry.1 = nodeId)).map Prod.snd

/-- Assign to attributes of a task row. -/
def updateTask (run : Run) (taskId : UUID) (f : Task → Task) : Run :=
  { run with db := run.db.updateTask taskId f }

/-- Record an event. -/
def record (run : Run) (event : Event) : Run := { run with log := run.log ++ [event] }

/-- A call that raises out of the scheduler. -/
def check (run : Run) (raises : Bool) : Except Stopped Unit :=
  if raises then .error (.raised, run) else .ok ()

end Run

/-! ## Stops by an exception -/

/-- The event is a call of the LLM. -/
def Event.isCall : Event → Bool
  | llmCalls _ _ => true
  | _ => false

/-- The run goes on from `run` without a call of the LLM. -/
def Quietly (run run' : Run) : Prop :=
  ∃ events, run'.log = run.log ++ events ∧ ∀ event ∈ events, event.isCall = false

theorem Quietly.refl {run run' : Run} (h : run'.log = run.log) : Quietly run run' :=
  ⟨[], by rw [h, List.append_nil], by simp⟩

theorem Quietly.record {run run' : Run} {event : Event} (h : run'.log = run.log ++ [event])
    (hevent : event.isCall = false) : Quietly run run' :=
  ⟨[event], h, by simpa using hevent⟩

theorem Quietly.trans {run₁ run₂ run₃ : Run} (h : Quietly run₁ run₂) (h' : Quietly run₂ run₃) :
    Quietly run₁ run₃ := by
  obtain ⟨events, hlog, hquiet⟩ := h
  obtain ⟨events', hlog', hquiet'⟩ := h'
  refine ⟨events ++ events', by rw [hlog', hlog, List.append_assoc], ?_⟩
  intro event hevent
  rcases List.mem_append.1 hevent with hold | hnew
  · exact hquiet event hold
  · exact hquiet' event hnew

theorem Quietly.log {run run' : Run} (h : Quietly run run') : run.log <+: run'.log := by
  obtain ⟨events, hlog, -⟩ := h
  rw [hlog]
  exact List.prefix_append _ _

/-- An exception stops the run that goes on from `run`. -/
def RaisedFrom (run : Run) (stopped : Stopped) : Prop :=
  stopped.1 = .raised ∧ Quietly run stopped.2

theorem RaisedFrom.trans {run run' : Run} {stopped : Stopped} (h : Quietly run run')
    (h' : RaisedFrom run' stopped) : RaisedFrom run stopped := ⟨h'.1, h.trans h'.2⟩

theorem Run.check_holds {run run' : Run} {raises : Bool} (h : Quietly run run') :
    Outcome.Holds (fun _ => raises = false) (RaisedFrom run) (run'.check raises) := by
  cases raises with
  | true => exact ⟨rfl, h⟩
  | false => rfl

end MassClaw
