import MassClaw.Core.Json
import MassClaw.Core.Money
import MassClaw.Core.Basic
import MassClaw.Lib.Assoc
import MassClaw.Lib.Table

/-!
# The tables, `app/models/`

One structure for each ORM class, with the columns that the modelled services
read or write, and the database as the record of its tables.  Wallet events
and memory records have generated keys and a unique column each, so they live
in a `Table`; the keys of workflows, agents and tasks are UUIDs.
-/

namespace MassClaw

/-- A row of `workflows`. -/
structure Workflow where
  workflowId : UUID
  prompt : String
  status : WorkflowStatus
  budgetLimit : Numeric
  budgetUsed : Numeric
  dagSnapshot : Option Json
  result : Option (List (String × Json))
  startedAt : Option Time
  completedAt : Option Time

/-- A row of `agents`. -/
structure Agent where
  agentId : UUID
  name : String
  trustScore : ℚ
  capabilities : List String
  /-- `cost_profile["avg_cost_per_call"]`, in dollars. -/
  avgCostPerCall : ℚ
  supportedTools : Json

/-- A row of `tasks`. -/
structure Task where
  taskId : UUID
  workflowId : UUID
  assignedAgentId : Option UUID
  stepNumber : Nat
  capability : String
  description : String
  status : TaskStatus
  output : Option (List (String × Json))
  confidence : Option ℚ
  retryCount : Nat
  costUsed : Numeric
  latencyMs : Option ℚ
  errorMessage : Option String
  completedAt : Option Time

/-- A row of `wallet_events`. -/
structure WalletEvent where
  walletEventId : RowId := 0
  workflowId : UUID
  agentId : Option UUID
  actionType : WalletActionType
  creditDelta : Numeric
  balanceAfter : Numeric
  reason : String
  /-- `metadata_["reservation_event_id"]`. -/
  reservationEventId : Option RowId := none
  idempotencyKey : Option String := none
  deriving DecidableEq

/-- `wallet_event_id` is generated, `idempotency_key` is unique. -/
def walletSchema : TableSchema WalletEvent String where
  rowId := WalletEvent.walletEventId
  withRowId event n := { event with walletEventId := n }
  unique := WalletEvent.idempotencyKey
  rowId_withRowId _ _ := rfl
  unique_withRowId _ _ := rfl

/-- The table `wallet_events`. -/
abbrev Ledger := Table walletSchema

/-- A row of `memory_records`. -/
structure MemoryRecord where
  memoryId : RowId := 0
  workflowId : Option UUID
  sourceAgentId : Option UUID
  memoryType : MemoryType
  content : String
  metadata : List (String × Json)
  confidence : PyFloat
  version : Nat := 1
  parentVersionId : Option RowId := none
  authorDid : Option String := none
  parentHashes : List String := []
  signature : Option String := none
  contentHash : Option String := none
  recordState : RecordState := .active
  expiresAt : Option Time := none
  createdAt : Time

/-- `MemoryRecord.is_signed`. -/
def MemoryRecord.isSigned (record : MemoryRecord) : Bool :=
  record.contentHash.isSome && record.signature.isSome

/-- `memory_id` is generated, `hash` is unique. -/
def memorySchema : TableSchema MemoryRecord String where
  rowId := MemoryRecord.memoryId
  withRowId record n := { record with memoryId := n }
  unique := MemoryRecord.contentHash
  rowId_withRowId _ _ := rfl
  unique_withRowId _ _ := rfl

/-- The table `memory_records`. -/
abbrev MemoryTable := Table memorySchema

/-- The database of one node. -/
structure Db where
  workflows : List Workflow
  agents : List Agent
  tasks : List Task
  memoryRecords : MemoryTable
  walletEvents : Ledger

namespace Db

/-- `select(Workflow).where(Workflow.workflow_id == workflow_id)`. -/
def workflow? (db : Db) (workflowId : UUID) : Option Workflow :=
  db.workflows.find? (fun workflow => workflow.workflowId = workflowId)

/-- `update(Workflow).where(Workflow.workflow_id == workflow_id)`. -/
def updateWorkflow (db : Db) (workflowId : UUID) (f : Workflow → Workflow) : Db :=
  { db with workflows := db.workflows.map (fun workflow =>
      if workflow.workflowId = workflowId then f workflow else workflow) }

/-- `session.get(Task, task_id)`. -/
def task? (db : Db) (taskId : UUID) : Option Task :=
  db.tasks.find? (fun task => task.taskId = taskId)

/-- Assign to attributes of a task row. -/
def updateTask (db : Db) (taskId : UUID) (f : Task → Task) : Db :=
  { db with tasks := db.tasks.map (fun task => if task.taskId = taskId then f task else task) }

/-- The foreign key to `workflows`. -/
def hasWorkflow (db : Db) (workflowId : UUID) : Bool := (db.workflow? workflowId).isSome

/-- The nullable foreign key to `agents`. -/
def hasAgent (db : Db) : Option UUID → Bool
  | none => true
  | some agentId => db.agents.any (fun agent => agent.agentId = agentId)

@[simp] theorem walletEvents_updateWorkflow (db : Db) (workflowId : UUID)
    (f : Workflow → Workflow) :
    (db.updateWorkflow workflowId f).walletEvents = db.walletEvents := rfl

@[simp] theorem memoryRecords_updateWorkflow (db : Db) (workflowId : UUID)
    (f : Workflow → Workflow) :
    (db.updateWorkflow workflowId f).memoryRecords = db.memoryRecords := rfl

@[simp] theorem tasks_updateWorkflow (db : Db) (workflowId : UUID) (f : Workflow → Workflow) :
    (db.updateWorkflow workflowId f).tasks = db.tasks := rfl

/-- An assignment to one row leaves the others. -/
theorem task?_updateTask (db : Db) (taskId : UUID) (f : Task → Task)
    (hf : ∀ task, (f task).taskId = task.taskId) (other : UUID) :
    (db.updateTask taskId f).task? other =
      if other = taskId then (db.task? other).map f else db.task? other :=
  Assoc.find?_assign hf db.tasks taskId other

@[simp] theorem walletEvents_updateTask (db : Db) (taskId : UUID) (f : Task → Task) :
    (db.updateTask taskId f).walletEvents = db.walletEvents := rfl

@[simp] theorem memoryRecords_updateTask (db : Db) (taskId : UUID) (f : Task → Task) :
    (db.updateTask taskId f).memoryRecords = db.memoryRecords := rfl

@[simp] theorem workflows_updateTask (db : Db) (taskId : UUID) (f : Task → Task) :
    (db.updateTask taskId f).workflows = db.workflows := rfl

/-- The row that is found after an update that keeps its id. -/
theorem workflow?_updateWorkflow (db : Db) (workflowId : UUID) (f : Workflow → Workflow)
    (hf : ∀ workflow, (f workflow).workflowId = workflow.workflowId) :
    (db.updateWorkflow workflowId f).workflow? workflowId = (db.workflow? workflowId).map f :=
  (Assoc.find?_assign hf db.workflows workflowId workflowId).trans (if_pos rfl)

/-- An update leaves the other rows. -/
theorem workflow?_updateWorkflow_ne (db : Db) {workflowId other : UUID} (f : Workflow → Workflow)
    (hf : ∀ workflow, (f workflow).workflowId = workflow.workflowId) (hne : other ≠ workflowId) :
    (db.updateWorkflow workflowId f).workflow? other = db.workflow? other :=
  (Assoc.find?_assign hf db.workflows workflowId other).trans (if_neg hne)

end Db

end MassClaw
