import MassClaw.Crdt.Import
import MassClaw.Safety.Convergence
import MassClaw.Workflows.Restore

/-!
# The resume endpoint, `POST /workflows/{id}/resume`

The endpoint asks for a checkpoint by its hash and, if the request names one,
for an approval.  The state of an approval is merged from the key in Redis and
the twins in the memory table.  The checkpoint has to be one of the workflow in
the path; the approval is compared with the checkpoint through its
`checkpoint_hash`, which may be missing.
-/

namespace MassClaw

/-- `HTTPException`. -/
structure HTTPException where
  statusCode : Nat
  detail : String

/-- `ResumeWorkflowRequest`, as it passes the checks of its fields. -/
structure ResumeWorkflowRequest where
  checkpointHash : String
  approvalId : Option String := none
  hashLength : 1 ≤ checkpointHash.length ∧ checkpointHash.length ≤ 200
  idLength : ∀ id, approvalId = some id → id.length ≤ 100

/-- What the reads of an approval meet: the order of a set, the defaults of
incomplete payloads, and which of the two reads raise (that of Redis something
else than a `ValueError`). -/
structure ApprovalReads where
  order : SetOrder
  defaults : MemoryRecord → Defaults
  redisRaises : Bool := false
  twinsRaise : Bool := false

/-- How a resume that is not accepted ends. -/
inductive ResumeFailure
  | http (exception : HTTPException)
  /-- An exception that the endpoint does not catch. -/
  | raised

/-- `_merged_approval_status`, of what the two stores hold. -/
def mergeApproval (redisState crdtState : Option ApprovalRequest) : Option ApprovalRequest :=
  match redisState, crdtState with
  | none, _ => crdtState
  | some redis, none => some redis
  | some redis, some crdt =>
    if redis.status = "pending" ∧ crdt.status ≠ "pending" then some crdt else some redis

/-- A key that is decided stands, whatever the twins say. -/
theorem mergeApproval_of_decided {redisState : ApprovalRequest}
    (h : redisState.status ≠ "pending") (crdtState : Option ApprovalRequest) :
    mergeApproval (some redisState) crdtState = some redisState := by
  cases crdtState with
  | none => rfl
  | some crdt => exact if_neg (fun hpending => h hpending.1)

section Endpoint

variable (host : Host) (input : ResumeInput) (reads : ApprovalReads)
  (redis : String → Option ApprovalRequest) (db : Db)

/-- `_hydrate_from_crdt`. -/
def hydrateFromCrdt (requestId : String) : Option ApprovalRequest :=
  if reads.twinsRaise then none
  else
    FederatedApprovalStore.findByRequestId reads.order
      (FederatedApprovalStore.twins host reads.defaults db.memoryRecords) requestId

/-- `_merged_approval_status`; `redis` holds the keys that decode. -/
def mergedApprovalStatus (requestId : String) : Except ResumeFailure (Option ApprovalRequest) :=
  if reads.redisRaises then .error .raised
  else .ok (mergeApproval (redis requestId) (hydrateFromCrdt host reads db requestId))

/-- The checks of the approval that a request names. -/
def checkApproval (body : ResumeWorkflowRequest) (requestId : String) :
    Except ResumeFailure Unit := do
  match ← mergedApprovalStatus host reads redis db requestId with
  | none => throw (.http ⟨404,
      s!"Approval request {input.quote requestId} not found in Redis or CRDT."⟩)
  | some approval =>
    if approval.status ≠ "approved" then
      throw (.http ⟨409,
        s!"approval {input.quote requestId} is '{approval.status}', not 'approved'"⟩)
    else if approval.checkpointHash.any (fun hash => hash ≠ "" && hash ≠ body.checkpointHash) then
      throw (.http ⟨409, "approval.checkpoint_hash does not match body.checkpoint_hash"⟩)
    else return ()

/-- The approval that a request names: an empty text names none. -/
def ResumeWorkflowRequest.approval? (body : ResumeWorkflowRequest) : Option String :=
  body.approvalId.filter (fun requestId => requestId ≠ "")

/-- Load the checkpoint and restore the workflow in the path. -/
def restoreCheckpoint (workflowId : UUID) (body : ResumeWorkflowRequest) :
    Except ResumeFailure (ResumeOutcome × Db) :=
  match WorkflowResumer.load host input db body.checkpointHash with
  | .error (.resume error) => throw (.http ⟨404, error.message⟩)
  | .error _ => throw .raised
  | .ok checkpoint =>
    if checkpoint.workflowId ≠ workflowId then
      throw (.http ⟨409,
        s!"checkpoint belongs to workflow {checkpoint.workflowId.str}, not {workflowId.str} " ++
          "(possible replay attack)"⟩)
    else
      match WorkflowResumer.restore input db checkpoint with
      | .error _ => throw .raised
      | .ok restored => return restored

/-- `resume_workflow`, up to the commit. -/
def resumeWorkflow (workflowId : UUID) (body : ResumeWorkflowRequest) :
    Except ResumeFailure (ResumeOutcome × Db) := do
  match body.approval? with
  | none => pure ()
  | some requestId => checkApproval host input reads redis db body requestId
  restoreCheckpoint host input db workflowId body

end Endpoint

/-! ## What an accepted request has passed -/

section Accepted

variable {host : Host} {input : ResumeInput} {reads : ApprovalReads}
  {redis : String → Option ApprovalRequest} {db : Db} {workflowId : UUID}
  {body : ResumeWorkflowRequest} {restored : ResumeOutcome × Db}

/-- The approval was requested for the workflow and the checkpoint. -/
def ApprovalRequest.IsBoundTo (approval : ApprovalRequest) (workflowId : UUID)
    (checkpointHash : String) : Prop :=
  approval.workflowId = workflowId.str ∧ approval.checkpointHash = some checkpointHash

/-- The approval carries a checkpoint hash, and the workflow. -/
def ApprovalRequest.CarriesBinding (approval : ApprovalRequest) (workflowId : UUID) : Prop :=
  approval.workflowId = workflowId.str ∧ approval.checkpointHash.any (fun hash => hash ≠ "") = true

/-- The merged approval is approved, and a checkpoint hash that it carries is
that of the request. -/
theorem checkApproval_eq_ok {requestId : String}
    (h : checkApproval host input reads redis db body requestId = .ok ()) :
    ∃ approval, mergedApprovalStatus host reads redis db requestId = .ok (some approval) ∧
      approval.status = "approved" ∧
      approval.checkpointHash.any (fun hash => hash ≠ "" && hash ≠ body.checkpointHash) =
        false := by
  unfold checkApproval at h
  obtain ⟨merged, hmerged, h⟩ := Outcome.bind_eq_ok h
  cases merged with
  | none => cases h
  | some approval =>
    refine ⟨approval, hmerged, ?_⟩
    dsimp only at h
    split at h
    · cases h
    · rename_i hstatus
      split at h
      · cases h
      · rename_i hhash
        exact ⟨not_not.1 hstatus, by simpa using hhash⟩

/-- An accepted request has had its approval checked and its checkpoint
restored. -/
theorem resumeWorkflow_eq_ok
    (h : resumeWorkflow host input reads redis db workflowId body = .ok restored) :
    (∀ requestId, body.approval? = some requestId →
      checkApproval host input reads redis db body requestId = .ok ()) ∧
    restoreCheckpoint host input db workflowId body = .ok restored := by
  unfold resumeWorkflow at h
  cases happroval : body.approval? with
  | none =>
    rw [happroval] at h
    exact ⟨nofun, h⟩
  | some requestId =>
    rw [happroval] at h
    obtain ⟨⟨⟩, hcheck, h⟩ := Outcome.bind_eq_ok h
    refine ⟨fun other hother => ?_, h⟩
    rw [← Option.some.inj hother]
    exact hcheck

/-- What an accepted request restores: the checkpoint with its hash, of the
workflow in the path. -/
theorem restoreCheckpoint_eq_ok
    (h : restoreCheckpoint host input db workflowId body = .ok restored) :
    ∃ checkpoint, WorkflowResumer.load host input db body.checkpointHash = .ok checkpoint ∧
      checkpoint.workflowId = workflowId ∧
      WorkflowResumer.restore input db checkpoint = .ok restored := by
  unfold restoreCheckpoint at h
  split at h
  · cases h
  · cases h
  · rename_i checkpoint hload
    split at h
    · cases h
    · rename_i hworkflow
      split at h
      · cases h
      · rename_i other hrestore
        cases h
        exact ⟨checkpoint, hload, not_not.1 hworkflow, hrestore⟩

/-- The approval that an accepted request names is bound to the workflow and
the checkpoint exactly if it carries a checkpoint hash and the workflow. -/
theorem isBoundTo_iff_carriesBinding (host : Host) (input : ResumeInput) (reads : ApprovalReads)
    (redis : String → Option ApprovalRequest) (db : Db) (workflowId : UUID)
    (body : ResumeWorkflowRequest) (restored : ResumeOutcome × Db) (requestId : String)
    (haccepted : resumeWorkflow host input reads redis db workflowId body = .ok restored)
    (hnames : body.approval? = some requestId) :
    ∃ approval, mergedApprovalStatus host reads redis db requestId = .ok (some approval) ∧
      (approval.IsBoundTo workflowId body.checkpointHash ↔
        approval.CarriesBinding workflowId) := by
  obtain ⟨hcheck, -⟩ := resumeWorkflow_eq_ok haccepted
  obtain ⟨approval, hmerged, -, hhash⟩ := checkApproval_eq_ok (hcheck requestId hnames)
  refine ⟨approval, hmerged, ⟨?_, ?_⟩⟩
  · intro hbound
    refine ⟨hbound.1, ?_⟩
    rw [hbound.2, Option.any_some, decide_eq_true_eq]
    intro hempty
    have hlength := body.hashLength.1
    rw [hempty] at hlength
    exact absurd hlength (by decide)
  · intro hcarries
    refine ⟨hcarries.1, ?_⟩
    have hnonempty := hcarries.2
    cases hcheckpoint : approval.checkpointHash with
    | none =>
      rw [hcheckpoint] at hnonempty
      cases hnonempty
    | some hash =>
      rw [hcheckpoint] at hhash hnonempty
      simp only [Option.any_some, Bool.and_eq_false_iff, decide_eq_false_iff_not,
        decide_eq_true_eq, not_not] at hhash hnonempty
      rw [hhash.resolve_left hnonempty]

end Accepted

/-! ## An approval of another workflow -/

namespace ResumeExample

open GossipService.ImportExample

/-- The workflow that is resumed. -/
def workflowId : UUID := UUID.ofNat 1

/-- The node that the paused run has still to execute. -/
def dag : DAG := DAG.ofNodes [{ nodeId := "t1", capability := "research", description := "d" }]

/-- The checkpoint of the pause. -/
def checkpoint : WorkflowCheckpoint :=
  WorkflowCheckpoint.fromDag 0 workflowId dag "awaiting_approval: research" (some "t1") [] none

/-- The record of the checkpoint. -/
def record : MemoryRecord where
  workflowId := some workflowId
  sourceAgentId := none
  memoryType := .metaType
  content := "awaiting_approval: research"
  metadata := CheckpointStore.metadataFor constant checkpoint
  confidence := .finite 1
  contentHash := some "zc"
  createdAt := 0

/-- A node that has the checkpoint and no row of the workflow. -/
def db : Db where
  workflows := []
  agents := []
  tasks := []
  memoryRecords := Table.empty.push record (by decide)
  walletEvents := Table.empty

def input : ResumeInput where
  now := 0
  newTaskId _ := UUID.ofNat 100
  stringHash _ := 0
  quote text := text

def reads : ApprovalReads where
  order := FederatedApprovalStore.startingWith "r"
  defaults _ := ⟨"", "", ""⟩

/-- An approved request of a workflow, with the hash of a checkpoint or none. -/
def approval (workflowId : UUID) (checkpointHash : Option String) : ApprovalRequest where
  requestId := "r"
  workflowId := workflowId.str
  action := "execute_research"
  policyRule := "high_risk_task"
  status := "approved"
  checkpointHash := checkpointHash

/-- The request to resume from the checkpoint with the approval. -/
def body : ResumeWorkflowRequest where
  checkpointHash := "zc"
  approvalId := some "r"
  hashLength := by decide
  idLength := by
    intro id hid
    rw [← Option.some.inj hid]
    decide

/-- The endpoint, with one approval in Redis. -/
def resume (approval : ApprovalRequest) : Except ResumeFailure (ResumeOutcome × Db) :=
  resumeWorkflow constant input reads (fun _ => some approval) db workflowId body

theorem exists_restored (approval : ApprovalRequest) (h : (resume approval).isOk = true) :
    ∃ restored, resume approval = .ok restored := by
  cases hresume : resume approval with
  | error failure =>
    rw [hresume] at h
    cases h
  | ok restored => exact ⟨restored, rfl⟩

end ResumeExample

open ResumeExample GossipService.ImportExample in
/-- The approval of the pause is bound to the workflow and the checkpoint. -/
theorem isBoundTo_of_pause :
    ∃ approval', mergedApprovalStatus constant reads
        (fun _ => some (approval workflowId (some "zc"))) db "r" = .ok (some approval') ∧
      (approval'.IsBoundTo workflowId "zc" ↔ approval'.CarriesBinding workflowId) := by
  obtain ⟨restored, hresume⟩ := exists_restored (approval workflowId (some "zc")) (by decide +kernel)
  exact isBoundTo_iff_carriesBinding constant input reads _ db workflowId body restored "r"
    hresume rfl

open ResumeExample GossipService.ImportExample in
/-- An approval of another workflow that carries no checkpoint hash is
accepted. -/
theorem isBoundTo_fails :
    ¬∀ (host : Host) (input : ResumeInput) (reads : ApprovalReads)
      (redis : String → Option ApprovalRequest) (db : Db) (workflowId : UUID)
      (body : ResumeWorkflowRequest) (restored : ResumeOutcome × Db) (requestId : String),
      resumeWorkflow host input reads redis db workflowId body = .ok restored →
      body.approval? = some requestId →
      ∃ approval, mergedApprovalStatus host reads redis db requestId = .ok (some approval) ∧
        approval.IsBoundTo workflowId body.checkpointHash := by
  intro h
  obtain ⟨restored, hresume⟩ := exists_restored (approval (UUID.ofNat 2) none) (by decide +kernel)
  obtain ⟨found, hmerged, hbound⟩ := h constant input reads
    (fun _ => some (approval (UUID.ofNat 2) none)) db workflowId body restored "r" hresume rfl
  have hread : mergedApprovalStatus constant reads (fun _ => some (approval (UUID.ofNat 2) none))
      db "r" = .ok (some (approval (UUID.ofNat 2) none)) :=
    congrArg Except.ok (mergeApproval_of_decided (by decide) _)
  rw [hread] at hmerged
  rw [← Option.some.inj (Except.ok.inj hmerged)] at hbound
  cases hbound.2

end MassClaw
