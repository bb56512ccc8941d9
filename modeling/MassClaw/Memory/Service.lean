import MassClaw.Crdt.Write

/-!
# Writing shared memory, `app/services/memory_service.py`

`write_memory` answers with an existing record when the same agent has written
a record of the same type to the same workflow within the conflict window, and
the new confidence does not exceed the old one.  Otherwise it inserts through
the CRDT store and lets a signed record supersede the parents it cites.

`created_at` is the start of the database transaction; the window is measured
from the clock.
-/

namespace MassClaw

/-- `MemoryWriteRequest`, with the checks of its fields. -/
structure MemoryWriteRequest where
  workflowId : UUID
  sourceAgentId : Option UUID := none
  memoryType : MemoryType := .result
  content : String
  confidence : ℚ
  metadata : List (String × Json) := []
  parentVersionId : Option RowId := none
  ttlHours : Option Nat := none
  authorDid : Option String := none
  parentHashes : List String := []
  signature : Option String := none
  contentHash : Option String := none
  contentLength : 1 ≤ content.length ∧ content.length ≤ 100000
  confidenceRange : 0 ≤ confidence ∧ confidence ≤ 1
  ttlPositive : ∀ hours, ttlHours = some hours → 1 ≤ hours

namespace MemoryWriteRequest

theorem confidenceRange_one : (0 : ℚ) ≤ 1 ∧ (1 : ℚ) ≤ 1 := by norm_num

theorem ttlPositive_none (hours : Nat) (h : none = some hours) : 1 ≤ hours := by cases h

/-- The content that the examples of the memory modules write. -/
theorem contentLength_claim : 1 ≤ "claim".length ∧ "claim".length ≤ 100000 := by decide

end MemoryWriteRequest

/-- The write of a request. -/
def MemoryWriteRequest.write (data : MemoryWriteRequest) (version : Nat)
    (expiresAt : Option Time) : MemoryWrite where
  workflowId := data.workflowId
  memoryType := data.memoryType
  content := data.content
  confidence := .finite data.confidence
  metadata := data.metadata.map (fun entry => (.str entry.1, entry.2))
  parentHashes := data.parentHashes.map .str
  authorDid := data.authorDid.map .str
  sourceAgentId := data.sourceAgentId
  version := version
  parentVersionId := data.parentVersionId
  expiresAt := expiresAt

/-- What `write_memory` raises. -/
inductive MemoryError
  | notFound
  | store (error : StoreError)

namespace MemoryService

/-- `CONFLICT_WINDOW_SECONDS`, in microseconds. -/
def conflictWindow : Time := 5 * 1000000

/-- `order_by(created_at.desc()).limit(1)`.  Of rows with one timestamp SQL may
take any; the model takes the last. -/
def newest? (records : List MemoryRecord) : Option MemoryRecord :=
  records.foldl (fun best record =>
    match best with
    | none => some record
    | some found => if found.createdAt ≤ record.createdAt then some record else best) none

/-- `_check_conflict`. -/
def checkConflict (db : Db) (now : Time) (workflowId sourceAgentId : UUID)
    (memoryType : MemoryType) : Option MemoryRecord :=
  newest? (db.memoryRecords.rows.filter (fun record =>
    record.workflowId = some workflowId ∧ record.sourceAgentId = some sourceAgentId ∧
      record.memoryType = memoryType ∧ now - conflictWindow ≤ record.createdAt))

/-- The record that `write_memory` returns instead of writing. -/
def keptExisting (db : Db) (now : Time) (data : MemoryWriteRequest) : Option MemoryRecord :=
  data.sourceAgentId.bind (fun sourceAgentId =>
    (checkConflict db now data.workflowId sourceAgentId data.memoryType).filter
      (fun conflict => (PyFloat.finite data.confidence).le conflict.confidence))

/-- `_author_trust`. -/
def authorTrust (db : Db) (agentId : Option UUID) : Option ℚ :=
  agentId.bind (fun id =>
    (db.agents.find? (fun agent => agent.agentId = id)).map Agent.trustScore)

/-- `_DEFAULT_SUPERSEDE_TRUST_DELTA`. -/
def supersedeTrustDelta : ℚ := 5 / 100

/-- `apply_supersede_rules`: the cited parents whose author the new author
outweighs. -/
def applySupersedeRules (db : Db) (newRecord : MemoryRecord) : Db :=
  if newRecord.parentHashes.isEmpty ∨ (newRecord.authorDid.getD "" = "") then db
  else
    let newTrust := (authorTrust db newRecord.sourceAgentId).getD (1 / 2)
    let outweighed (parent : MemoryRecord) : Bool :=
      parent.contentHash.any (· ∈ newRecord.parentHashes) ∧
        (authorTrust db parent.sourceAgentId).getD (1 / 2) + supersedeTrustDelta ≤ newTrust
    { db with
      memoryRecords := db.memoryRecords.mapRows
        (fun row =>
          if outweighed row ∧ row.recordState = .active then { row with recordState := .superseded }
          else row)
        (fun row => by split <;> rfl)
        (fun row => by split <;> rfl) }

/-- `write_memory`, after the embedding. -/
def writeMemory (host : Host) (db : Db) (now transactionStart : Time)
    (data : MemoryWriteRequest) : Except MemoryError (MemoryRecord × Db) := do
  let version ← match data.parentVersionId with
    | none => pure 1
    | some parentId =>
      match db.memoryRecords.rows.find? (fun record => record.memoryId = parentId) with
      | none => throw .notFound
      | some parent => pure (parent.version + 1)
  match keptExisting db now data with
  | some existing => return (existing, db)
  | none =>
    let expiresAt := data.ttlHours.map (fun hours => now + hours * 3600 * 1000000)
    match CRDTStore.put host db transactionStart (data.write version expiresAt) none
        data.contentHash (data.signature.map .str) with
    | .error error => throw (.store error)
    | .ok (record, db) =>
      if record.isSigned then return (record, applySupersedeRules db record)
      else return (record, db)

/-! ## What a write does -/

/-- The supersede rules assign one state to some rows. -/
theorem rows_applySupersedeRules (db : Db) (newRecord : MemoryRecord) :
    ∃ select : MemoryRecord → Prop, ∃ _ : DecidablePred select,
      (applySupersedeRules db newRecord).memoryRecords.rows = db.memoryRecords.rows.map (fun row =>
        if select row then { row with recordState := .superseded } else row) := by
  unfold applySupersedeRules
  split
  · exact ⟨fun _ => False, inferInstance, (List.map_id _).symm⟩
  · exact ⟨_, _, rfl⟩

/-- A write keeps an existing record, or is what the store does and then what
the supersede rules do. -/
theorem writeMemory_eq_ok {host : Host} {db db' : Db} {now transactionStart : Time}
    {data : MemoryWriteRequest} {record : MemoryRecord}
    (h : writeMemory host db now transactionStart data = .ok (record, db')) :
    (keptExisting db now data = some record ∧ db' = db) ∨
      (keptExisting db now data = none ∧ ∃ version written,
        (data.parentVersionId = none → version = 1) ∧
        CRDTStore.put host db transactionStart
          (data.write version (data.ttlHours.map (fun hours => now + hours * 3600 * 1000000))) none
          data.contentHash (data.signature.map .str) = .ok (record, written) ∧
        db' = if record.isSigned then applySupersedeRules written record else written) := by
  have hwrite : ∀ version, (data.parentVersionId = none → version = 1) →
      (match keptExisting db now data with
      | some existing => Except.ok (existing, db)
      | none =>
        match CRDTStore.put host db transactionStart
            (data.write version (data.ttlHours.map (fun hours => now + hours * 3600 * 1000000)))
            none data.contentHash (data.signature.map .str) with
        | .error error => .error (MemoryError.store error)
        | .ok (row, written) =>
          if row.isSigned then .ok (row, applySupersedeRules written row)
          else .ok (row, written)) = .ok (record, db') →
      (keptExisting db now data = some record ∧ db' = db) ∨
        (keptExisting db now data = none ∧ ∃ version written,
          (data.parentVersionId = none → version = 1) ∧
          CRDTStore.put host db transactionStart
            (data.write version (data.ttlHours.map (fun hours => now + hours * 3600 * 1000000)))
            none data.contentHash (data.signature.map .str) = .ok (record, written) ∧
          db' = if record.isSigned then applySupersedeRules written record else written) := by
    intro version hversion h
    cases hkept : keptExisting db now data with
    | some existing =>
      simp only [hkept] at h
      cases h
      exact Or.inl ⟨rfl, rfl⟩
    | none =>
      simp only [hkept] at h
      refine Or.inr ⟨rfl, version, ?_⟩
      split at h
      · cases h
      · rename_i row written hput
        split at h
        · rename_i hsigned
          cases h
          exact ⟨written, hversion, hput, by rw [if_pos hsigned]⟩
        · rename_i hsigned
          cases h
          exact ⟨db', hversion, hput, by rw [if_neg hsigned]⟩
  unfold writeMemory at h
  dsimp only at h
  split at h
  · obtain ⟨version, hversion, h⟩ := Outcome.bind_eq_ok h
    cases hversion
    exact hwrite 1 (fun _ => rfl) h
  · rename_i parentId hparent
    have hfirst : ∀ version, data.parentVersionId = none → version = 1 := by
      intro version hnone
      rw [hparent] at hnone
      cases hnone
    split at h
    · cases h
    · obtain ⟨version, hversion, h⟩ := Outcome.bind_eq_ok h
      exact hwrite version (hfirst version) h

/-! ## Unsigned writes -/

/-- A request without the fields of a signed record. -/
def IsUnsigned (data : MemoryWriteRequest) : Prop :=
  data.authorDid = none ∧ data.signature = none ∧ data.contentHash = none ∧
    data.parentVersionId = none

/-- An unsigned write keeps an existing record or appends its own. -/
theorem writeMemory_cases {host : Host} {db db' : Db} {now transactionStart : Time}
    {data : MemoryWriteRequest} {record : MemoryRecord} (hunsigned : IsUnsigned data)
    (h : writeMemory host db now transactionStart data = .ok (record, db')) :
    (keptExisting db now data = some record ∧ db' = db) ∨
      (keptExisting db now data = none ∧
        IsRowOf host (data.write 1 (data.ttlHours.map (fun hours => now + hours * 3600 * 1000000)))
          none none transactionStart record ∧
        record.memoryId = db.memoryRecords.nextId ∧
        db'.memoryRecords.rows = db.memoryRecords.rows ++ [record] ∧
        db' = { db with memoryRecords := db'.memoryRecords }) := by
  obtain ⟨hauthor, hsignature, hhash, hparent⟩ := hunsigned
  rcases writeMemory_eq_ok h with hkept | ⟨hkept, version, written, hversion, hput, hdb⟩
  · exact Or.inl hkept
  · refine Or.inr ⟨hkept, ?_⟩
    rw [hversion hparent, hhash, hsignature, Option.map_none] at hput
    obtain ⟨contentHash, signature, hresolve, hcases⟩ := CRDTStore.put_cases hput
    have hnone : (contentHash, signature) = (none, none) := by
      have hbody : (data.write 1 (data.ttlHours.map
          (fun hours => now + hours * 3600 * 1000000))).canonicalBody.authorDid = none := by
        simp [MemoryWriteRequest.write, MemoryWrite.canonicalBody, hauthor]
      simp only [CRDTStore.resolveHashAndSignature, hbody, Option.isNone_none, and_self,
        if_true, Except.ok.injEq] at hresolve
      exact hresolve.symm
    cases hnone
    rcases hcases with ⟨-, hfound⟩ | ⟨hrow, hid, hrows, hsame⟩
    · cases hfound
    · have hsigned : record.isSigned = false := by
        rw [MemoryRecord.isSigned, hrow.contentHash]
        rfl
      rw [hsigned] at hdb
      rw [hdb]
      exact ⟨hrow, hid, hrows, hsame⟩

end MemoryService

end MassClaw
