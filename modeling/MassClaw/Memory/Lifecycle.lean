import MassClaw.Lib.Selection
import MassClaw.Memory.Service

/-!
# The lifecycle of memory records, `app/services/memory_lifecycle.py`

A record leaves the store in two steps: its `record_state` becomes TOMBSTONED,
and a later collection deletes the row.  `MemoryService.delete_memory`,
`tombstone_memory` and `garbage_collect` write the state; so does the gossip
import, which takes it from the peer.
-/

namespace MassClaw

/-! ## Statements on the table -/

namespace Db

/-- Assign a `record_state` to some rows. -/
def assignRecordState (db : Db) (select : MemoryRecord → Bool) (state : RecordState) : Db :=
  { db with
    memoryRecords := db.memoryRecords.mapRows
      (fun row => if select row then { row with recordState := state } else row)
      (fun row => by split <;> rfl)
      (fun row => by split <;> rfl) }

/-- `delete(MemoryRecord).where(...)`.  The foreign key sets the parent of the
remaining versions to NULL. -/
def deleteMemoryRecords (db : Db) (select : MemoryRecord → Bool) : Db :=
  let deleted := (db.memoryRecords.rows.filter select).map MemoryRecord.memoryId
  { db with
    memoryRecords := (db.memoryRecords.filterRows (fun row => !select row)).mapRows
      (fun row =>
        if row.parentVersionId.any (· ∈ deleted) then { row with parentVersionId := none } else row)
      (fun row => by split <;> rfl)
      (fun row => by split <;> rfl) }

end Db

/-- `a < b` as PostgreSQL compares floats: NaN is the greatest value. -/
def PyFloat.sqlLt : PyFloat → PyFloat → Bool
  | .nan, _ => false
  | _, .nan => true
  | a, b => !b.le a

/-! ## Policies -/

/-- One hour, in microseconds. -/
def hour : Time := 3600 * 1000000

/-- `GCRunPolicy`. -/
structure GCRunPolicy where
  tombstoneGraceHours : Int := 24
  archiveActiveAfterHours : Int := 90 * 24
  lowConfidenceThreshold : PyFloat := .finite (1 / 100)
  hardDeleteMaxAgeHours : Option Int := none
  cacheMaxEntries : Option Int := none

/-- `archive_cutoff`. -/
def GCRunPolicy.archiveCutoff (policy : GCRunPolicy) (now : Time) : Time :=
  now - policy.archiveActiveAfterHours * hour

/-- `tombstone_cutoff`. -/
def GCRunPolicy.tombstoneCutoff (policy : GCRunPolicy) (now : Time) : Time :=
  now - policy.tombstoneGraceHours * hour

/-- `record_state in (ACTIVE, SUPERSEDED)`. -/
def RecordState.isLive (state : RecordState) : Bool := state = .active || state = .superseded

/-- `is_archive_candidate`. -/
def isArchiveCandidate (recordState : RecordState) (createdAt now : Time)
    (archiveAfterHours : Int) : Bool :=
  recordState.isLive && decide (archiveAfterHours * hour ≤ now - createdAt)

/-- `TombstoneAuthError`. -/
inductive TombstoneAuthError
  | alreadyTombstoned
  | targetUnsigned
  | notTheAuthor (requestingDid targetAuthorDid : String)

/-- `assert_can_tombstone`, for a request that names a DID. -/
def assertCanTombstone (requestingDid : String) (targetAuthorDid : Option String)
    (targetState : RecordState) : Except TombstoneAuthError Unit :=
  if targetState = .tombstoned then .error .alreadyTombstoned
  else
    match targetAuthorDid with
    | none => .error .targetUnsigned
    | some authorDid =>
      if requestingDid = authorDid then .ok () else .error (.notTheAuthor requestingDid authorDid)

/-- `build_tombstone_metadata`. -/
def buildTombstoneMetadata (targetHash : String) (reason : Option String) :
    List (String × Json) :=
  [("tombstone", .bool true), ("tombstone_target", .str targetHash)] ++
    ((reason.filter (· ≠ "")).map (fun reason => ("tombstone_reason", Json.str reason))).toList

/-! ## The operations -/

/-- `TombstoneRequest`. -/
structure TombstoneRequest where
  targetHash : String
  authorDid : String
  signature : String
  contentHash : String
  reason : Option String := none

/-- What `tombstone_memory` raises. -/
inductive TombstoneError
  | notFound
  | auth (error : TombstoneAuthError)
  | store (error : StoreError)

namespace MemoryService

/-- `_load_by_hash`. -/
def loadByHash (db : Db) (contentHash : String) : Option MemoryRecord :=
  db.fetchByHash (some contentHash)

/-- `delete_memory`. -/
def deleteMemory (db : Db) (memoryId : RowId) : Except MemoryError Db :=
  match db.memoryRecords.rows.find? (fun record => record.memoryId = memoryId) with
  | none => .error .notFound
  | some record =>
    let deleted (row : MemoryRecord) : MemoryRecord :=
      if record.isSigned then { row with recordState := .tombstoned }
      else { row with confidence := .finite 0, recordState := .tombstoned }
    .ok { db with
      memoryRecords := db.memoryRecords.mapRows
        (fun row => if row.memoryId = memoryId then deleted row else row)
        (fun row => by dsimp only [deleted]; split <;> [(split <;> rfl); rfl])
        (fun row => by dsimp only [deleted]; split <;> [(split <;> rfl); rfl]) }

/-- The row after its deletion. -/
def deletedRow (row : MemoryRecord) : MemoryRecord :=
  if row.isSigned then { row with recordState := .tombstoned }
  else { row with confidence := .finite 0, recordState := .tombstoned }

/-- A deletion changes the row with the id. -/
theorem rows_deleteMemory {db db' : Db} {memoryId : RowId} (h : deleteMemory db memoryId = .ok db') :
    db'.memoryRecords.rows = db.memoryRecords.rows.map (fun row =>
      if row.memoryId = memoryId then deletedRow row else row) := by
  unfold deleteMemory at h
  split at h
  · cases h
  · rename_i record hfound
    cases h
    refine List.map_congr_left (fun row hrow => ?_)
    by_cases hid : row.memoryId = memoryId
    · have hrecord : record.memoryId = memoryId := by simpa using List.find?_some hfound
      have hsame : record = row :=
        Table.eq_of_rowId (List.mem_of_find?_eq_some hfound) hrow (hrecord.trans hid.symm)
      rw [if_pos hid, if_pos hid, hsame]
      rfl
    · rw [if_neg hid, if_neg hid]

/-- The tombstone record of a request, for a target of the given workflow. -/
def tombstoneWrite (request : TombstoneRequest) (target : MemoryRecord) (workflowId : UUID) :
    MemoryWrite where
  workflowId := workflowId
  memoryType := .metaType
  content := request.reason.getD ""
  confidence := .finite 1
  metadata := (buildTombstoneMetadata request.targetHash request.reason).map
    (fun entry => (.str entry.1, entry.2))
  parentHashes := [.str request.targetHash]
  authorDid := some (.str request.authorDid)
  sourceAgentId := target.sourceAgentId

/-- `tombstone_memory`.  A record that has an author also has a workflow: only
entries of the semantic cache have none. -/
def tombstoneMemory (host : Host) (db : Db) (now : Time) (request : TombstoneRequest) :
    Except TombstoneError (MemoryRecord × Db) :=
  match loadByHash db request.targetHash with
  | none => .error .notFound
  | some target =>
    match assertCanTombstone request.authorDid target.authorDid target.recordState,
        target.workflowId with
    | .error error, _ => .error (.auth error)
    | .ok (), none => .error (.store .data)
    | .ok (), some workflowId =>
      match CRDTStore.put host db now (tombstoneWrite request target workflowId) none
          (some request.contentHash) (some (.str request.signature)) with
      | .error error => .error (.store error)
      | .ok (tombstoneRecord, db) =>
        .ok (tombstoneRecord,
          db.assignRecordState (fun row => row.memoryId = target.memoryId) .tombstoned)

/-- An accepted request: its tombstone is in the store, and the target is
tombstoned. -/
theorem tombstoneMemory_eq_ok {host : Host} {db db' : Db} {now : Time}
    {request : TombstoneRequest} {record : MemoryRecord}
    (h : tombstoneMemory host db now request = .ok (record, db')) :
    ∃ target workflowId written, loadByHash db request.targetHash = some target ∧
      assertCanTombstone request.authorDid target.authorDid target.recordState = .ok () ∧
      target.workflowId = some workflowId ∧
      CRDTStore.put host db now (tombstoneWrite request target workflowId) none
        (some request.contentHash) (some (.str request.signature)) = .ok (record, written) ∧
      db' = written.assignRecordState (fun row => row.memoryId = target.memoryId) .tombstoned := by
  unfold tombstoneMemory at h
  split at h
  · cases h
  · rename_i target hfound
    split at h
    · cases h
    · cases h
    · rename_i workflowId hassert hworkflow
      split at h
      · cases h
      · rename_i written hput
        cases h
        exact ⟨target, workflowId, _, hfound, hassert, hworkflow, hput, rfl⟩

/-- A request whose tombstone the store takes is accepted. -/
theorem tombstoneMemory_ok {host : Host} {db written : Db} {now : Time}
    {request : TombstoneRequest} {target record : MemoryRecord} {workflowId : UUID}
    (hfound : loadByHash db request.targetHash = some target)
    (hassert : assertCanTombstone request.authorDid target.authorDid target.recordState = .ok ())
    (hworkflow : target.workflowId = some workflowId)
    (hput : CRDTStore.put host db now (tombstoneWrite request target workflowId) none
      (some request.contentHash) (some (.str request.signature)) = .ok (record, written)) :
    tombstoneMemory host db now request = .ok (record,
      written.assignRecordState (fun row => row.memoryId = target.memoryId) .tombstoned) := by
  unfold tombstoneMemory
  rw [hfound]
  dsimp only
  rw [hassert, hworkflow]
  dsimp only
  rw [hput]

/-! ## Garbage collection -/

/-- `_GC_BATCH`. -/
def gcBatch : Nat := 10000

/-- The rows that a query with `LIMIT` and without `ORDER BY` returns; the
database is free to choose them. -/
structure RowLimit where
  choose : List MemoryRecord → List MemoryRecord
  subset : ∀ rows, ∀ row ∈ choose rows, row ∈ rows
  length_le : ∀ rows, (choose rows).length ≤ gcBatch
  complete : ∀ rows, rows.length ≤ gcBatch → ∀ row ∈ rows, row ∈ choose rows

/-- The counts that `garbage_collect` returns; the total is their sum without
the transitions. -/
structure GCCounts where
  expiredToTombstone : Nat := 0
  tombstoneHardDeleted : Nat := 0
  archivedToHistorical : Nat := 0
  legacyHardDeleted : Nat := 0
  oldHardDeleted : Nat := 0
  cacheExpiredDeleted : Nat := 0
  cacheTrimmed : Nat := 0

/-- `total_hard_deleted`. -/
def GCCounts.totalHardDeleted (counts : GCCounts) : Nat :=
  counts.tombstoneHardDeleted + counts.legacyHardDeleted + counts.oldHardDeleted +
    counts.cacheExpiredDeleted + counts.cacheTrimmed

section Collect

variable (db : Db) (now : Time)

/-- The number of rows a condition selects. -/
def countRows (select : MemoryRecord → Bool) : Nat :=
  (db.memoryRecords.rows.filter select).length

/-- The rows of the semantic cache that have expired. -/
def isDeadCacheEntry (row : MemoryRecord) : Bool :=
  row.memoryType = .cache &&
    (row.expiresAt.all (fun expiresAt => decide (expiresAt < now)) || row.recordState ≠ .active)

/-- The ids beyond the newest `cap` entries of the semantic cache. -/
def cacheSurplus (cap : Nat) : List RowId :=
  (((Selection.newestFirst MemoryRecord.createdAt
      (db.memoryRecords.rows.filter (fun row => row.memoryType = .cache))).drop cap).take
        gcBatch).map MemoryRecord.memoryId

/-- `_collect_semantic_cache`: the rows that are deleted, and the database. -/
def collectSemanticCache (policy : GCRunPolicy) (semanticCacheMaxEntries : Int) : GCCounts × Db :=
  let counts : GCCounts := { cacheExpiredDeleted := countRows db (isDeadCacheEntry now) }
  let db := db.deleteMemoryRecords (isDeadCacheEntry now)
  let cap := policy.cacheMaxEntries.getD semanticCacheMaxEntries
  if cap ≤ 0 then (counts, db)
  else
    let surplus := cacheSurplus db cap.toNat
    let isSurplus (row : MemoryRecord) : Bool := decide (row.memoryId ∈ surplus)
    ({ counts with cacheTrimmed := countRows db isSurplus }, db.deleteMemoryRecords isSurplus)

/-- The rows of step 1: expired and still live. -/
def isExpired (row : MemoryRecord) : Bool :=
  row.expiresAt.any (fun expiresAt => decide (expiresAt < now)) && row.recordState.isLive

/-- The rows of step 2: tombstones past the grace period. -/
def isOldTombstone (policy : GCRunPolicy) (row : MemoryRecord) : Bool :=
  row.recordState = .tombstoned && decide (row.createdAt < policy.tombstoneCutoff now)

/-- The rows of step 3: live, old and of low confidence. -/
def isArchivable (policy : GCRunPolicy) (row : MemoryRecord) : Bool :=
  row.recordState.isLive && decide (row.createdAt < policy.archiveCutoff now) &&
    row.confidence.sqlLt policy.lowConfidenceThreshold

/-- The rows of step 4: unsigned and of low confidence. -/
def isLegacy (policy : GCRunPolicy) (row : MemoryRecord) : Bool :=
  row.confidence.sqlLt policy.lowConfidenceThreshold && row.contentHash.isNone &&
    row.recordState ≠ .tombstoned

/-- The rows of step 5: unsigned and past the maximal age. -/
def isPastAge (hours : Int) (row : MemoryRecord) : Bool :=
  decide (row.createdAt < now - hours * hour) && row.contentHash.isNone

/-- `garbage_collect`; what the session has pending is flushed before each
statement. -/
def garbageCollect (limit : RowLimit) (semanticCacheMaxEntries : Int) (policy : Option GCRunPolicy)
    (maxAgeHours : Option Int) (minConfidence : PyFloat) : GCCounts × Db :=
  let policy := policy.getD
    { lowConfidenceThreshold := minConfidence, hardDeleteMaxAgeHours := maxAgeHours }
  let (counts, db) := collectSemanticCache db now policy semanticCacheMaxEntries
  let expired := (limit.choose (db.memoryRecords.rows.filter (isExpired now))).map
    MemoryRecord.memoryId
  let counts := { counts with expiredToTombstone := expired.length }
  let db := db.assignRecordState (fun row => row.memoryId ∈ expired) .tombstoned
  let counts :=
    { counts with tombstoneHardDeleted := countRows db (isOldTombstone now policy) }
  let db := db.deleteMemoryRecords (isOldTombstone now policy)
  let archived := ((limit.choose (db.memoryRecords.rows.filter (isArchivable now policy))).filter
    (fun row => isArchiveCandidate row.recordState row.createdAt now
      policy.archiveActiveAfterHours)).map MemoryRecord.memoryId
  let counts := { counts with archivedToHistorical := archived.length }
  let db := db.assignRecordState (fun row => row.memoryId ∈ archived) .historical
  let counts := { counts with legacyHardDeleted := countRows db (isLegacy policy) }
  let db := db.deleteMemoryRecords (isLegacy policy)
  match policy.hardDeleteMaxAgeHours.filter (· ≠ 0) with
  | none => (counts, db)
  | some hours =>
    ({ counts with oldHardDeleted := countRows db (isPastAge now hours) },
      db.deleteMemoryRecords (isPastAge now hours))

end Collect

end MemoryService

end MassClaw
