import MassClaw.Memory.History
import MassClaw.Safety.Convergence
import MassClaw.Scheduler.CheckpointStore

/-!
# Where approvals and checkpoints come from

The readers of approvals and checkpoints recognise a record by a marker in its
metadata; that the record is signed is up to whoever wrote it.  The store
verifies a signature that it is given, but a META record with a marker and
without a signature is written like any other, through `write_memory` as well
as by gossip.

The invariant says that every marked row is signed by the author it names.  It
holds along every history that writes and imports marked records only with a
signature.
-/

namespace MassClaw

/-- The record counts as an approval or as a checkpoint. -/
def MemoryRecord.isMarked (record : MemoryRecord) : Bool :=
  isApprovalRecord record || isCheckpointRecord record

/-- The signature of the record verifies under its author, over its canonical
body. -/
def AuthorSigned (host : Host) (record : MemoryRecord) : Prop :=
  ∃ did, record.authorDid = some did ∧ record.VerifiesUnder host did

/-! ## What the readers return -/

namespace FederatedApprovalStore

variable (host : Host) (defaults : MemoryRecord → Defaults)

/-- The readers can take the decision from the record. -/
def IsSource (db : Db) (decision : ApprovalRequest) (record : MemoryRecord) : Prop :=
  record ∈ scan db.memoryRecords ∧
    (decodeRecord host defaults record).map ApprovalTwin.request = some decision

variable {host defaults} {db : Db} {order : SetOrder}

theorem exists_source {twin : ApprovalTwin} (h : twin ∈ twins host defaults db.memoryRecords) :
    ∃ record, IsSource host defaults db twin.request record := by
  obtain ⟨record, hrecord, hdecoded⟩ := List.mem_filterMap.1 h
  exact ⟨record, hrecord, by rw [hdecoded]; rfl⟩

theorem exists_source_of_findDecisionForNode {workflowId nodeId : String}
    {decision : ApprovalRequest}
    (h : findDecisionForNode order (twins host defaults db.memoryRecords) workflowId nodeId =
      some decision) : ∃ record, IsSource host defaults db decision record := by
  obtain ⟨-, -, twin, htwin, rfl, -⟩ := decides_of_findDecisionForNode h
  exact exists_source htwin

theorem exists_source_of_findByRequestId {requestId : String} {decision : ApprovalRequest}
    (h : findByRequestId order (twins host defaults db.memoryRecords) requestId = some decision) :
    ∃ record, IsSource host defaults db decision record := by
  rw [findByRequestId, get?_findManyByRequestId, if_pos (List.mem_singleton_self _)] at h
  obtain ⟨twin, hfound, rfl⟩ := Option.map_eq_some_iff.1 h
  rcases Option.or_eq_some_iff.1 hfound with hdecides | ⟨-, hasks⟩
  · exact exists_source (List.mem_of_find?_eq_some hdecides)
  · exact exists_source (List.mem_of_find?_eq_some hasks)

end FederatedApprovalStore

open FederatedApprovalStore in
/-- Every answer of the readers comes from a signed record, and only from such
records. -/
structure SignedAnswers (host : Host) (defaults : MemoryRecord → Defaults) (db : Db) : Prop where
  decision : ∀ order workflowId nodeId decision,
    findDecisionForNode order (twins host defaults db.memoryRecords) workflowId nodeId =
      some decision →
    (∃ record, IsSource host defaults db decision record) ∧
      ∀ record, IsSource host defaults db decision record → AuthorSigned host record
  request : ∀ order requestId decision,
    findByRequestId order (twins host defaults db.memoryRecords) requestId = some decision →
    (∃ record, IsSource host defaults db decision record) ∧
      ∀ record, IsSource host defaults db decision record → AuthorSigned host record
  checkpoint : ∀ now contentHash checkpoint,
    CheckpointStore.loadByHash host now db contentHash = .ok (some checkpoint) →
    ∃ record ∈ db.memoryRecords.rows, record.contentHash = some contentHash ∧
      CheckpointStore.decodeRecord host now record = .ok checkpoint ∧ AuthorSigned host record

/-! ## The invariant -/

/-- Every marked row is signed by the author that it names. -/
def MarkedSigned (host : Host) (table : MemoryTable) : Prop :=
  ∀ row ∈ table.rows, row.isMarked = true → row.isSigned = true ∧ AuthorSigned host row

theorem MarkedSigned.signedAnswers {host : Host} {defaults : MemoryRecord → Defaults} {db : Db}
    (h : MarkedSigned host db.memoryRecords) : SignedAnswers host defaults db := by
  have hsource : ∀ decision record,
      FederatedApprovalStore.IsSource host defaults db decision record →
        AuthorSigned host record := by
    intro decision record hsource
    obtain ⟨hrecord, hscanned⟩ := List.mem_filter.1 hsource.1
    have hrow := (Selection.mem_newestFirst _).1 hrecord
    rw [FederatedApprovalStore.isScanned, Bool.and_eq_true] at hscanned
    exact (h record hrow (by rw [MemoryRecord.isMarked, hscanned.1, Bool.true_or])).2
  refine ⟨fun order workflowId nodeId decision hfound => ?_,
    fun order requestId decision hfound => ?_, fun now contentHash checkpoint hloaded => ?_⟩
  · exact ⟨FederatedApprovalStore.exists_source_of_findDecisionForNode hfound, hsource decision⟩
  · exact ⟨FederatedApprovalStore.exists_source_of_findByRequestId hfound, hsource decision⟩
  · obtain ⟨record, hrecord, hhash, hcheckpoint, hdecoded⟩ :=
      CheckpointStore.loadByHash_eq_some hloaded
    refine ⟨record, hrecord, hhash, hdecoded, (h record hrecord ?_).2⟩
    rw [MemoryRecord.isMarked, hcheckpoint, Bool.or_true]

/-- The columns a marker and a signature are read from are not revised. -/
theorem MarkedSigned.revises {host : Host} {db db' : Db} (h : MarkedSigned host db.memoryRecords)
    (hrevises : Revises db db') : MarkedSigned host db'.memoryRecords := by
  intro row hrow hmarked
  obtain ⟨old, hold, heq⟩ := hrevises row hrow
  rw [heq] at hmarked ⊢
  exact h old hold hmarked

/-! ## The condition -/

/-- The row of the write would be marked. -/
def MemoryWrite.isMarked (host : Host) (write : MemoryWrite) : Bool :=
  let stored := Assoc.ofList
    (write.metadata.map (fun entry => (entry.1.jsonName host.repr, entry.2)))
  ((Json.lookup stored "approval_marker").truthy || (Json.lookup stored "checkpoint").truthy) &&
    write.memoryType = .metaType

theorem IsRowOf.isMarked_eq {host : Host} {write : MemoryWrite} {contentHash : Option String}
    {signature : Option Json} {now : Time} {row : MemoryRecord}
    (h : IsRowOf host write contentHash signature now row) :
    row.isMarked = write.isMarked host := by
  rw [MemoryRecord.isMarked, isApprovalRecord, isCheckpointRecord, MemoryRecord.hasMarker,
    MemoryRecord.hasMarker, h.metadata, h.memoryType, ← Bool.and_or_distrib_right]
  rfl

/-- The store accepts the write, does not have its hash yet, and the row would
be marked without being signed: no signature is given, or `str` and JSON spell
a key of the metadata differently. -/
structure StoresUnsigned (host : Host) (db : Db) (write : MemoryWrite)
    (precomputedHash : Option String) (signature : Option Json) : Prop where
  marked : write.isMarked host = true
  accepted : ∃ contentHash resolved,
    CRDTStore.resolveHashAndSignature host write.canonicalBody none precomputedHash signature =
      .ok (contentHash, resolved) ∧
    ∀ hash, contentHash = some hash → ∀ row ∈ db.memoryRecords.rows, row.contentHash ≠ some hash
  unsigned : signature = none ∨ ¬write.PlainKeys

/-- The operation adds marked records only with a signature. -/
def MemoryOp.SignsMarked (host : Host) (db : Db) : MemoryOp → Prop
  | .writeMemory now _ data =>
    MemoryService.keptExisting db now data = none →
      ¬StoresUnsigned host db (data.write 1 none) data.contentHash (data.signature.map .str)
  | .reconcileWith _ peer _ _ =>
    ∀ batch records, peer.fetchRecords host batch = .ok records → ∀ record ∈ records,
      ∀ workflowUuid sourceAgentUuid memoryType,
        MemoryType.ofValue? record.memoryType = some memoryType →
        ¬StoresUnsigned host db
          (GossipService.writeOf record workflowUuid sourceAgentUuid memoryType)
          (some record.contentHash) record.signature
  | _ => True

/-! ## Each operation -/

section Operations

variable {host : Host} {db db' : Db}

/-- The store keeps the invariant on a write that signs marked rows. -/
theorem markedSigned_put {now : Time} {write : MemoryWrite} {precomputedHash : Option String}
    {signature : Option Json} {row : MemoryRecord}
    (hput : CRDTStore.put host db now write none precomputedHash signature = .ok (row, db'))
    (hsigns : ¬StoresUnsigned host db write precomputedHash signature)
    (h : MarkedSigned host db.memoryRecords) : MarkedSigned host db'.memoryRecords := by
  obtain ⟨contentHash, resolved, hresolve, hcases⟩ := CRDTStore.put_cases hput
  rcases hcases with ⟨rfl, -⟩ | ⟨hrow, -, hrows, -⟩
  · exact h
  · intro other hother hmarked
    rw [hrows] at hother
    rcases List.mem_append.1 hother with hold | hnew
    · exact h other hold hmarked
    · rw [List.mem_singleton.1 hnew] at hmarked ⊢
      have hmissing : ∀ hash, contentHash = some hash →
          ∀ old ∈ db.memoryRecords.rows, old.contentHash ≠ some hash := by
        intro hash hhash old hold
        exact Table.unique_ne_of_append hrows (hrow.contentHash.trans hhash) hold
      have hsigned : ¬(signature = none ∨ ¬write.PlainKeys) := fun hunsigned =>
        hsigns ⟨hrow.isMarked_eq ▸ hmarked, ⟨contentHash, resolved, hresolve, hmissing⟩, hunsigned⟩
      rw [not_or, not_not] at hsigned
      obtain ⟨supplied, hsupplied⟩ := Option.ne_none_iff_exists'.1 hsigned.1
      rw [hsupplied] at hresolve
      exact hrow.verifiesUnder hsigned.2 hresolve

theorem markedSigned_writeMemory {now transactionStart : Time} {data : MemoryWriteRequest}
    (hsigns : (MemoryOp.writeMemory now transactionStart data).SignsMarked host db)
    (h : MarkedSigned host db.memoryRecords) :
    MarkedSigned host ((MemoryOp.writeMemory now transactionStart data).run host db).memoryRecords := by
  dsimp only [MemoryOp.run]
  split
  · rename_i record db' hwrite
    rcases MemoryService.writeMemory_eq_ok hwrite with
      ⟨-, rfl⟩ | ⟨hkept, version, written, -, hput, rfl⟩
    · exact h
    · have hwritten : MarkedSigned host written.memoryRecords := by
        refine markedSigned_put hput (fun hunsigned => hsigns hkept ?_) h
        exact ⟨hunsigned.marked, hunsigned.accepted, hunsigned.unsigned⟩
      split
      · exact hwritten.revises (.applySupersedeRules record)
      · exact hwritten
  · exact h

theorem markedSigned_reconcileWith {now : Time} {peer : Peer} {cached : Option MerkleSummary}
    {workflowId : Option UUID}
    (hsigns : (MemoryOp.reconcileWith now peer cached workflowId).SignsMarked host db)
    (h : MarkedSigned host db.memoryRecords) :
    MarkedSigned host
      ((MemoryOp.reconcileWith now peer cached workflowId).run host db).memoryRecords := by
  suffices hround : (∀ row ∈ db.memoryRecords.rows,
      row ∈ (GossipService.reconcileWith host now db peer cached workflowId).2.memoryRecords.rows) ∧
      MarkedSigned host (GossipService.reconcileWith host now db peer cached
        workflowId).2.memoryRecords from hround.2
  refine GossipService.reconcileWith_keeps (I := fun table =>
    (∀ row ∈ db.memoryRecords.rows, row ∈ table.rows) ∧ MarkedSigned host table)
    cached workflowId (fun batch records hrecords record hrecord => ?_)
    ⟨fun _ hrow => hrow, h⟩
  intro before workflowUuid sourceAgentUuid memoryType row after htype hput hbefore
  constructor
  · obtain ⟨_, _, -, ⟨rfl, -⟩ | ⟨-, -, hrows, -⟩⟩ := CRDTStore.put_cases hput
    · exact hbefore.1
    · intro old hold
      rw [hrows]
      exact List.mem_append_left _ (hbefore.1 old hold)
  · refine markedSigned_put hput (fun hunsigned => ?_) hbefore.2
    refine hsigns batch records hrecords record hrecord workflowUuid sourceAgentUuid memoryType htype
      ⟨hunsigned.marked, ?_, hunsigned.unsigned⟩
    obtain ⟨contentHash, resolved, hresolve, hmissing⟩ := hunsigned.accepted
    exact ⟨contentHash, resolved, hresolve, fun hash hhash old hold =>
      hmissing hash hhash old (hbefore.1 old hold)⟩

theorem isMarked_tombstoneWrite (request : TombstoneRequest) (target : MemoryRecord)
    (workflowId : UUID) :
    (MemoryService.tombstoneWrite request target workflowId).isMarked host = false := by
  unfold MemoryWrite.isMarked MemoryService.tombstoneWrite buildTombstoneMetadata
  cases request.reason.filter (· ≠ "") <;> rfl

theorem markedSigned_tombstoneMemory {now : Time} {request : TombstoneRequest}
    (h : MarkedSigned host db.memoryRecords) :
    MarkedSigned host ((MemoryOp.tombstoneMemory now request).run host db).memoryRecords := by
  dsimp only [MemoryOp.run]
  split
  case h_2 => exact h
  case h_1 record db' haccepted =>
    unfold MemoryService.tombstoneMemory at haccepted
    split at haccepted
    · cases haccepted
    · split at haccepted
      · cases haccepted
      · cases haccepted
      · split at haccepted
        · cases haccepted
        · rename_i written hput
          cases haccepted
          have hwritten : MarkedSigned host written.memoryRecords := by
            refine markedSigned_put hput (fun hunsigned => ?_) h
            have hmarked := hunsigned.marked
            rw [isMarked_tombstoneWrite] at hmarked
            cases hmarked
          exact hwritten.revises (.assignRecordState _ _)

theorem markedSigned_deleteMemory {now : Time} {memoryId : RowId}
    (h : MarkedSigned host db.memoryRecords) :
    MarkedSigned host ((MemoryOp.deleteMemory now memoryId).run host db).memoryRecords := by
  dsimp only [MemoryOp.run]
  split
  case h_2 => exact h
  case h_1 db' hdelete =>
    intro row hrow hmarked
    rw [MemoryService.rows_deleteMemory hdelete] at hrow
    obtain ⟨old, hold, rfl⟩ := List.mem_map.1 hrow
    by_cases hid : old.memoryId = memoryId
    · rw [if_pos hid] at hmarked ⊢
      have hold' : old.isMarked = true := by
        unfold MemoryService.deletedRow at hmarked
        split at hmarked
        · exact hmarked
        · exact hmarked
      have hsigned := h old hold hold'
      rw [MemoryService.deletedRow, if_pos hsigned.1]
      exact hsigned
    · rw [if_neg hid] at hmarked ⊢
      exact h old hold hmarked

/-- One operation that signs marked records keeps the invariant. -/
theorem markedSigned_run (op : MemoryOp) (hsigns : op.SignsMarked host db)
    (h : MarkedSigned host db.memoryRecords) :
    MarkedSigned host (op.run host db).memoryRecords := by
  cases op with
  | writeMemory now transactionStart data => exact markedSigned_writeMemory hsigns h
  | reconcileWith now peer cached workflowId => exact markedSigned_reconcileWith hsigns h
  | tombstoneMemory now request => exact markedSigned_tombstoneMemory h
  | deleteMemory now memoryId => exact markedSigned_deleteMemory h
  | garbageCollect now limit semanticCacheMaxEntries policy maxAgeHours minConfidence =>
    exact h.revises (.garbageCollect now limit semanticCacheMaxEntries policy maxAgeHours
      minConfidence)
  | elsewhere now tables => exact h

end Operations

namespace ProvenanceExample

open FederatedApprovalStore

/-- A write of the record of an approval, with or without a signature. -/
def write (authorDid signature : Option String) : MemoryOp := .writeMemory 0 0
  { workflowId := UUID.ofNat 1
    memoryType := .metaType
    content := "approval.decision:r:approved"
    confidence := 1
    metadata := metadataFor Disagreement.approved (some "t1")
    authorDid
    signature
    contentLength := by decide
    confidenceRange := MemoryWriteRequest.confidenceRange_one
    ttlPositive := MemoryWriteRequest.ttlPositive_none }

/-- Defaults that no twin of this code needs. -/
def noDefaults : MemoryRecord → Defaults := fun _ => ⟨"", "", ""⟩

/-- The status of the approval that is found after the operations. -/
def foundStatus (ops : List MemoryOp) : Option String :=
  (findByRequestId (startingWith "r") (twins GossipService.ImportExample.constant noDefaults
    (afterOps GossipService.ImportExample.constant GossipService.ImportExample.start
      ops).memoryRecords) "r").map ApprovalRequest.status

end ProvenanceExample

end MassClaw
