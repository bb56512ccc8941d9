import Mathlib
import MassClaw.Crdt.Contract
import MassClaw.Memory.History

/-!
# Content addresses

A row with a content hash is addressed when the hash is that of the body which
its own columns make.  The lifecycle changes `record_state` only, so it keeps
addresses.  Two statements do not: `delete_memory` clears the confidence of a
row that has a hash but no signature, and the store writes metadata whose keys
`str` and JSON spell differently.
-/

namespace MassClaw

/-- Every content hash is the hash of the body of its row. -/
def Addressed (host : Host) (table : MemoryTable) : Prop :=
  ∀ row ∈ table.rows, ∀ hash, row.contentHash = some hash →
    row.canonicalBody.contentHash host = some hash

/-- An operation on the memory table: one of the services, or a direct call of
the store or of the supersede rules. -/
inductive StoreOp
  | put (now : Time) (write : MemoryWrite) (keypair : Option KeyPair)
      (precomputedHash : Option String) (precomputedSignature : Option Json)
  | applySupersedeRules (newRecord : MemoryRecord)
  | memory (op : MemoryOp)

/-- The database after the operation. -/
def StoreOp.run (host : Host) (db : Db) : StoreOp → Db
  | put now write keypair precomputedHash precomputedSignature =>
    match CRDTStore.put host db now write keypair precomputedHash precomputedSignature with
    | .ok (_, db') => db'
    | .error _ => db
  | applySupersedeRules newRecord => MemoryService.applySupersedeRules db newRecord
  | memory op => op.run host db

/-- The store would add the write under a hash, and a metadata key is one that
`str` and JSON spell differently. -/
structure AddsKeyword (host : Host) (db : Db) (write : MemoryWrite) (keypair : Option KeyPair)
    (precomputedHash : Option String) (precomputedSignature : Option Json) : Prop where
  keyword : ¬write.PlainKeys
  missing : ∃ contentHash signature, CRDTStore.resolveHashAndSignature host write.canonicalBody
    keypair precomputedHash precomputedSignature = .ok (some contentHash, signature) ∧
    db.fetchByHash (some contentHash) = none

/-- The operation deletes no row that has a hash, no signature and a confidence
to clear, and adds no keyword under a hash. -/
def StoreOp.KeepsAddress (host : Host) (db : Db) : StoreOp → Prop
  | put _ write keypair precomputedHash precomputedSignature =>
    ¬AddsKeyword host db write keypair precomputedHash precomputedSignature
  | memory (.reconcileWith _ peer _ _) =>
    ∀ batch records, peer.fetchRecords host batch = .ok records → ∀ record ∈ records,
      ∀ workflowUuid sourceAgentUuid memoryType, ¬AddsKeyword host db
        (GossipService.writeOf record workflowUuid sourceAgentUuid memoryType) none
        (some record.contentHash) record.signature
  | memory (.deleteMemory _ memoryId) =>
    ∀ row ∈ db.memoryRecords.rows, row.memoryId = memoryId → row.contentHash.isSome →
      row.isSigned = true ∨ row.confidence = .finite 0
  | _ => True

/-! ## Each operation -/

variable {host : Host} {db db' : Db}

/-- A change of states and parents keeps addresses. -/
theorem Revises.addressed (h : Revises db db') (haddressed : Addressed host db.memoryRecords) :
    Addressed host db'.memoryRecords := by
  intro row hrow hash hhash
  obtain ⟨old, hold, heq⟩ := h row hrow
  have hcontent : old.contentHash = row.contentHash := by rw [heq]
  have hbody : old.canonicalBody = row.canonicalBody := by
    rw [heq]
    rfl
  rw [← hbody]
  exact haddressed old hold hash (hcontent.trans hhash)

/-- A hash that the store resolves is the hash of the body. -/
theorem CRDTStore.resolve_address {body : CanonicalBody} {keypair : Option KeyPair}
    {precomputedHash : Option String} {supplied : Option Json} {hash : String}
    {signature : Option Json}
    (h : resolveHashAndSignature host body keypair precomputedHash supplied =
      .ok (some hash, signature)) : body.contentHash host = some hash := by
  cases keypair with
  | some pair =>
    obtain ⟨-, -, hhash, -⟩ := resolve_signed (Or.inl rfl) h
    exact hhash.symm
  | none =>
    rcases resolve_contentHash h with ⟨hhash, -⟩ | ⟨hnone, -⟩
    · exact hhash.symm
    · cases hnone

/-- The store keeps addresses, unless it adds a keyword. -/
theorem addressed_put {now : Time} {write : MemoryWrite} {keypair : Option KeyPair}
    {precomputedHash : Option String} {precomputedSignature : Option Json} {row : MemoryRecord}
    (h : CRDTStore.put host db now write keypair precomputedHash precomputedSignature =
      .ok (row, db'))
    (hkeys : ¬AddsKeyword host db write keypair precomputedHash precomputedSignature)
    (haddressed : Addressed host db.memoryRecords) : Addressed host db'.memoryRecords := by
  obtain ⟨contentHash, signature, hresolve, hcases⟩ := CRDTStore.put_cases h
  rcases hcases with ⟨rfl, -⟩ | ⟨hrow, -, hrows, -⟩
  · exact haddressed
  · intro other hother hash hhash
    rw [hrows] at hother
    rcases List.mem_append.1 hother with hold | hnew
    · exact haddressed other hold hash hhash
    · rw [List.mem_singleton.1 hnew] at hhash ⊢
      rw [hrow.contentHash] at hhash
      rw [hhash] at hresolve
      have hmissing : db.fetchByHash (some hash) = none :=
        Db.fetchByHash_of_append hrows (hrow.contentHash.trans hhash)
      have hplain : write.PlainKeys := by
        by_contra hkeyword
        exact hkeys ⟨hkeyword, hash, signature, hresolve, hmissing⟩
      rw [CanonicalBody.contentHash, hrow.toSignableBytes_eq hplain]
      exact CRDTStore.resolve_address hresolve

private theorem plainKeys_of_texts {write : MemoryWrite} {metadata : List (String × Json)}
    (h : write.metadata = metadata.map (fun entry => (.str entry.1, entry.2))) :
    write.PlainKeys := by
  intro entry hentry
  rw [h] at hentry
  obtain ⟨text, -, rfl⟩ := List.mem_map.1 hentry
  exact id

namespace StoreOp

theorem addressed_writeMemory (now transactionStart : Time) (data : MemoryWriteRequest)
    (haddressed : Addressed host db.memoryRecords) :
    Addressed host ((MemoryOp.writeMemory now transactionStart data).run host db).memoryRecords := by
  dsimp only [MemoryOp.run]
  split
  · rename_i record db' hwrite
    rcases MemoryService.writeMemory_eq_ok hwrite with ⟨-, rfl⟩ | ⟨-, version, written, -, hput, rfl⟩
    · exact haddressed
    · have hplain : (data.write version (data.ttlHours.map
          (fun hours => now + hours * 3600 * 1000000))).PlainKeys := plainKeys_of_texts rfl
      have hwritten := addressed_put hput (fun hadds => hadds.keyword hplain) haddressed
      split
      · exact (Revises.applySupersedeRules record).addressed hwritten
      · exact hwritten
  · exact haddressed

theorem addressed_tombstoneMemory (now : Time) (request : TombstoneRequest)
    (haddressed : Addressed host db.memoryRecords) :
    Addressed host ((MemoryOp.tombstoneMemory now request).run host db).memoryRecords := by
  dsimp only [MemoryOp.run]
  split
  case h_2 => exact haddressed
  case h_1 record db' haccepted =>
    obtain ⟨target, workflowId, written, -, -, -, hput, rfl⟩ :=
      MemoryService.tombstoneMemory_eq_ok haccepted
    have hplain : (MemoryService.tombstoneWrite request target workflowId).PlainKeys :=
      plainKeys_of_texts rfl
    exact (Revises.assignRecordState _ _).addressed
      (addressed_put hput (fun hadds => hadds.keyword hplain) haddressed)

/-- A round keeps addresses: the rows that were there stay, so what is missing
later was missing before. -/
theorem addressed_reconcileWith (now : Time) (peer : Peer) (cached : Option MerkleSummary)
    (workflowId : Option UUID)
    (hkeeps : (memory (.reconcileWith now peer cached workflowId)).KeepsAddress host db)
    (haddressed : Addressed host db.memoryRecords) :
    Addressed host
      ((MemoryOp.reconcileWith now peer cached workflowId).run host db).memoryRecords := by
  suffices hround : (∀ row ∈ db.memoryRecords.rows,
      row ∈ (GossipService.reconcileWith host now db peer cached workflowId).2.memoryRecords.rows) ∧
      Addressed host (GossipService.reconcileWith host now db peer cached workflowId).2.memoryRecords
    from hround.2
  refine GossipService.reconcileWith_keeps (I := fun table =>
    (∀ row ∈ db.memoryRecords.rows, row ∈ table.rows) ∧ Addressed host table)
    cached workflowId (fun batch records hrecords record hrecord => ?_)
    ⟨fun _ hrow => hrow, haddressed⟩
  intro before workflowUuid sourceAgentUuid memoryType row after _ hput h
  refine ⟨fun other hother => ?_, addressed_put hput (fun hadds => ?_) h.2⟩
  · obtain ⟨_, _, _, hcases⟩ := CRDTStore.put_cases hput
    rcases hcases with ⟨rfl, -⟩ | ⟨-, -, hrows, -⟩
    · exact h.1 other hother
    · rw [hrows]
      exact List.mem_append_left _ (h.1 other hother)
  · obtain ⟨contentHash, signature, hresolve, hmissing⟩ := hadds.missing
    refine hkeeps batch records hrecords record hrecord workflowUuid sourceAgentUuid memoryType
      ⟨hadds.keyword, contentHash, signature, hresolve, ?_⟩
    rw [Db.fetchByHash, Option.bind_some, List.find?_eq_none] at hmissing ⊢
    exact fun other hother => hmissing other (h.1 other hother)

/-- A permitted deletion changes the body of no row that has a hash. -/
theorem addressed_deleteMemory (now : Time) (memoryId : RowId)
    (hkeeps : (memory (.deleteMemory now memoryId)).KeepsAddress host db)
    (haddressed : Addressed host db.memoryRecords) :
    Addressed host ((MemoryOp.deleteMemory now memoryId).run host db).memoryRecords := by
  dsimp only [MemoryOp.run]
  split
  case h_2 => exact haddressed
  case h_1 db' hdelete =>
    intro row hrow hash hhash
    rw [MemoryService.rows_deleteMemory hdelete] at hrow
    obtain ⟨old, hold, rfl⟩ := List.mem_map.1 hrow
    by_cases hid : old.memoryId = memoryId
    · rw [if_pos hid] at hhash ⊢
      unfold MemoryService.deletedRow at hhash ⊢
      by_cases hsigned : old.isSigned = true
      · rw [if_pos hsigned] at hhash ⊢
        exact haddressed old hold hash hhash
      · rw [if_neg hsigned] at hhash ⊢
        have hconfidence : old.confidence = .finite 0 := by
          rcases hkeeps old hold hid (by rw [hhash]; rfl) with hsigned' | hzero
          · exact absurd hsigned' hsigned
          · exact hzero
        rw [← hconfidence]
        exact haddressed old hold hash hhash
    · rw [if_neg hid] at hhash ⊢
      exact haddressed old hold hash hhash

/-- A permitted operation keeps addresses. -/
theorem run_addressed (op : StoreOp) (hkeeps : op.KeepsAddress host db)
    (haddressed : Addressed host db.memoryRecords) :
    Addressed host (op.run host db).memoryRecords := by
  cases op with
  | put now write keypair precomputedHash precomputedSignature =>
    dsimp only [run]
    split
    · rename_i hput
      exact addressed_put hput hkeeps haddressed
    · exact haddressed
  | applySupersedeRules newRecord =>
    exact (Revises.applySupersedeRules newRecord).addressed haddressed
  | memory op =>
    cases op with
    | writeMemory now transactionStart data =>
      exact addressed_writeMemory now transactionStart data haddressed
    | reconcileWith now peer cached workflowId =>
      exact addressed_reconcileWith now peer cached workflowId hkeeps haddressed
    | tombstoneMemory now request => exact addressed_tombstoneMemory now request haddressed
    | deleteMemory now memoryId => exact addressed_deleteMemory now memoryId hkeeps haddressed
    | garbageCollect now limit semanticCacheMaxEntries policy maxAgeHours minConfidence =>
      exact (Revises.garbageCollect now limit semanticCacheMaxEntries policy maxAgeHours
        minConfidence).addressed haddressed
    | elsewhere now tables => exact haddressed

end StoreOp

/-! ## Histories -/

/-- The database after a history of operations on the table. -/
abbrev afterStoreOps (host : Host) (start : Db) (ops : List StoreOp) : Db :=
  Transition.after (StoreOp.run host) start ops

namespace AddressingExample

/-- A write of the given confidence that names its author and is not signed. -/
def write (confidence : ℚ) (h : 0 ≤ confidence ∧ confidence ≤ 1) : StoreOp :=
  .memory (.writeMemory 0 0
    { workflowId := UUID.ofNat 1
      memoryType := .fact
      content := "claim"
      confidence
      authorDid := some "did:web:a"
      contentLength := MemoryWriteRequest.contentLength_claim
      confidenceRange := h
      ttlPositive := MemoryWriteRequest.ttlPositive_none })

/-- Its deletion. -/
def deletion : StoreOp := .memory (.deleteMemory 1 0)

end AddressingExample

end MassClaw
