import MassClaw.Crdt.Contract
import MassClaw.Memory.Tombstones

/-!
# Deleted records that come back

While the row of a deleted record is there, its hash keeps the record out: the
store returns the row, and no statement makes a row active again.  Collection
deletes the row after the grace period.  From then on nothing in the store
remembers the deletion, and a write or a peer that still has the record can
add it as active.
-/

namespace MassClaw

/-- No row with the hash is active. -/
def Inactive (contentHash : String) (db : Db) : Prop :=
  ∀ row ∈ db.memoryRecords.rows, row.contentHash = some contentHash → row.recordState ≠ .active

/-- The operation would add an active row under a hash that no row has. -/
def MemoryOp.Readmits (host : Host) (db : Db) (contentHash : String) (op : MemoryOp) : Prop :=
  db.fetchByHash (some contentHash) = none ∧
    match op with
    | .writeMemory _ _ data => ∃ version expiresAt signature,
      CRDTStore.resolveHashAndSignature host (data.write version expiresAt).canonicalBody none
        data.contentHash (data.signature.map .str) = .ok (some contentHash, signature)
    | .reconcileWith _ peer _ _ => ∃ batch records, peer.fetchRecords host batch = .ok records ∧
      ∃ record ∈ records, (RecordState.ofValue? record.recordState).getD .active = .active ∧
        ∃ workflowUuid sourceAgentUuid memoryType signature,
          CRDTStore.resolveHashAndSignature host
            (GossipService.writeOf record workflowUuid sourceAgentUuid memoryType).canonicalBody
            none (some record.contentHash) record.signature = .ok (some contentHash, signature)
    | .tombstoneMemory _ request => request.contentHash = contentHash
    | _ => False

/-! ## Rows that are active -/

/-- A row that is active in `after` has a hash under which `before` has an
active row. -/
def NoneActivated (before after : Db) : Prop :=
  ∀ row ∈ after.memoryRecords.rows, row.recordState = .active →
    ∃ old ∈ before.memoryRecords.rows, old.contentHash = row.contentHash ∧
      old.recordState = .active

namespace NoneActivated

variable {db db' db'' : Db}

theorem refl (db : Db) : NoneActivated db db := fun row hrow hactive => ⟨row, hrow, rfl, hactive⟩

theorem trans (h : NoneActivated db db') (h' : NoneActivated db' db'') : NoneActivated db db'' := by
  intro row hrow hactive
  obtain ⟨old, hold, hhash, hactive'⟩ := h' row hrow hactive
  obtain ⟨older, holder, hhash', hactive''⟩ := h old hold hactive'
  exact ⟨older, holder, hhash'.trans hhash, hactive''⟩

/-- Rows are changed one by one, and possibly left out. -/
theorem map {g : MemoryRecord → MemoryRecord}
    (hrows : ∀ row' ∈ db'.memoryRecords.rows, ∃ row ∈ db.memoryRecords.rows, row' = g row)
    (hhash : ∀ row, (g row).contentHash = row.contentHash)
    (hstate : ∀ row, (g row).recordState = .active → row.recordState = .active) :
    NoneActivated db db' := by
  intro row' hrow' hactive
  obtain ⟨row, hrow, rfl⟩ := hrows row' hrow'
  exact ⟨row, hrow, (hhash row).symm, hstate row hactive⟩

theorem assignRecordState (select : MemoryRecord → Bool) {state : RecordState}
    (hstate : state ≠ .active) : NoneActivated db (db.assignRecordState select state) := by
  refine map (g := fun row => if select row then { row with recordState := state } else row)
    (fun row' hrow' => ?_) (fun row => by split <;> rfl) (fun row hactive => ?_)
  · obtain ⟨row, hrow, heq⟩ := List.mem_map.1 hrow'
    exact ⟨row, hrow, heq.symm⟩
  · split at hactive
    · exact absurd hactive hstate
    · exact hactive

theorem deleteMemoryRecords (select : MemoryRecord → Bool) :
    NoneActivated db (db.deleteMemoryRecords select) := by
  refine map (g := fun row =>
      if row.parentVersionId.any (· ∈ (db.memoryRecords.rows.filter select).map
        MemoryRecord.memoryId) then { row with parentVersionId := none } else row)
    (fun row' hrow' => ?_) (fun row => by split <;> rfl) (fun row hactive => ?_)
  · obtain ⟨row, hrow, heq⟩ := List.mem_map.1 hrow'
    exact ⟨row, List.mem_of_mem_filter hrow, heq.symm⟩
  · split at hactive
    · exact hactive
    · exact hactive

theorem applySupersedeRules (newRecord : MemoryRecord) :
    NoneActivated db (MemoryService.applySupersedeRules db newRecord) := by
  obtain ⟨select, _, hrows⟩ := MemoryService.rows_applySupersedeRules db newRecord
  refine map (g := fun row => if select row then { row with recordState := .superseded } else row)
    (fun row' hrow' => ?_) (fun row => by split <;> rfl) (fun row hactive => ?_)
  · rw [hrows] at hrow'
    obtain ⟨row, hrow, heq⟩ := List.mem_map.1 hrow'
    exact ⟨row, hrow, heq.symm⟩
  · split at hactive
    · cases hactive
    · exact hactive

theorem deleteMemory {memoryId : RowId} (h : MemoryService.deleteMemory db memoryId = .ok db') :
    NoneActivated db db' := by
  refine map (g := fun row =>
      if row.memoryId = memoryId then MemoryService.deletedRow row else row)
    (fun row' hrow' => ?_) (fun row => ?_) (fun row hactive => ?_)
  · rw [MemoryService.rows_deleteMemory h] at hrow'
    obtain ⟨row, hrow, heq⟩ := List.mem_map.1 hrow'
    exact ⟨row, hrow, heq.symm⟩
  · dsimp only [MemoryService.deletedRow]
    split
    · split <;> rfl
    · rfl
  · dsimp only [MemoryService.deletedRow] at hactive
    split at hactive
    · split at hactive <;> cases hactive
    · exact hactive

theorem garbageCollect (now : Time) (limit : MemoryService.RowLimit)
    (semanticCacheMaxEntries : Int) (policy : Option GCRunPolicy) (maxAgeHours : Option Int)
    (minConfidence : PyFloat) :
    NoneActivated db (MemoryService.garbageCollect db now limit semanticCacheMaxEntries policy
      maxAgeHours minConfidence).2 :=
  MemoryService.garbageCollect_rule (I := NoneActivated db)
    (fun _ select h => h.trans (.deleteMemoryRecords select))
    (fun _ select h => h.trans (.assignRecordState select (by decide)))
    (fun _ h => h.trans (.assignRecordState _ (by decide))) (.refl db)

/-- A hash stays inactive. -/
theorem inactive {contentHash : String} (h : NoneActivated db db')
    (hinactive : Inactive contentHash db) : Inactive contentHash db' := by
  intro row hrow hhash hactive
  obtain ⟨old, hold, hsame, hactive'⟩ := h row hrow hactive
  exact hinactive old hold (hsame.trans hhash) hactive'

end NoneActivated

/-! ## Each operation -/

variable {host : Host} {db db' : Db} {contentHash : String}

/-- A row that keeps its hash out, or a write that is not of this hash. -/
theorem inactive_put {now : Time} {write : MemoryWrite} {precomputedHash : Option String}
    {supplied : Option Json} {row : MemoryRecord}
    (h : CRDTStore.put host db now write none precomputedHash supplied = .ok (row, db'))
    (hother : db.fetchByHash (some contentHash) = none → write.recordState = .active →
      ∀ signature, CRDTStore.resolveHashAndSignature host write.canonicalBody none precomputedHash
        supplied ≠ .ok (some contentHash, signature))
    (hinactive : Inactive contentHash db) : Inactive contentHash db' := by
  obtain ⟨resolved, signature, hresolve, hcases⟩ := CRDTStore.put_cases h
  rcases hcases with ⟨rfl, -⟩ | ⟨hrow, -, hrows, -⟩
  · exact hinactive
  · intro other hmem hhash hactive
    rw [hrows] at hmem
    rcases List.mem_append.1 hmem with hold | hnew
    · exact hinactive other hold hhash hactive
    · rw [List.mem_singleton.1 hnew] at hhash hactive
      rw [hrow.recordState] at hactive
      have hmissing := Db.fetchByHash_of_append hrows hhash
      rw [hrow.contentHash] at hhash
      rw [hhash] at hresolve
      exact hother hmissing hactive signature hresolve

namespace MemoryOp

theorem inactive_writeMemory {now transactionStart : Time} {data : MemoryWriteRequest}
    (hreadmits : ¬(writeMemory now transactionStart data).Readmits host db contentHash)
    (hinactive : Inactive contentHash db) :
    Inactive contentHash ((writeMemory now transactionStart data).run host db) := by
  dsimp only [run]
  split
  · rename_i record db' hwrite
    rcases MemoryService.writeMemory_eq_ok hwrite with ⟨-, rfl⟩ | ⟨-, version, written, -, hput, rfl⟩
    · exact hinactive
    · have hwritten : Inactive contentHash written := by
        refine inactive_put hput (fun hmissing _ signature hresolve => ?_) hinactive
        exact hreadmits ⟨hmissing, version, _, signature, hresolve⟩
      split
      · exact (NoneActivated.applySupersedeRules record).inactive hwritten
      · exact hwritten
  · exact hinactive

/-- A round adds rows only, so what is missing later was missing before. -/
theorem inactive_reconcileWith {now : Time} {peer : Peer} {cached : Option MerkleSummary}
    {workflowId : Option UUID}
    (hreadmits : ¬(reconcileWith now peer cached workflowId).Readmits host db contentHash)
    (hinactive : Inactive contentHash db) :
    Inactive contentHash ((reconcileWith now peer cached workflowId).run host db) := by
  suffices hround : (∀ row ∈ db.memoryRecords.rows,
      row ∈ (GossipService.reconcileWith host now db peer cached workflowId).2.memoryRecords.rows) ∧
      Inactive contentHash (GossipService.reconcileWith host now db peer cached workflowId).2
    from hround.2
  refine GossipService.reconcileWith_keeps (I := fun table =>
    (∀ row ∈ db.memoryRecords.rows, row ∈ table.rows) ∧
      Inactive contentHash { db with memoryRecords := table })
    cached workflowId (fun batch records hrecords record hrecord => ?_)
    ⟨fun _ hrow => hrow, hinactive⟩
  intro before workflowUuid sourceAgentUuid memoryType row after _ hput h
  refine ⟨fun other hother => ?_, ?_⟩
  · obtain ⟨_, _, _, hcases⟩ := CRDTStore.put_cases hput
    rcases hcases with ⟨rfl, -⟩ | ⟨-, -, hrows, -⟩
    · exact h.1 other hother
    · rw [hrows]
      exact List.mem_append_left _ (h.1 other hother)
  · have hbefore : Inactive contentHash before := h.2
    have hafter : Inactive contentHash after := by
      refine inactive_put hput (fun hmissing hactive signature hresolve => ?_) hbefore
      refine hreadmits ⟨?_, batch, records, hrecords, record, hrecord, hactive, workflowUuid,
        sourceAgentUuid, memoryType, signature, hresolve⟩
      rw [Db.fetchByHash, Option.bind_some, List.find?_eq_none] at hmissing ⊢
      exact fun other hother => hmissing other (h.1 other hother)
    exact hafter

theorem inactive_tombstoneMemory {now : Time} {request : TombstoneRequest}
    (hreadmits : ¬(tombstoneMemory now request).Readmits host db contentHash)
    (hinactive : Inactive contentHash db) :
    Inactive contentHash ((tombstoneMemory now request).run host db) := by
  dsimp only [run]
  split
  case h_2 => exact hinactive
  case h_1 record db' haccepted =>
    obtain ⟨target, workflowId, written, -, -, -, hput, rfl⟩ :=
      MemoryService.tombstoneMemory_eq_ok haccepted
    refine (NoneActivated.assignRecordState _ (by decide)).inactive ?_
    refine inactive_put hput (fun hmissing _ signature hresolve => ?_) hinactive
    rcases CRDTStore.resolve_contentHash hresolve with ⟨-, hsame⟩ | ⟨hnone, -⟩
    · exact hreadmits ⟨hmissing, (Option.some.inj (hsame _ rfl)).symm⟩
    · cases hnone

/-- An operation that does not readmit the hash keeps it inactive. -/
theorem run_inactive (op : MemoryOp) (hreadmits : ¬op.Readmits host db contentHash)
    (hinactive : Inactive contentHash db) : Inactive contentHash (op.run host db) := by
  cases op with
  | writeMemory now transactionStart data => exact inactive_writeMemory hreadmits hinactive
  | reconcileWith now peer cached workflowId => exact inactive_reconcileWith hreadmits hinactive
  | tombstoneMemory now request => exact inactive_tombstoneMemory hreadmits hinactive
  | deleteMemory now memoryId =>
    dsimp only [run]
    split
    · rename_i hdelete
      exact (NoneActivated.deleteMemory hdelete).inactive hinactive
    · exact hinactive
  | garbageCollect now limit semanticCacheMaxEntries policy maxAgeHours minConfidence =>
    exact (NoneActivated.garbageCollect now limit semanticCacheMaxEntries policy maxAgeHours
      minConfidence).inactive hinactive
  | elsewhere now tables => exact hinactive

/-- An accepted tombstone makes the hash of its target inactive. -/
theorem inactive_of_accepted {now : Time} {request : TombstoneRequest}
    (haccepted : ∃ result, MemoryService.tombstoneMemory host db now request = .ok result) :
    Inactive request.targetHash ((tombstoneMemory now request).run host db) := by
  obtain ⟨⟨record, db'⟩, haccepted⟩ := haccepted
  have hrun : (tombstoneMemory now request).run host db = db' := by
    dsimp only [run]
    rw [haccepted]
  rw [hrun]
  obtain ⟨target, workflowId, written, hfound, -, -, hput, rfl⟩ :=
    MemoryService.tombstoneMemory_eq_ok haccepted
  have hhash : target.contentHash = some request.targetHash := by
    simpa using List.find?_some hfound
  have htarget : target ∈ written.memoryRecords.rows := by
    have hmem : target ∈ db.memoryRecords.rows := List.mem_of_find?_eq_some hfound
    obtain ⟨_, _, _, hcases⟩ := CRDTStore.put_cases hput
    rcases hcases with ⟨rfl, -⟩ | ⟨-, -, hrows, -⟩
    · exact hmem
    · rw [hrows]
      exact List.mem_append_left _ hmem
  intro row hrow hsame
  obtain ⟨old, hold, rfl⟩ := List.mem_map.1 hrow
  by_cases hid : old.memoryId = target.memoryId
  · simp [hid]
  · have hold' : memorySchema.unique old = some request.targetHash := by
      show old.contentHash = some request.targetHash
      simpa [hid] using hsame
    have hunique : old = target := Table.eq_of_unique hold htarget hold' hhash
    exact absurd (congrArg MemoryRecord.memoryId hunique) hid

end MemoryOp

/-! ## Histories -/

/-- After the node has accepted a tombstone, its target is not active in any
later state, when no later operation readmits the hash. -/
theorem inactive_of_notReadmitted (host : Host) (start : Db) (earlier : List MemoryOp)
    (now : Time) (request : TombstoneRequest) (later : List MemoryOp)
    (haccepted : ∃ result, MemoryService.tombstoneMemory host (afterOps host start earlier) now
      request = .ok result)
    (hlater : ∀ step ∈ opSteps host (afterOps host start (earlier ++ [.tombstoneMemory now request]))
      later, ¬step.2.Readmits host step.1 request.targetHash) :
    ∀ sofar, sofar <+: later →
      Inactive request.targetHash
        (afterOps host start (earlier ++ .tombstoneMemory now request :: sofar)) := by
  intro sofar hsofar
  obtain ⟨rest, rfl⟩ := hsofar
  rw [opSteps, Transition.steps_append] at hlater
  rw [afterOps, Transition.after_append, Transition.after_cons]
  have hstart : afterOps host start (earlier ++ [.tombstoneMemory now request]) =
      (MemoryOp.tombstoneMemory now request).run host (afterOps host start earlier) :=
    Transition.after_append start earlier _
  rw [hstart] at hlater
  refine Transition.after_invariant (f := MemoryOp.run host) (I := Inactive request.targetHash)
    (P := fun step => ¬step.2.Readmits host step.1 request.targetHash)
    (fun db op hop hinactive => op.run_inactive hop hinactive)
    (fun step hstep => hlater step (List.mem_append_left _ hstep)) ?_
  exact MemoryOp.inactive_of_accepted haccepted

/-! ## A record that is written again -/

namespace ReadmissionExample

open CRDTStore.ContractExample

/-- The signature of the author's key pair. -/
def signature : String := encodeMultibase pair.publicBytes

/-- A fact that its author has signed. -/
def data : MemoryWriteRequest where
  workflowId := UUID.ofNat 1
  memoryType := .fact
  content := "claim"
  confidence := 1
  authorDid := some author
  signature := some signature
  contentLength := MemoryWriteRequest.contentLength_claim
  confidenceRange := MemoryWriteRequest.confidenceRange_one
  ttlPositive := MemoryWriteRequest.ttlPositive_none

/-- The fact is written at a time. -/
def fact (now : Time) : MemoryOp := .writeMemory now now data

/-- The author's tombstone for the record with the hash. -/
def request (targetHash contentHash : String) : TombstoneRequest where
  targetHash := targetHash
  authorDid := author
  signature := signature
  contentHash := contentHash

/-- The hash of the fact. -/
def factHash : String := "z111111111111111111111111111111153"

/-- The hash of its tombstone. -/
def tombstoneHash : String := "z1111111111111111111111111111116p"

/-- The rows that come first. -/
def firstRows : MemoryService.RowLimit where
  choose rows := rows.take MemoryService.gcBatch
  subset _ _ hrow := List.mem_of_mem_take hrow
  length_le _ := List.length_take_le _ _
  complete _ hlength _ hrow := by rwa [List.take_of_length_le hlength]

/-- A collection after the grace period. -/
def collection : MemoryOp := .garbageCollect (25 * hour) firstRows 0 none none (.finite 0)

end ReadmissionExample

open CRDTStore.ContractExample ReadmissionExample in
/-- The same fact again, before the collection, does not become active. -/
theorem inactive_of_duplicate :
    let hash := encodeMultibase (List.replicate 32 0)
    Inactive hash (afterOps oneDigest start
      ([fact 0] ++ [.tombstoneMemory hour (request hash hash), fact (2 * hour)])) := by
  intro hash
  have hok : (MemoryService.tombstoneMemory oneDigest (afterOps oneDigest start [fact 0])
      hour (request hash hash)).toOption.isSome = true := by
    decide +kernel
  refine inactive_of_notReadmitted oneDigest start [fact 0] hour (request hash hash)
    [fact (2 * hour)] ?_ (fun step hstep hreadmits => ?_) [fact (2 * hour)] (List.prefix_refl _)
  · cases hresult : MemoryService.tombstoneMemory oneDigest (afterOps oneDigest start [fact 0])
        hour (request hash hash) with
    | ok result => exact ⟨result, rfl⟩
    | error error =>
      rw [hresult] at hok
      cases hok
  · have hfound : ((afterOps oneDigest start ([fact 0] ++
        [.tombstoneMemory hour (request hash hash)])).fetchByHash (some hash)).isSome = true := by
      decide +kernel
    rw [List.mem_singleton.1 hstep] at hreadmits
    have hmissing : (afterOps oneDigest start ([fact 0] ++
        [.tombstoneMemory hour (request hash hash)])).fetchByHash (some hash) = none :=
      hreadmits.1
    rw [hmissing] at hfound
    cases hfound

open CRDTStore.ContractExample ReadmissionExample in
/-- The same fact again, after the collection, becomes active. -/
theorem inactive_fails :
    ¬∀ (host : Host) (start : Db) (earlier : List MemoryOp) (now : Time)
      (request : TombstoneRequest) (later : List MemoryOp),
      (∃ result, MemoryService.tombstoneMemory host (afterOps host start earlier) now request =
        .ok result) →
      Inactive request.targetHash
        (afterOps host start (earlier ++ .tombstoneMemory now request :: later)) := by
  intro h
  have hrun : (MemoryService.tombstoneMemory Host.lengths (afterOps Host.lengths start [fact 0])
        hour (request factHash tombstoneHash)).toOption.isSome = true ∧
      ∃ row ∈ (afterOps Host.lengths start ([fact 0] ++
        .tombstoneMemory hour (request factHash tombstoneHash) ::
          [collection, fact (26 * hour)])).memoryRecords.rows,
        row.contentHash = some factHash ∧ row.recordState = .active := by
    decide +kernel
  obtain ⟨hok, row, hrow, hhash, hstate⟩ := hrun
  refine h Host.lengths start [fact 0] hour (request factHash tombstoneHash)
    [collection, fact (26 * hour)] ?_ row hrow hhash hstate
  cases hresult : MemoryService.tombstoneMemory Host.lengths
      (afterOps Host.lengths start [fact 0]) hour (request factHash tombstoneHash) with
  | ok result => exact ⟨result, rfl⟩
  | error error =>
    rw [hresult] at hok
    cases hok

end MassClaw
