import MassClaw.Memory.History

/-!
# Who can tombstone a signed record

The lifecycle module says that only the original author can tombstone a
record, with a signed tombstone, and that records expire.  `tombstone_memory`
and `garbage_collect` keep to that.  `delete_memory` tombstones a signed record
for anyone who calls it, and a gossip round stores a peer's record in the state
that the peer reports, which no signature covers.
-/

namespace MassClaw

/-- The record expired before the time. -/
def MemoryRecord.ExpiredAt (record : MemoryRecord) (now : Time) : Prop :=
  ∃ expiresAt, record.expiresAt = some expiresAt ∧ expiresAt < now

/-- The request was accepted; its tombstone names the record and is signed by
the author of the record. -/
structure TombstoneAccepted (host : Host) (db : Db) (now : Time) (request : TombstoneRequest)
    (record : MemoryRecord) : Prop where
  accepted : ∃ result, MemoryService.tombstoneMemory host db now request = .ok result
  target : record.contentHash = some request.targetHash
  author : record.authorDid = some request.authorDid
  verifies : ∃ workflowId, (MemoryService.tombstoneWrite request record
    workflowId).canonicalBody.VerifiesUnder host (.str request.signature) request.authorDid

/-- The two reasons for which a record may become tombstoned. -/
def LawfullyTombstoned (host : Host) (db : Db) (op : MemoryOp) (record : MemoryRecord) : Prop :=
  record.ExpiredAt op.now ∨
    ∃ now request, op = .tombstoneMemory now request ∧ TombstoneAccepted host db now request record

theorem LawfullyTombstoned.of_fixed {host : Host} {db : Db} {op : MemoryOp} {record : MemoryRecord}
    (h : LawfullyTombstoned host db op record.fixed) : LawfullyTombstoned host db op record := by
  rcases h with hexpired | ⟨now, request, hop, haccepted⟩
  · exact Or.inl hexpired
  · exact Or.inr ⟨now, request, hop, haccepted.accepted, haccepted.target, haccepted.author,
      haccepted.verifies⟩

/-- A signed record is tombstoned after the step and was not before. -/
def BecomesTombstoned (before after : Db) (record : MemoryRecord) : Prop :=
  record ∈ after.memoryRecords.rows ∧ record.isSigned = true ∧ record.recordState = .tombstoned ∧
    ¬∃ old ∈ before.memoryRecords.rows, old.memoryId = record.memoryId ∧ old.isSigned = true ∧
      old.recordState = .tombstoned

/-- The peer's record is signed and reported as tombstoned; the store does not
have it, and would accept its hash and its signature. -/
structure ImportsTombstoned (host : Host) (db : Db) (record : PeerRecord) : Prop where
  signed : record.signature.isSome
  reported : record.recordState = "tombstoned"
  missing : ∀ row ∈ db.memoryRecords.rows, row.contentHash ≠ some record.contentHash
  accepted : ∃ workflowUuid sourceAgentUuid memoryType result,
    CRDTStore.resolveHashAndSignature host
      (GossipService.writeOf record workflowUuid sourceAgentUuid memoryType).canonicalBody none
      (some record.contentHash) record.signature = .ok result

/-- The operation does not tombstone a signed record on the word of its caller
or of a peer. -/
def MemoryOp.AsksAuthor (host : Host) (db : Db) : MemoryOp → Prop
  | .deleteMemory now memoryId =>
    ∀ record ∈ db.memoryRecords.rows, record.memoryId = memoryId → record.isSigned = true →
      record.recordState = .tombstoned ∨ record.ExpiredAt now
  | .reconcileWith _ peer _ _ =>
    ∀ batch records, peer.fetchRecords host batch = .ok records →
      ∀ record ∈ records, ¬ImportsTombstoned host db record
  | _ => True

/-! ## Each operation -/

namespace MemoryOp

variable {host : Host} {db db' : Db}

/-- A write never tombstones. -/
theorem tombstones_writeMemory (P : MemoryRecord → Prop) (now transactionStart : Time)
    (data : MemoryWriteRequest) :
    Tombstones P db ((writeMemory now transactionStart data).run host db) := by
  dsimp only [run]
  split
  · rename_i record db' hwrite
    rcases MemoryService.writeMemory_eq_ok hwrite with ⟨-, rfl⟩ | ⟨-, _, written, -, hput, rfl⟩
    · exact .refl P _
    · refine (Tombstones.put hput (fun row _ htombstoned => nomatch htombstoned)).trans ?_
      split
      · exact .applySupersedeRules record
      · exact .refl P _
  · exact .refl P db

private theorem state_of_tombstoned {state : String}
    (h : (RecordState.ofValue? state).getD .active = .tombstoned) : state = "tombstoned" := by
  cases hvalue : RecordState.ofValue? state with
  | none =>
    rw [hvalue] at h
    cases h
  | some found =>
    rw [hvalue, Option.getD_some] at h
    have hfound := List.find?_some hvalue
    rw [h] at hfound
    exact (beq_iff_eq.1 hfound).symm

/-- A permitted round tombstones unsigned records only. -/
theorem tombstones_reconcileWith (now : Time) (peer : Peer) (cached : Option MerkleSummary)
    (workflowId : Option UUID)
    (hpeer : (reconcileWith now peer cached workflowId).AsksAuthor host db) :
    Tombstones (fun record => record.isSigned = false) db
      ((reconcileWith now peer cached workflowId).run host db) := by
  suffices hround : (∀ row ∈ db.memoryRecords.rows,
      row ∈ (GossipService.reconcileWith host now db peer cached workflowId).2.memoryRecords.rows) ∧
      Tombstones (fun record => record.isSigned = false) db
        (GossipService.reconcileWith host now db peer cached workflowId).2 from hround.2
  refine GossipService.reconcileWith_keeps (I := fun table =>
    (∀ row ∈ db.memoryRecords.rows, row ∈ table.rows) ∧
      Tombstones (fun record => record.isSigned = false) db { db with memoryRecords := table })
    cached workflowId (fun batch records hrecords record hrecord => ?_)
    ⟨fun _ hrow => hrow, .refl _ _⟩
  · intro before workflowUuid sourceAgentUuid memoryType row after _ hput h
    obtain ⟨contentHash, signature, hresolve, hcases⟩ := CRDTStore.put_cases hput
    rcases hcases with ⟨rfl, -⟩ | ⟨hrow, -, hrows, -⟩
    · exact h
    · have hstep : Tombstones (fun record => record.isSigned = false) before after := by
        refine .append hrows (fun htombstoned => ?_)
        rw [hrow.recordState] at htombstoned
        cases hsignature : record.signature with
        | none =>
          rw [hsignature] at hresolve
          have htext := hrow.signature
          rw [CRDTStore.resolve_unsigned hresolve] at htext
          show (row.contentHash.isSome && row.signature.isSome) = false
          rw [Option.map_eq_none_iff.1 htext.symm, Option.isSome_none, Bool.and_false]
        | some supplied =>
          refine absurd ?_ (hpeer batch records hrecords record hrecord)
          refine ⟨by rw [hsignature]; rfl, state_of_tombstoned htombstoned, ?_,
            _, _, _, _, hresolve⟩
          intro old hold
          refine Table.unique_ne_of_append hrows ?_ (h.1 old hold)
          show row.contentHash = some record.contentHash
          rw [hrow.contentHash]
          rcases CRDTStore.resolve_contentHash hresolve with ⟨-, hsame⟩ | ⟨-, hnone, -⟩
          · exact hsame _ rfl
          · cases hnone
      refine ⟨fun other hother => ?_, h.2.trans hstep⟩
      rw [hrows]
      exact List.mem_append_left _ (h.1 other hother)

/-- An accepted tombstone request tombstones the record it is made for. -/
theorem tombstones_tombstoneMemory (now : Time) (request : TombstoneRequest) :
    Tombstones (fun record => TombstoneAccepted host db now request record) db
      ((tombstoneMemory now request).run host db) := by
  dsimp only [run]
  split
  case h_2 => exact .refl _ db
  case h_1 record db' haccepted =>
    have hresult := haccepted
    obtain ⟨target, workflowId, written, hfound, hassert, -, hput, rfl⟩ :=
      MemoryService.tombstoneMemory_eq_ok haccepted
    have htarget : target ∈ db.memoryRecords.rows := List.mem_of_find?_eq_some hfound
    have hhash : target.contentHash = some request.targetHash := by
      simpa using List.find?_some hfound
    have hauthor : target.authorDid = some request.authorDid := by
      unfold assertCanTombstone at hassert
      split at hassert
      · cases hassert
      · split at hassert
        · cases hassert
        · rename_i authorDid hdid
          split at hassert
          · rename_i hsame
            rw [hdid, hsame]
          · cases hassert
    obtain ⟨_, _, hresolve, hcases⟩ := CRDTStore.put_cases hput
    obtain ⟨-, did, decoded, key, bytes, hbody, hkey, hdecoded, hbytes, hverify⟩ :=
      CRDTStore.resolve_verified hresolve
    have hdid : did = request.authorDid := by
      have hsame : some (Json.str request.authorDid) = some (Json.str did) := hbody
      simpa using hsame.symm
    have hlawful : TombstoneAccepted host db now request target.fixed :=
      { accepted := ⟨_, hresult⟩
        target := hhash
        author := hauthor
        verifies := ⟨workflowId, decoded, key, bytes, hdecoded, hdid ▸ hkey, hbytes, hverify⟩ }
    refine (Tombstones.put hput (fun _ _ htombstoned => nomatch htombstoned)).trans ?_
    refine .assignRecordState (fun _ row hrow hselected => ?_)
    have hid : row.memoryId = target.memoryId := by simpa using hselected
    have hsame : row = target := by
      rcases hcases with ⟨rfl, -⟩ | ⟨-, hnew, hrows, -⟩
      · exact Table.eq_of_rowId hrow htarget hid
      · rw [hrows] at hrow
        rcases List.mem_append.1 hrow with hold | hlast
        · exact Table.eq_of_rowId hold htarget hid
        · rw [List.mem_singleton.1 hlast, hnew] at hid
          exact absurd hid (Nat.ne_of_gt (db.memoryRecords.below target htarget))
    rw [hsame]
    exact Or.inr hlawful

/-- Step 1 of a collection tombstones expired records. -/
theorem tombstones_expired (db : Db) (now : Time) (limit : MemoryService.RowLimit) :
    Tombstones (fun record => record.ExpiredAt now) db
      (db.assignRecordState (fun row => row.memoryId ∈
        (limit.choose (db.memoryRecords.rows.filter (MemoryService.isExpired now))).map
          MemoryRecord.memoryId) .tombstoned) := by
  refine .assignRecordState (fun _ row hrow hselected => Or.inr ?_)
  obtain ⟨other, hother, hid⟩ := List.mem_map.1 (of_decide_eq_true hselected)
  obtain ⟨hmem, hexpired⟩ := List.mem_filter.1 (limit.subset _ other hother)
  have hsame : other = row := Table.eq_of_rowId hmem hrow hid
  rw [hsame, MemoryService.isExpired, Bool.and_eq_true, Option.any_eq_true] at hexpired
  obtain ⟨expiresAt, hexpiresAt, hpast⟩ := hexpired.1
  exact ⟨expiresAt, hexpiresAt, of_decide_eq_true hpast⟩

/-- A collection tombstones expired records. -/
theorem tombstones_garbageCollect (now : Time) (limit : MemoryService.RowLimit)
    (semanticCacheMaxEntries : Int) (policy : Option GCRunPolicy) (maxAgeHours : Option Int)
    (minConfidence : PyFloat) :
    Tombstones (fun record => record.ExpiredAt now) db
      ((garbageCollect now limit semanticCacheMaxEntries policy maxAgeHours
        minConfidence).run host db) := by
  refine MemoryService.garbageCollect_rule (I := Tombstones (fun record => record.ExpiredAt now) db)
    (fun _ select h => h.trans (.deleteMemoryRecords select)) (fun _ select h => ?_)
    (fun _ h => h.trans (tombstones_expired _ now limit)) (.refl _ db)
  exact h.trans (.assignRecordState (fun htombstoned => nomatch htombstoned))

/-- A permitted deletion tombstones unsigned and expired records. -/
theorem tombstones_deleteMemory (now : Time) (memoryId : RowId)
    (hasks : (deleteMemory now memoryId).AsksAuthor host db) :
    Tombstones (fun record => record.isSigned = true → record.ExpiredAt now) db
      ((deleteMemory now memoryId).run host db) := by
  dsimp only [run]
  split
  case h_2 => exact .refl _ db
  case h_1 db' hdelete =>
    refine Tombstones.map (g := fun row =>
        if row.memoryId = memoryId then MemoryService.deletedRow row else row)
      (fun row' hrow' => ?_) (fun row => ?_) (fun row hrow htombstoned => ?_)
    · rw [MemoryService.rows_deleteMemory hdelete] at hrow'
      obtain ⟨row, hrow, heq⟩ := List.mem_map.1 hrow'
      exact ⟨row, hrow, heq.symm⟩
    · dsimp only [MemoryService.deletedRow]
      split
      · split <;> rfl
      · rfl
    · split at htombstoned
      · rename_i hid
        by_cases hsigned : row.isSigned = true
        · rcases hasks row hrow hid hsigned with hold | hexpired
          · exact Or.inl hold
          · exact Or.inr (fun _ => hexpired)
        · exact Or.inr (fun hfixed => absurd hfixed hsigned)
      · exact Or.inl htombstoned

/-- A permitted operation tombstones signed records lawfully. -/
theorem run_tombstones (op : MemoryOp) (hasks : op.AsksAuthor host db) :
    Tombstones (fun record => record.isSigned = true → LawfullyTombstoned host db op record) db
      (op.run host db) := by
  cases op with
  | writeMemory now transactionStart data => exact tombstones_writeMemory _ now transactionStart data
  | reconcileWith now peer cached workflowId =>
    refine (tombstones_reconcileWith now peer cached workflowId hasks).mono ?_
    intro record hunsigned hsigned
    rw [hunsigned] at hsigned
    cases hsigned
  | tombstoneMemory now request =>
    refine (tombstones_tombstoneMemory now request).mono ?_
    intro record haccepted _
    exact Or.inr ⟨now, request, rfl, haccepted⟩
  | deleteMemory now memoryId =>
    refine (tombstones_deleteMemory now memoryId hasks).mono ?_
    intro record hexpired hsigned
    exact Or.inl (hexpired hsigned)
  | garbageCollect now limit semanticCacheMaxEntries policy maxAgeHours minConfidence =>
    refine (tombstones_garbageCollect now limit semanticCacheMaxEntries policy maxAgeHours
      minConfidence).mono ?_
    intro record hexpired _
    exact Or.inl hexpired
  | elsewhere now tables => exact .congr rfl

end MemoryOp

/-! ## Histories -/

/-- Every signed record that a history tombstones becomes so at one of its
steps, and at each such step for a lawful reason. -/
structure TombstonedLawfully (host : Host) (start : Db) (ops : List MemoryOp) : Prop where
  reason : ∀ step ∈ opSteps host start ops, ∀ record,
    BecomesTombstoned step.1 (step.2.run host step.1) record →
      LawfullyTombstoned host step.1 step.2 record
  moment : ∀ record ∈ (afterOps host start ops).memoryRecords.rows, record.isSigned = true →
    record.recordState = .tombstoned → ∃ step ∈ opSteps host start ops, ∃ record',
      record'.memoryId = record.memoryId ∧
        BecomesTombstoned step.1 (step.2.run host step.1) record'

/-- In a history whose operations ask the author, signed records are
tombstoned lawfully. -/
theorem tombstonedLawfully_of_asksAuthor (host : Host) (start : Db) (ops : List MemoryOp)
    (hstart : NoMemoryRecords start)
    (hasks : ∀ step ∈ opSteps host start ops, step.2.AsksAuthor host step.1) :
    TombstonedLawfully host start ops := by
  constructor
  · intro step hstep record hbecomes
    obtain ⟨hmem, hsigned, hstate, hnot⟩ := hbecomes
    rcases step.2.run_tombstones (hasks step hstep) record hmem hstate with
      ⟨old, hold, hfixed, hstate'⟩ | hlawful
    · refine absurd ⟨old, hold, ?_, ?_, hstate'⟩ hnot
      · show old.fixed.memoryId = record.fixed.memoryId
        rw [hfixed]
      · show old.fixed.isSigned = true
        rw [hfixed]
        exact hsigned
    · exact (hlawful hsigned).of_fixed
  · intro record hrecord hsigned hstate
    let isTombstoned (db : Db) : Prop := ∃ old ∈ db.memoryRecords.rows,
      old.memoryId = record.memoryId ∧ old.isSigned = true ∧ old.recordState = .tombstoned
    have hnone : ¬isTombstoned start := by
      intro ⟨old, hold, _⟩
      rw [hstart] at hold
      cases hold
    obtain ⟨step, hstep, hbefore, row, hrow, hid, hsigned', hstate'⟩ :=
      Transition.exists_step_of_after (Q := isTombstoned) hnone
        ⟨record, hrecord, rfl, hsigned, hstate⟩
    refine ⟨step, hstep, row, hid, hrow, hsigned', hstate', ?_⟩
    rw [hid]
    exact hbefore

/-! ## A record of one author -/

namespace TombstoneExample

open GossipService ImportExample

/-- An author writes a signed record. -/
def write : MemoryOp := .writeMemory 0 0
  { workflowId := UUID.ofNat 1
    memoryType := .fact
    content := "claim"
    confidence := 1
    authorDid := some victim
    signature := some "z1"
    contentLength := MemoryWriteRequest.contentLength_claim
    confidenceRange := MemoryWriteRequest.confidenceRange_one
    ttlPositive := MemoryWriteRequest.ttlPositive_none }

/-- Its author asks for a tombstone. -/
def request : TombstoneRequest where
  targetHash := forgedHash constant
  authorDid := victim
  signature := "z1"
  contentHash := forgedHash constant

/-- Anyone deletes it. -/
def deletion : MemoryOp := .deleteMemory 1 0

end TombstoneExample

open GossipService ImportExample TombstoneExample in
/-- The author's request tombstones the record. -/
theorem tombstonedLawfully_of_request :
    (∃ record ∈ (afterOps constant start
        [write, .tombstoneMemory 1 request]).memoryRecords.rows,
      record.isSigned = true ∧ record.recordState = .tombstoned) ∧
    TombstonedLawfully constant start [write, .tombstoneMemory 1 request] := by
  refine ⟨by decide +kernel, ?_⟩
  refine tombstonedLawfully_of_asksAuthor constant start _ rfl (fun step hstep => ?_)
  rcases List.mem_cons.1 hstep with rfl | hstep
  · trivial
  · rw [List.mem_singleton.1 hstep]
    trivial

open GossipService ImportExample TombstoneExample in
/-- A deletion tombstones the record although it has not expired and its author
has signed nothing. -/
theorem tombstonedLawfully_fails :
    ¬∀ (host : Host) (start : Db) (ops : List MemoryOp), NoMemoryRecords start →
      TombstonedLawfully host start ops := by
  intro h
  have hlawful := h constant start [write, deletion] rfl
  have hrows : ((write.run constant start).memoryRecords.rows.map
      (fun row => row.recordState)) = [.active] := by
    decide +kernel
  have hrows' : ((deletion.run constant (write.run constant start)).memoryRecords.rows.map
      (fun row => (row.isSigned, row.recordState, row.expiresAt))) =
        [(true, .tombstoned, none)] := by
    decide +kernel
  have hmem := List.mem_singleton_self (true, RecordState.tombstoned, (none : Option Time))
  rw [← hrows'] at hmem
  obtain ⟨record, hrecord, hcolumns⟩ := List.mem_map.1 hmem
  obtain ⟨hsigned, hcolumns⟩ := Prod.mk.inj hcolumns
  obtain ⟨hstate, hexpiresAt⟩ := Prod.mk.inj hcolumns
  have hbecomes : BecomesTombstoned (write.run constant start)
      (deletion.run constant (write.run constant start)) record := by
    refine ⟨hrecord, hsigned, hstate, ?_⟩
    intro ⟨old, hold, _, _, htombstoned⟩
    have hactive := List.mem_map_of_mem (f := MemoryRecord.recordState) hold
    rw [hrows, htombstoned] at hactive
    cases hactive with
    | tail _ hnil => cases hnil
  have hreason := hlawful.reason (write.run constant start, deletion)
    (List.mem_cons_of_mem _ List.mem_cons_self) record
  dsimp only at hreason
  rcases hreason hbecomes with ⟨_, hexpired, _⟩ | ⟨_, _, hop, _⟩
  · rw [hexpiresAt] at hexpired
    cases hexpired
  · cases hop

end MassClaw
