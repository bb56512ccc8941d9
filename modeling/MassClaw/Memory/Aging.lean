import MassClaw.Lib.TableHistory
import MassClaw.Memory.Addressing

/-!
# The age of a record

`app/services/memory_lifecycle.py` draws the states of a record as a diagram:
ACTIVE, SUPERSEDED, HISTORICAL and TOMBSTONED, and no way back.  Over any history
of the store, with writers, gossip, tombstones, deletions and collections, a
record moves along the diagram and changes nothing else; what was deleted does
not come back under its id.
-/

namespace MassClaw

/-- The place of a state in the diagram. -/
def RecordState.age : RecordState → Nat
  | active => 0
  | superseded => 1
  | historical => 2
  | tombstoned => 3

/-- The row has moved along the diagram.  Its other columns are as before, except
that its parent may have been deleted, and that the deletion of a row without a
signature clears its confidence. -/
structure MemoryRecord.Ages (old row : MemoryRecord) : Prop where
  fixed : row.fixed = old.fixed
  confidence : row.confidence = old.confidence ∨ old.isSigned = false
  parent : row.parentVersionId = old.parentVersionId ∨ row.parentVersionId = none
  state : old.recordState.age ≤ row.recordState.age

namespace MemoryRecord.Ages

variable {old row later : MemoryRecord}

theorem refl (row : MemoryRecord) : row.Ages row := ⟨rfl, Or.inl rfl, Or.inl rfl, le_refl _⟩

theorem isSigned_eq (h : old.fixed = row.fixed) : old.isSigned = row.isSigned := by
  cases old
  cases row
  cases h
  rfl

theorem trans (h : old.Ages row) (h' : row.Ages later) : old.Ages later := by
  refine ⟨h'.fixed.trans h.fixed, ?_, ?_, h.state.trans h'.state⟩
  · rcases h'.confidence with hsame | hunsigned
    · rw [hsame]
      exact h.confidence
    · exact Or.inr ((isSigned_eq h.fixed).symm.trans hunsigned)
  · rcases h'.parent with hsame | hnone
    · rw [hsame]
      exact h.parent
    · exact Or.inr hnone

/-- A signed record changes its state and its parent only. -/
theorem eq_of_signed (h : old.Ages row) (hsigned : old.isSigned = true) :
    row = { old with
      recordState := row.recordState, parentVersionId := row.parentVersionId } := by
  have hfixed := h.fixed
  have hconfidence : row.confidence = old.confidence :=
    h.confidence.resolve_right (by rw [hsigned]; decide)
  cases old
  cases row
  cases hfixed
  cases hconfidence
  rfl

end MemoryRecord.Ages

/-- Rows age, and the deleted ones do not come back. -/
abbrev Db.Ages (before after : Db) : Prop :=
  Table.Evolves MemoryRecord.Ages before.memoryRecords after.memoryRecords

namespace Db.Ages

open MemoryRecord.Ages (refl)

variable {db db' db'' : Db}

theorem same (h : db'.memoryRecords = db.memoryRecords) : db.Ages db' := by
  rw [Db.Ages, h]
  exact .refl refl _

theorem andThen (h : db.Ages db') (h' : db'.Ages db'') : db.Ages db'' :=
  Table.Evolves.trans MemoryRecord.Ages.trans h h'

/-- Later states are assigned. -/
theorem assignRecordState {select : MemoryRecord → Bool} {state : RecordState}
    (hselect : ∀ row ∈ db.memoryRecords.rows, select row = true →
      row.recordState.age ≤ state.age) : db.Ages (db.assignRecordState select state) := by
  refine .of_rows rfl (fun row hrow => ?_)
  obtain ⟨old, hold, rfl⟩ := List.mem_map.1 hrow
  refine ⟨old, hold, ?_⟩
  split
  · rename_i hselected
    exact ⟨rfl, rfl, Or.inl rfl, Or.inl rfl, hselect old hold hselected⟩
  · exact ⟨rfl, refl old⟩

theorem deleteMemoryRecords (select : MemoryRecord → Bool) :
    db.Ages (db.deleteMemoryRecords select) := by
  refine .of_rows rfl (fun row hrow => ?_)
  obtain ⟨old, hold, rfl⟩ := List.mem_map.1 hrow
  refine ⟨old, List.mem_of_mem_filter hold, ?_⟩
  split
  · exact ⟨rfl, rfl, Or.inl rfl, Or.inr rfl, le_refl _⟩
  · exact ⟨rfl, refl old⟩

theorem applySupersedeRules (newRecord : MemoryRecord) :
    db.Ages (MemoryService.applySupersedeRules db newRecord) := by
  unfold MemoryService.applySupersedeRules
  split
  · exact same rfl
  · refine .of_rows rfl (fun row hrow => ?_)
    obtain ⟨old, hold, rfl⟩ := List.mem_map.1 hrow
    refine ⟨old, hold, ?_⟩
    dsimp only
    split
    · rename_i houtweighed
      refine ⟨rfl, rfl, Or.inl rfl, Or.inl rfl, ?_⟩
      rw [houtweighed.2]
      exact Nat.zero_le _
    · exact ⟨rfl, refl old⟩

theorem put {host : Host} {now : Time} {write : MemoryWrite} {keypair : Option KeyPair}
    {precomputedHash : Option String} {signature : Option Json} {row : MemoryRecord}
    (h : CRDTStore.put host db now write keypair precomputedHash signature = .ok (row, db')) :
    db.Ages db' := by
  obtain ⟨_, _, -, hcases⟩ := CRDTStore.put_cases h
  rcases hcases with ⟨rfl, -⟩ | ⟨-, hid, hrows, -⟩
  · exact same rfl
  · exact .append refl hrows hid

theorem age_le_tombstoned (state : RecordState) : state.age ≤ RecordState.tombstoned.age := by
  cases state <;> decide

theorem deleteMemory {memoryId : RowId} (h : MemoryService.deleteMemory db memoryId = .ok db') :
    db.Ages db' := by
  have hnext : db'.memoryRecords.nextId = db.memoryRecords.nextId := by
    unfold MemoryService.deleteMemory at h
    split at h
    · cases h
    · cases h
      rfl
  refine .of_rows hnext (fun row hrow => ?_)
  rw [MemoryService.rows_deleteMemory h] at hrow
  obtain ⟨old, hold, rfl⟩ := List.mem_map.1 hrow
  refine ⟨old, hold, ?_⟩
  split
  · unfold MemoryService.deletedRow
    split
    · exact ⟨rfl, rfl, Or.inl rfl, Or.inl rfl, age_le_tombstoned _⟩
    · rename_i hunsigned
      exact ⟨rfl, rfl, Or.inr (Bool.eq_false_of_not_eq_true hunsigned), Or.inl rfl,
        age_le_tombstoned _⟩
  · exact ⟨rfl, refl old⟩

section Collect

variable (now : Time) (limit : MemoryService.RowLimit)

/-- A collection assigns a state to the rows with the ids of some live rows. -/
theorem assignToLive {isDue keep : MemoryRecord → Bool} {state : RecordState}
    (hstate : RecordState.historical.age ≤ state.age)
    (hlive : ∀ row, isDue row = true → row.recordState.isLive = true) :
    db.Ages (db.assignRecordState (fun row => decide (row.memoryId ∈
      ((limit.choose (db.memoryRecords.rows.filter isDue)).filter keep).map
        MemoryRecord.memoryId)) state) := by
  refine assignRecordState (fun row hrow hselected => ?_)
  obtain ⟨other, hother, hid⟩ := List.mem_map.1 (of_decide_eq_true hselected)
  have hdue := List.mem_filter.1 (limit.subset _ other (List.mem_of_mem_filter hother))
  have hlives := hlive other hdue.2
  rw [show other = row from Table.eq_of_rowId hdue.1 hrow hid] at hlives
  cases hrowState : row.recordState with
  | active => exact Nat.zero_le _
  | superseded => exact le_trans (by decide) hstate
  | historical => exact hstate
  | tombstoned =>
    rw [hrowState] at hlives
    cases hlives

theorem expire : db.Ages (db.assignRecordState (fun row => decide (row.memoryId ∈
    (limit.choose (db.memoryRecords.rows.filter (MemoryService.isExpired now))).map
      MemoryRecord.memoryId)) .tombstoned) := by
  have hassigned := @assignToLive db limit (MemoryService.isExpired now) (fun _ => true)
    .tombstoned (by decide) (fun row hdue => (Bool.and_eq_true_iff.1 hdue).2)
  rw [List.filter_eq_self.2 (fun _ _ => rfl)] at hassigned
  exact hassigned

theorem archive (policy : GCRunPolicy) :
    db.Ages (db.assignRecordState (fun row => decide (row.memoryId ∈
      ((limit.choose (db.memoryRecords.rows.filter (MemoryService.isArchivable now policy))).filter
        (fun row => isArchiveCandidate row.recordState row.createdAt now
          policy.archiveActiveAfterHours)).map MemoryRecord.memoryId)) .historical) :=
  assignToLive limit (le_refl _)
    (fun _ hdue => (Bool.and_eq_true_iff.1 (Bool.and_eq_true_iff.1 hdue).1).1)

theorem collectSemanticCache (policy : GCRunPolicy) (semanticCacheMaxEntries : Int) :
    db.Ages (MemoryService.collectSemanticCache db now policy semanticCacheMaxEntries).2 := by
  unfold MemoryService.collectSemanticCache
  dsimp only
  split
  · exact deleteMemoryRecords _
  · exact (deleteMemoryRecords _).andThen (deleteMemoryRecords _)

/-- A collection archives and tombstones live rows, and deletes rows. -/
theorem garbageCollect (semanticCacheMaxEntries : Int) (policy : Option GCRunPolicy)
    (maxAgeHours : Option Int) (minConfidence : PyFloat) :
    db.Ages (MemoryService.garbageCollect db now limit semanticCacheMaxEntries policy maxAgeHours
      minConfidence).2 := by
  unfold MemoryService.garbageCollect
  dsimp only
  have hexpired := (@collectSemanticCache db now (policy.getD
    { lowConfidenceThreshold := minConfidence, hardDeleteMaxAgeHours := maxAgeHours })
    semanticCacheMaxEntries).andThen (expire now limit)
  split
  · exact (hexpired.andThen (deleteMemoryRecords _)).andThen
      ((archive now limit _).andThen (deleteMemoryRecords _))
  · exact ((hexpired.andThen (deleteMemoryRecords _)).andThen
      ((archive now limit _).andThen (deleteMemoryRecords _))).andThen (deleteMemoryRecords _)

end Collect

end Db.Ages

/-! ## Every operation -/

section Operations

variable (host : Host) (db : Db)

theorem ages_writeMemory (now transactionStart : Time) (data : MemoryWriteRequest) :
    db.Ages ((MemoryOp.writeMemory now transactionStart data).run host db) := by
  dsimp only [MemoryOp.run]
  split
  · rename_i record db' hwrite
    rcases MemoryService.writeMemory_eq_ok hwrite with ⟨-, rfl⟩ | ⟨-, _, written, -, hput, rfl⟩
    · exact .same rfl
    · split
      · exact (Db.Ages.put hput).andThen (.applySupersedeRules record)
      · exact .put hput
  · exact .same rfl

/-- A round stores what the peer sends, and nothing else. -/
theorem ages_reconcileWith (now : Time) (peer : Peer) (cached : Option MerkleSummary)
    (workflowId : Option UUID) :
    db.Ages (GossipService.reconcileWith host now db peer cached workflowId).2 := by
  refine GossipService.reconcileWith_keeps
    (I := fun table => Table.Evolves MemoryRecord.Ages db.memoryRecords table) cached workflowId
    (fun _ _ _ _ _ => ?_) (.refl .refl _)
  intro before workflowUuid sourceAgentUuid memoryType row after _ hput h
  exact h.trans .trans (Db.Ages.put hput)

theorem ages_tombstoneMemory (now : Time) (request : TombstoneRequest) :
    db.Ages ((MemoryOp.tombstoneMemory now request).run host db) := by
  dsimp only [MemoryOp.run]
  split
  · rename_i record db' haccepted
    obtain ⟨target, workflowId, written, -, -, -, hput, rfl⟩ :=
      MemoryService.tombstoneMemory_eq_ok haccepted
    exact (Db.Ages.put hput).andThen
      (.assignRecordState (fun row _ _ => Db.Ages.age_le_tombstoned row.recordState))
  · exact .same rfl

theorem ages_run (op : StoreOp) : db.Ages (op.run host db) := by
  cases op with
  | put now write keypair precomputedHash precomputedSignature =>
    dsimp only [StoreOp.run]
    split
    · rename_i row db' hput
      exact .put hput
    · exact .same rfl
  | applySupersedeRules newRecord => exact .applySupersedeRules newRecord
  | memory op =>
    cases op with
    | writeMemory now transactionStart data =>
      exact ages_writeMemory host db now transactionStart data
    | reconcileWith now peer cached workflowId =>
      exact ages_reconcileWith host db now peer cached workflowId
    | tombstoneMemory now request => exact ages_tombstoneMemory host db now request
    | deleteMemory now memoryId =>
      dsimp only [StoreOp.run, MemoryOp.run]
      split
      · rename_i db' hdeleted
        exact .deleteMemory hdeleted
      · exact .same rfl
    | garbageCollect now limit semanticCacheMaxEntries policy maxAgeHours minConfidence =>
      exact .garbageCollect now limit semanticCacheMaxEntries policy maxAgeHours minConfidence
    | elsewhere now tables => exact .same rfl

end Operations

end MassClaw
