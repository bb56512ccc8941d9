import MassClaw.Crdt.Import
import MassClaw.Lib.Transition
import MassClaw.Memory.Lifecycle

/-!
# Histories of the memory store

A history performs the operations of the store in any order: writes, gossip
rounds, tombstones, deletions and collections.  An operation that raises is
rolled back; a round keeps what it wrote before the exception.

`Tombstones P` relates the databases before and after some statements: a row
that is tombstoned afterwards was so before, or has the property `P`.  It is
stated for the columns that no statement changes, so that statements can be
chained.  Each operation is then a chain of lookups in this calculus.
-/

namespace MassClaw

/-- An operation of the store with its arguments, at a time. -/
inductive MemoryOp
  | writeMemory (now transactionStart : Time) (data : MemoryWriteRequest)
  | reconcileWith (now : Time) (peer : Peer) (cached : Option MerkleSummary)
      (workflowId : Option UUID)
  | tombstoneMemory (now : Time) (request : TombstoneRequest)
  | deleteMemory (now : Time) (memoryId : RowId)
  | garbageCollect (now : Time) (limit : MemoryService.RowLimit) (semanticCacheMaxEntries : Int)
      (policy : Option GCRunPolicy) (maxAgeHours : Option Int) (minConfidence : PyFloat)
  /-- Other services write the other tables. -/
  | elsewhere (now : Time) (tables : Db)

namespace MemoryOp

/-- The database after the operation. -/
def run (host : Host) (db : Db) : MemoryOp → Db
  | writeMemory now transactionStart data =>
    match MemoryService.writeMemory host db now transactionStart data with
    | .ok (_, db') => db'
    | .error _ => db
  | reconcileWith now peer cached workflowId =>
    (GossipService.reconcileWith host now db peer cached workflowId).2
  | tombstoneMemory now request =>
    match MemoryService.tombstoneMemory host db now request with
    | .ok (_, db') => db'
    | .error _ => db
  | deleteMemory _ memoryId =>
    match MemoryService.deleteMemory db memoryId with
    | .ok db' => db'
    | .error _ => db
  | garbageCollect now limit semanticCacheMaxEntries policy maxAgeHours minConfidence =>
    (MemoryService.garbageCollect db now limit semanticCacheMaxEntries policy maxAgeHours
      minConfidence).2
  | elsewhere _ tables => { tables with memoryRecords := db.memoryRecords }

/-- The time of the operation. -/
def now : MemoryOp → Time
  | writeMemory now _ _ => now
  | reconcileWith now _ _ _ => now
  | tombstoneMemory now _ => now
  | deleteMemory now _ => now
  | garbageCollect now _ _ _ _ _ => now
  | elsewhere now _ => now

end MemoryOp

/-- A database before the first memory record. -/
def NoMemoryRecords (db : Db) : Prop := db.memoryRecords.rows = []

/-- The database after a history. -/
abbrev afterOps (host : Host) (start : Db) (ops : List MemoryOp) : Db :=
  Transition.after (MemoryOp.run host) start ops

/-- Each operation of a history with the database that it meets. -/
abbrev opSteps (host : Host) (start : Db) (ops : List MemoryOp) : List (Db × MemoryOp) :=
  Transition.steps (MemoryOp.run host) start ops

/-- A collection deletes rows, archives rows, and in its first step assigns
TOMBSTONED to rows that have expired. -/
theorem MemoryService.garbageCollect_rule {I : Db → Prop} {db : Db} {now : Time}
    {limit : RowLimit} {semanticCacheMaxEntries : Int} {policy : Option GCRunPolicy}
    {maxAgeHours : Option Int} {minConfidence : PyFloat}
    (hdelete : ∀ db select, I db → I (db.deleteMemoryRecords select))
    (harchive : ∀ db select, I db → I (db.assignRecordState select .historical))
    (hexpire : ∀ db, I db → I (db.assignRecordState (fun row => row.memoryId ∈
      (limit.choose (db.memoryRecords.rows.filter (isExpired now))).map MemoryRecord.memoryId)
        .tombstoned))
    (h : I db) :
    I (garbageCollect db now limit semanticCacheMaxEntries policy maxAgeHours minConfidence).2 := by
  unfold garbageCollect
  dsimp only
  have hcache : ∀ policy, I (collectSemanticCache db now policy semanticCacheMaxEntries).2 := by
    intro policy
    unfold collectSemanticCache
    dsimp only
    split
    · exact hdelete _ _ h
    · exact hdelete _ _ (hdelete _ _ h)
  have hexpired := hexpire _ (hcache (policy.getD
    { lowConfidenceThreshold := minConfidence, hardDeleteMaxAgeHours := maxAgeHours }))
  split
  · exact hdelete _ _ (harchive _ _ (hdelete _ _ hexpired))
  · exact hdelete _ _ (hdelete _ _ (harchive _ _ (hdelete _ _ hexpired)))

/-! ## Revised rows -/

/-- Every row of `after` is a row of `before`, up to its state and its parent. -/
def Revises (before after : Db) : Prop :=
  ∀ row ∈ after.memoryRecords.rows, ∃ old ∈ before.memoryRecords.rows,
    row = { old with recordState := row.recordState, parentVersionId := row.parentVersionId }

namespace Revises

variable {db db' db'' : Db}

theorem refl (db : Db) : Revises db db := fun row hrow => ⟨row, hrow, rfl⟩

theorem trans (h : Revises db db') (h' : Revises db' db'') : Revises db db'' := by
  intro row hrow
  obtain ⟨old, hold, heq⟩ := h' row hrow
  obtain ⟨older, holder, heq'⟩ := h old hold
  refine ⟨older, holder, ?_⟩
  rw [heq'] at heq
  exact heq

theorem assignRecordState (select : MemoryRecord → Bool) (state : RecordState) :
    Revises db (db.assignRecordState select state) := by
  intro row hrow
  obtain ⟨old, hold, rfl⟩ := List.mem_map.1 hrow
  refine ⟨old, hold, ?_⟩
  split <;> rfl

theorem deleteMemoryRecords (select : MemoryRecord → Bool) :
    Revises db (db.deleteMemoryRecords select) := by
  intro row hrow
  obtain ⟨old, hold, rfl⟩ := List.mem_map.1 hrow
  refine ⟨old, List.mem_of_mem_filter hold, ?_⟩
  split <;> rfl

theorem applySupersedeRules (newRecord : MemoryRecord) :
    Revises db (MemoryService.applySupersedeRules db newRecord) := by
  obtain ⟨select, _, hrows⟩ := MemoryService.rows_applySupersedeRules db newRecord
  intro row hrow
  rw [hrows] at hrow
  obtain ⟨old, hold, rfl⟩ := List.mem_map.1 hrow
  refine ⟨old, hold, ?_⟩
  split <;> rfl

theorem garbageCollect (now : Time) (limit : MemoryService.RowLimit)
    (semanticCacheMaxEntries : Int) (policy : Option GCRunPolicy) (maxAgeHours : Option Int)
    (minConfidence : PyFloat) :
    Revises db (MemoryService.garbageCollect db now limit semanticCacheMaxEntries policy
      maxAgeHours minConfidence).2 :=
  MemoryService.garbageCollect_rule (I := Revises db)
    (fun _ select h => h.trans (.deleteMemoryRecords select))
    (fun _ select h => h.trans (.assignRecordState select _))
    (fun _ h => h.trans (.assignRecordState _ _)) (.refl db)

end Revises

/-! ## Tombstoned rows -/

/-- The columns that no statement changes. -/
def MemoryRecord.fixed (record : MemoryRecord) : MemoryRecord :=
  { record with recordState := .active, parentVersionId := none, confidence := .finite 0 }

/-- A row that is tombstoned in `after` was so in `before`, or has `P`. -/
def Tombstones (P : MemoryRecord → Prop) (before after : Db) : Prop :=
  ∀ row ∈ after.memoryRecords.rows, row.recordState = .tombstoned →
    (∃ old ∈ before.memoryRecords.rows, old.fixed = row.fixed ∧ old.recordState = .tombstoned) ∨
      P row.fixed

namespace Tombstones

variable {P : MemoryRecord → Prop} {db db' db'' : Db}

theorem congr (h : db'.memoryRecords.rows = db.memoryRecords.rows) : Tombstones P db db' := by
  intro row hrow htombstoned
  rw [h] at hrow
  exact Or.inl ⟨row, hrow, rfl, htombstoned⟩

theorem refl (P : MemoryRecord → Prop) (db : Db) : Tombstones P db db := congr rfl

theorem trans (h : Tombstones P db db') (h' : Tombstones P db' db'') : Tombstones P db db'' := by
  intro row hrow htombstoned
  rcases h' row hrow htombstoned with ⟨old, hold, hfixed, hstate⟩ | hP
  · rw [← hfixed]
    rcases h old hold hstate with ⟨older, holder, hfixed', hstate'⟩ | hP
    · exact Or.inl ⟨older, holder, hfixed', hstate'⟩
    · exact Or.inr hP
  · exact Or.inr hP

theorem mono {Q : MemoryRecord → Prop} (h : Tombstones P db db') (himp : ∀ record, P record → Q record) :
    Tombstones Q db db' := by
  intro row hrow htombstoned
  exact (h row hrow htombstoned).imp id (himp row.fixed)

/-- Rows are changed one by one, and possibly left out. -/
theorem map {g : MemoryRecord → MemoryRecord}
    (hrows : ∀ row' ∈ db'.memoryRecords.rows, ∃ row ∈ db.memoryRecords.rows, row' = g row)
    (hfixed : ∀ row, (g row).fixed = row.fixed)
    (hstate : ∀ row ∈ db.memoryRecords.rows, (g row).recordState = .tombstoned →
      row.recordState = .tombstoned ∨ P row.fixed) :
    Tombstones P db db' := by
  intro row' hrow' htombstoned
  obtain ⟨row, hrow, rfl⟩ := hrows row' hrow'
  rw [hfixed]
  rcases hstate row hrow htombstoned with hold | hP
  · exact Or.inl ⟨row, hrow, rfl, hold⟩
  · exact Or.inr hP

/-- One row is appended. -/
theorem append {row : MemoryRecord}
    (hrows : db'.memoryRecords.rows = db.memoryRecords.rows ++ [row])
    (hstate : row.recordState = .tombstoned → P row.fixed) : Tombstones P db db' := by
  intro other hother htombstoned
  rw [hrows] at hother
  rcases List.mem_append.1 hother with hold | hnew
  · exact Or.inl ⟨other, hold, rfl, htombstoned⟩
  · rw [List.mem_singleton.1 hnew] at htombstoned ⊢
    exact Or.inr (hstate htombstoned)

theorem assignRecordState {select : MemoryRecord → Bool} {state : RecordState}
    (hselect : state = .tombstoned → ∀ row ∈ db.memoryRecords.rows, select row = true →
      row.recordState = .tombstoned ∨ P row.fixed) :
    Tombstones P db (db.assignRecordState select state) := by
  refine map (g := fun row => if select row then { row with recordState := state } else row)
    (fun row' hrow' => ?_) (fun row => by split <;> rfl) (fun row hrow htombstoned => ?_)
  · obtain ⟨row, hrow, heq⟩ := List.mem_map.1 hrow'
    exact ⟨row, hrow, heq.symm⟩
  · split at htombstoned
    · rename_i hselected
      exact hselect htombstoned row hrow hselected
    · exact Or.inl htombstoned

theorem deleteMemoryRecords (select : MemoryRecord → Bool) :
    Tombstones P db (db.deleteMemoryRecords select) := by
  refine map (g := fun row =>
      if row.parentVersionId.any (· ∈ (db.memoryRecords.rows.filter select).map
        MemoryRecord.memoryId) then { row with parentVersionId := none } else row)
    (fun row' hrow' => ?_) (fun row => by split <;> rfl) (fun row hrow htombstoned => ?_)
  · obtain ⟨row, hrow, heq⟩ := List.mem_map.1 hrow'
    exact ⟨row, List.mem_of_mem_filter hrow, heq.symm⟩
  · split at htombstoned
    · exact Or.inl htombstoned
    · exact Or.inl htombstoned

theorem applySupersedeRules (newRecord : MemoryRecord) :
    Tombstones P db (MemoryService.applySupersedeRules db newRecord) := by
  obtain ⟨select, _, hrows⟩ := MemoryService.rows_applySupersedeRules db newRecord
  refine map (g := fun row => if select row then { row with recordState := .superseded } else row)
    (fun row' hrow' => ?_) (fun row => by split <;> rfl) (fun row _ htombstoned => ?_)
  · rw [hrows] at hrow'
    obtain ⟨row, hrow, heq⟩ := List.mem_map.1 hrow'
    exact ⟨row, hrow, heq.symm⟩
  · split at htombstoned
    · cases htombstoned
    · exact Or.inl htombstoned

/-- Without a key pair the store tombstones what the write says. -/
theorem put {host : Host} {now : Time} {write : MemoryWrite} {precomputedHash : Option String}
    {signature : Option Json} {row : MemoryRecord}
    (h : CRDTStore.put host db now write none precomputedHash signature = .ok (row, db'))
    (hstate : ∀ row : MemoryRecord, (signature = none → row.signature = none) →
      write.recordState = .tombstoned → P row.fixed) :
    Tombstones P db db' := by
  obtain ⟨contentHash, resolved, hresolve, hcases⟩ := CRDTStore.put_cases h
  rcases hcases with ⟨rfl, -⟩ | ⟨hrow, -, hrows, -⟩
  · exact .refl P db'
  · refine append hrows (fun htombstoned => hstate row ?_ ?_)
    · intro hsignature
      rw [hsignature] at hresolve
      have htext := hrow.signature
      rw [CRDTStore.resolve_unsigned hresolve] at htext
      exact Option.map_eq_none_iff.1 htext.symm
    · rw [← hrow.recordState]
      exact htombstoned

end Tombstones

end MassClaw
