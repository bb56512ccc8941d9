import MassClaw.Memory.Addressing
import MassClaw.Memory.Readmission

/-!
# The grace period of tombstones

A collection deletes the tombstones that are older than the grace period, so
that peers can observe the state before the row is gone.  The age is taken from
`created_at`; the time at which a row became TOMBSTONED is not in the table.  An
old row that expires is tombstoned by the first step of a collection and deleted
by its second, and an old row that is tombstoned by anyone is deleted by the
next collection.

A watched store keeps, beside the database, the time since which each row has
been TOMBSTONED.
-/

namespace MassClaw

/-- `is_tombstone_gc_eligible`. -/
def isTombstoneGcEligible (recordState : RecordState) (createdAt now : Time) (graceHours : Int) :
    Bool :=
  recordState = .tombstoned && decide (graceHours * hour ≤ now - createdAt)

/-- A database, with the time since which a row has been TOMBSTONED. -/
structure Watched where
  db : Db
  since : RowId → Option Time := fun _ => none

/-- The row is in the table and TOMBSTONED. -/
def Db.isTombstoned (db : Db) (memoryId : RowId) : Bool :=
  db.memoryRecords.rows.any (fun row => row.memoryId = memoryId && row.recordState = .tombstoned)

/-- The time of an operation; `apply_supersede_rules` takes none and tombstones
nothing. -/
def StoreOp.now? : StoreOp → Option Time
  | put now _ _ _ _ => some now
  | applySupersedeRules _ => none
  | memory op => some op.now

namespace Watched

/-- The watched store after an operation. -/
def run (host : Host) (watched : Watched) (op : StoreOp) : Watched :=
  let db := op.run host watched.db
  { db
    since := fun memoryId =>
      if !db.isTombstoned memoryId then none
      else if watched.db.isTombstoned memoryId then watched.since memoryId
      else op.now? }

/-- The row has been TOMBSTONED for the given hours. -/
def TombstonedFor (watched : Watched) (memoryId : RowId) (hours : Int) (now : Time) : Prop :=
  ∃ since, watched.since memoryId = some since ∧ since + hours * hour ≤ now

/-- The policy of a run. -/
def runPolicy (policy : Option GCRunPolicy) (maxAgeHours : Option Int) (minConfidence : PyFloat) :
    GCRunPolicy :=
  policy.getD { lowConfidenceThreshold := minConfidence, hardDeleteMaxAgeHours := maxAgeHours }

/-- A collection deletes a signed row only if that has been TOMBSTONED for the
grace period when the collection runs. -/
def DeletesAfterGrace (host : Host) (watched : Watched) : StoreOp → Prop
  | .memory (.garbageCollect now limit semanticCacheMaxEntries policy maxAgeHours minConfidence) =>
    ∀ row ∈ watched.db.memoryRecords.rows, row.isSigned = true →
      (∀ kept ∈ (StoreOp.run host watched.db (.memory (.garbageCollect now limit
          semanticCacheMaxEntries policy maxAgeHours minConfidence))).memoryRecords.rows,
        kept.memoryId ≠ row.memoryId) →
      watched.TombstonedFor row.memoryId
        (runPolicy policy maxAgeHours minConfidence).tombstoneGraceHours now
  | _ => True

/-! ## What a collection selects -/

open MemoryService

/-- What the second step deletes is eligible, by its age. -/
theorem isTombstoneGcEligible_of_isOldTombstone {now : Time} {policy : GCRunPolicy}
    {row : MemoryRecord} (h : isOldTombstone now policy row = true) :
    isTombstoneGcEligible row.recordState row.createdAt now policy.tombstoneGraceHours = true := by
  rw [isOldTombstone, Bool.and_eq_true, decide_eq_true_eq, GCRunPolicy.tombstoneCutoff] at h
  rw [isTombstoneGcEligible, Bool.and_eq_true, decide_eq_true_eq]
  exact ⟨h.1, by lia⟩

/-- The rows that the semantic cache has too many. -/
def surplus (db : Db) (now : Time) (policy : GCRunPolicy) (semanticCacheMaxEntries : Int) :
    List RowId :=
  let cap := policy.cacheMaxEntries.getD semanticCacheMaxEntries
  if cap ≤ 0 then [] else cacheSurplus (db.deleteMemoryRecords (isDeadCacheEntry now)) cap.toNat

/-- The rows that the first step tombstones. -/
def expiring (db : Db) (now : Time) (limit : RowLimit) (policy : GCRunPolicy)
    (semanticCacheMaxEntries : Int) : List RowId :=
  (limit.choose ((collectSemanticCache db now policy semanticCacheMaxEntries).2.memoryRecords.rows
    |>.filter (isExpired now))).map MemoryRecord.memoryId

/-- The rows that a collection meets are as old as their state. -/
structure InGrace (watched : Watched) (now : Time) (limit : RowLimit) (policy : GCRunPolicy)
    (semanticCacheMaxEntries : Int) : Prop where
  /-- A signed row that expires is younger than the grace period. -/
  expiring : ∀ row ∈ watched.db.memoryRecords.rows, row.isSigned = true →
    row.memoryId ∈ Watched.expiring watched.db now limit policy semanticCacheMaxEntries →
      policy.tombstoneCutoff now ≤ row.createdAt
  /-- A signed tombstone that is older was TOMBSTONED before. -/
  tombstoned : ∀ row ∈ watched.db.memoryRecords.rows, row.isSigned = true →
    row.recordState = .tombstoned → row.createdAt < policy.tombstoneCutoff now →
      watched.TombstonedFor row.memoryId policy.tombstoneGraceHours now
  /-- So was a signed row that leaves with the semantic cache. -/
  cache : ∀ row ∈ watched.db.memoryRecords.rows, row.isSigned = true →
    isDeadCacheEntry now row = true ∨
        row.memoryId ∈ surplus watched.db now policy semanticCacheMaxEntries →
      watched.TombstonedFor row.memoryId policy.tombstoneGraceHours now

/-- A collection meets rows that are as old as their state. -/
def MeetsInGrace (watched : Watched) : StoreOp → Prop
  | .memory (.garbageCollect now limit semanticCacheMaxEntries policy maxAgeHours minConfidence) =>
    watched.InGrace now limit (runPolicy policy maxAgeHours minConfidence) semanticCacheMaxEntries
  | _ => True

/-! ## Rows up to their parent -/

/-- The table holds the row, whatever its parent. -/
def Holds (db : Db) (row : MemoryRecord) : Prop :=
  ∃ parentVersionId, { row with parentVersionId } ∈ db.memoryRecords.rows

/-- The condition does not ask for the parent. -/
def IgnoresParent (select : MemoryRecord → Bool) : Prop :=
  ∀ row parentVersionId, select { row with parentVersionId } = select row

theorem holds_deleteMemoryRecords (db : Db) {select : MemoryRecord → Bool}
    (hselect : IgnoresParent select) (row : MemoryRecord) :
    Holds (db.deleteMemoryRecords select) row ↔ Holds db row ∧ select row = false := by
  constructor
  · rintro ⟨parent, hrow⟩
    obtain ⟨old, hold, heq⟩ := List.mem_map.1 hrow
    obtain ⟨hmem, hkept⟩ := List.mem_filter.1 hold
    have hsame : old = { row with parentVersionId := old.parentVersionId } := by
      split at heq
      · cases old
        cases row
        simp_all
      · cases old
        cases row
        simp_all
    rw [hsame] at hmem hkept
    refine ⟨⟨_, hmem⟩, ?_⟩
    rw [hselect] at hkept
    simpa using hkept
  · rintro ⟨⟨parent, hrow⟩, hnot⟩
    have hkept : { row with parentVersionId := parent } ∈
        db.memoryRecords.rows.filter (fun row => !select row) :=
      List.mem_filter.2 ⟨hrow, by rw [hselect, hnot]; rfl⟩
    by_cases hdeleted : parent.any
        (· ∈ (db.memoryRecords.rows.filter select).map MemoryRecord.memoryId) = true
    · exact ⟨none, List.mem_map.2 ⟨_, hkept, by rw [if_pos hdeleted]⟩⟩
    · exact ⟨parent, List.mem_map.2 ⟨_, hkept, by rw [if_neg hdeleted]⟩⟩

theorem holds_assignRecordState (db : Db) {select : MemoryRecord → Bool} (state : RecordState)
    (hselect : IgnoresParent select) (row : MemoryRecord) :
    Holds (db.assignRecordState select state) row ↔
      ∃ old, Holds db old ∧ row = if select old then { old with recordState := state } else old := by
  constructor
  · rintro ⟨parent, hrow⟩
    obtain ⟨old, hold, heq⟩ := List.mem_map.1 hrow
    refine ⟨{ old with parentVersionId := row.parentVersionId }, ⟨old.parentVersionId, hold⟩, ?_⟩
    rw [hselect]
    split at heq
    · rename_i hselected
      rw [if_pos hselected]
      cases old
      cases row
      simp_all
    · rename_i hselected
      rw [if_neg hselected]
      cases old
      cases row
      simp_all
  · rintro ⟨old, ⟨parent, hold⟩, rfl⟩
    refine ⟨parent, List.mem_map.2 ⟨_, hold, ?_⟩⟩
    rw [hselect]
    split <;> rfl

/-- The table has a row with the id for which the condition holds, whatever its
parent. -/
def Has (db : Db) (memoryId : RowId) (P : MemoryRecord → Prop) : Prop :=
  ∃ row, Holds db row ∧ row.memoryId = memoryId ∧ P row

theorem has_deleteMemoryRecords (db : Db) {select : MemoryRecord → Bool}
    (hselect : IgnoresParent select) (memoryId : RowId) (P : MemoryRecord → Prop) :
    Has (db.deleteMemoryRecords select) memoryId P ↔
      Has db memoryId (fun row => P row ∧ select row = false) := by
  constructor
  · rintro ⟨row, hrow, hid, hP⟩
    obtain ⟨hold, hnot⟩ := (holds_deleteMemoryRecords db hselect row).1 hrow
    exact ⟨row, hold, hid, hP, hnot⟩
  · rintro ⟨row, hrow, hid, hP, hnot⟩
    exact ⟨row, (holds_deleteMemoryRecords db hselect row).2 ⟨hrow, hnot⟩, hid, hP⟩

/-- The row after an assignment to the rows with the ids. -/
def withState (ids : List RowId) (state : RecordState) (row : MemoryRecord) : MemoryRecord :=
  if row.memoryId ∈ ids then { row with recordState := state } else row

@[simp] theorem contentHash_withState (ids : List RowId) (state : RecordState)
    (row : MemoryRecord) : (withState ids state row).contentHash = row.contentHash := by
  unfold withState
  split <;> rfl

theorem has_assignRecordState (db : Db) (ids : List RowId) (state : RecordState)
    (memoryId : RowId) (P : MemoryRecord → Prop) :
    Has (db.assignRecordState (fun row => row.memoryId ∈ ids) state) memoryId P ↔
      Has db memoryId (fun row => P (withState ids state row)) := by
  have hselect : IgnoresParent (fun row => decide (row.memoryId ∈ ids)) := fun _ _ => rfl
  constructor
  · rintro ⟨row, hrow, hid, hP⟩
    obtain ⟨old, hold, rfl⟩ := (holds_assignRecordState db state hselect row).1 hrow
    simp only [decide_eq_true_eq] at hid hP
    refine ⟨old, hold, ?_, hP⟩
    rw [← hid]
    split <;> rfl
  · rintro ⟨row, hrow, hid, hP⟩
    refine ⟨_, (holds_assignRecordState db state hselect _).2 ⟨row, hrow, rfl⟩, ?_, ?_⟩
    · rw [← hid]
      split <;> rfl
    · simp only [decide_eq_true_eq]
      exact hP

/-- The row with an id is the one that the table holds. -/
theorem has_iff {db : Db} {row : MemoryRecord} (hrow : row ∈ db.memoryRecords.rows)
    (P : MemoryRecord → Prop) :
    Has db row.memoryId P ↔ ∃ parentVersionId, P { row with parentVersionId } := by
  constructor
  · rintro ⟨other, ⟨parent, hother⟩, hid, hP⟩
    have hsame : { other with parentVersionId := parent } = row :=
      Table.eq_of_rowId hother hrow hid
    refine ⟨other.parentVersionId, ?_⟩
    rw [← hsame]
    exact hP
  · rintro ⟨parent, hP⟩
    exact ⟨{ row with parentVersionId := parent }, ⟨row.parentVersionId, hrow⟩, rfl, hP⟩

theorem has_true_iff (db : Db) (memoryId : RowId) :
    Has db memoryId (fun _ => True) ↔ ∃ row ∈ db.memoryRecords.rows, row.memoryId = memoryId := by
  constructor
  · rintro ⟨row, ⟨parent, hrow⟩, hid, -⟩
    exact ⟨_, hrow, hid⟩
  · rintro ⟨row, hrow, hid⟩
    exact ⟨row, ⟨row.parentVersionId, hrow⟩, hid, trivial⟩

/-! ## What a collection deletes -/

theorem has_collectSemanticCache (db : Db) (now : Time) (policy : GCRunPolicy)
    (semanticCacheMaxEntries : Int) (memoryId : RowId) (P : MemoryRecord → Prop) :
    Has (collectSemanticCache db now policy semanticCacheMaxEntries).2 memoryId P ↔
      Has db memoryId (fun row => P row ∧ isDeadCacheEntry now row = false ∧
        row.memoryId ∉ surplus db now policy semanticCacheMaxEntries) := by
  have hdead : IgnoresParent (isDeadCacheEntry now) := fun _ _ => rfl
  unfold collectSemanticCache surplus
  dsimp only
  split
  · rw [has_deleteMemoryRecords _ hdead]
    simp
  · rw [has_deleteMemoryRecords _ (fun _ _ => rfl), has_deleteMemoryRecords _ hdead]
    simp only [decide_eq_false_iff_not, and_assoc, and_comm]

/-- A collection deletes a signed row exactly if the semantic cache gives it up,
or it is a tombstone older than the grace period after the first step. -/
theorem deleted_iff {db : Db} {row : MemoryRecord} (hrow : row ∈ db.memoryRecords.rows)
    (hsigned : row.isSigned = true) (now : Time) (limit : RowLimit)
    (semanticCacheMaxEntries : Int) (policy : Option GCRunPolicy) (maxAgeHours : Option Int)
    (minConfidence : PyFloat) :
    (∀ kept ∈ (garbageCollect db now limit semanticCacheMaxEntries policy maxAgeHours
        minConfidence).2.memoryRecords.rows, kept.memoryId ≠ row.memoryId) ↔
      isDeadCacheEntry now row = true ∨
      row.memoryId ∈ surplus db now (runPolicy policy maxAgeHours minConfidence)
        semanticCacheMaxEntries ∨
      ((row.recordState = .tombstoned ∨ row.memoryId ∈ Watched.expiring db now limit
          (runPolicy policy maxAgeHours minConfidence) semanticCacheMaxEntries) ∧
        row.createdAt < (runPolicy policy maxAgeHours minConfidence).tombstoneCutoff now) := by
  have hhash : row.contentHash.isNone = false := by
    rw [MemoryRecord.isSigned, Bool.and_eq_true] at hsigned
    rw [Option.isNone_eq_false_iff]
    exact hsigned.1
  have hgone : (∀ kept ∈ (garbageCollect db now limit semanticCacheMaxEntries policy maxAgeHours
      minConfidence).2.memoryRecords.rows, kept.memoryId ≠ row.memoryId) ↔
      ¬Has (garbageCollect db now limit semanticCacheMaxEntries policy maxAgeHours
        minConfidence).2 row.memoryId (fun _ => True) := by
    rw [has_true_iff]
    push Not
    rfl
  have hlegacy : ∀ policy (other : MemoryRecord), other.contentHash = row.contentHash →
      isLegacy policy other = false := by
    intro policy other hother
    rw [isLegacy, hother, hhash, Bool.and_false, Bool.false_and]
  have hpastAge : ∀ hours (other : MemoryRecord), other.contentHash = row.contentHash →
      isPastAge now hours other = false := by
    intro hours other hother
    rw [isPastAge, hother, hhash, Bool.and_false]
  have hignores : ∀ ids, IgnoresParent (fun row => isOldTombstone now
      (runPolicy policy maxAgeHours minConfidence) (withState ids .tombstoned row)) := by
    intro ids other parent
    unfold withState
    dsimp only
    split <;> rfl
  have hlast : Has (garbageCollect db now limit semanticCacheMaxEntries policy maxAgeHours
      minConfidence).2 row.memoryId (fun _ => True) ↔
      isOldTombstone now (runPolicy policy maxAgeHours minConfidence)
        (withState (Watched.expiring db now limit (runPolicy policy maxAgeHours minConfidence)
          semanticCacheMaxEntries) .tombstoned row) = false ∧
      isDeadCacheEntry now row = false ∧
      row.memoryId ∉ surplus db now (runPolicy policy maxAgeHours minConfidence)
        semanticCacheMaxEntries := by
    unfold garbageCollect
    dsimp only
    split
    · rw [has_deleteMemoryRecords _ (fun _ _ => rfl), has_assignRecordState,
        has_deleteMemoryRecords _ (fun _ _ => rfl), has_assignRecordState,
        has_collectSemanticCache, has_iff hrow]
      constructor
      · rintro ⟨parent, ⟨⟨-, hold⟩, hkept⟩⟩
        exact ⟨(hignores _ row parent).symm.trans hold, hkept⟩
      · rintro ⟨hold, hkept⟩
        exact ⟨row.parentVersionId, ⟨⟨trivial, hlegacy _ _ (by simp)⟩, hold⟩, hkept⟩
    · rw [has_deleteMemoryRecords _ (fun _ _ => rfl), has_deleteMemoryRecords _ (fun _ _ => rfl),
        has_assignRecordState, has_deleteMemoryRecords _ (fun _ _ => rfl), has_assignRecordState,
        has_collectSemanticCache, has_iff hrow]
      constructor
      · rintro ⟨parent, ⟨⟨-, hold⟩, hkept⟩⟩
        exact ⟨(hignores _ row parent).symm.trans hold, hkept⟩
      · rintro ⟨hold, hkept⟩
        exact ⟨row.parentVersionId,
          ⟨⟨⟨trivial, hpastAge _ _ (by simp)⟩, hlegacy _ _ (by simp)⟩, hold⟩, hkept⟩
  have hstate : isOldTombstone now (runPolicy policy maxAgeHours minConfidence)
        (withState (Watched.expiring db now limit (runPolicy policy maxAgeHours minConfidence)
          semanticCacheMaxEntries) .tombstoned row) = true ↔
      (row.recordState = .tombstoned ∨ row.memoryId ∈ Watched.expiring db now limit
          (runPolicy policy maxAgeHours minConfidence) semanticCacheMaxEntries) ∧
        row.createdAt < (runPolicy policy maxAgeHours minConfidence).tombstoneCutoff now := by
    unfold withState isOldTombstone
    split
    · rename_i hexpiring
      simp [hexpiring]
    · rename_i hexpiring
      simp [hexpiring]
  rw [hgone, hlast, ← hstate, not_and_or, not_and_or, not_not, Bool.not_eq_false,
    Bool.not_eq_false]
  constructor
  · rintro (hold | hdead | hsurplus)
    · exact Or.inr (Or.inr hold)
    · exact Or.inl hdead
    · exact Or.inr (Or.inl hsurplus)
  · rintro (hdead | hsurplus | hold)
    · exact Or.inr (Or.inl hdead)
    · exact Or.inr (Or.inr hsurplus)
    · exact Or.inl hold

/-- The first step tombstones rows that are live. -/
theorem isLive_of_expiring {db : Db} {row : MemoryRecord} {now : Time} {limit : RowLimit}
    {policy : GCRunPolicy} {semanticCacheMaxEntries : Int} (hrow : row ∈ db.memoryRecords.rows)
    (h : row.memoryId ∈ Watched.expiring db now limit policy semanticCacheMaxEntries) :
    row.recordState.isLive = true := by
  obtain ⟨other, hchosen, hid⟩ := List.mem_map.1 h
  obtain ⟨hother, hexpired⟩ := List.mem_filter.1 (limit.subset _ other hchosen)
  have hhas : Has (collectSemanticCache db now policy semanticCacheMaxEntries).2 row.memoryId
      (fun row => isExpired now row = true) :=
    ⟨other, ⟨other.parentVersionId, hother⟩, hid, hexpired⟩
  rw [has_collectSemanticCache, has_iff hrow] at hhas
  obtain ⟨parent, hlive, -⟩ := hhas
  rw [isExpired, Bool.and_eq_true] at hlive
  exact hlive.2

/-! ## Histories -/

/-- A time is known only of rows that are TOMBSTONED. -/
def Consistent (watched : Watched) : Prop :=
  ∀ memoryId since, watched.since memoryId = some since → watched.db.isTombstoned memoryId = true

theorem consistent_run (host : Host) (watched : Watched) (op : StoreOp) :
    (watched.run host op).Consistent := by
  intro memoryId since hsince
  unfold run at hsince ⊢
  dsimp only at hsince ⊢
  split at hsince
  · cases hsince
  · rename_i htombstoned
    simpa using htombstoned

/-- A collection keeps the grace period exactly if the rows that it meets are as
old as their state. -/
theorem deletesAfterGrace_step {host : Host} {watched : Watched} (hconsistent : watched.Consistent)
    (op : StoreOp) : watched.DeletesAfterGrace host op ↔ watched.MeetsInGrace op := by
  cases op with
  | put now write keypair hash signature => exact Iff.rfl
  | applySupersedeRules newRecord => exact Iff.rfl
  | memory op =>
    cases op with
    | garbageCollect now limit semanticCacheMaxEntries policy maxAgeHours minConfidence =>
      constructor
      · intro h
        refine ⟨fun row hrow hsigned hexpiring => ?_, fun row hrow hsigned hstate hold => ?_,
          fun row hrow hsigned hcache => ?_⟩
        · by_contra hnot
          rw [not_le] at hnot
          obtain ⟨since, hsince, -⟩ := h row hrow hsigned
            ((deleted_iff hrow hsigned now limit semanticCacheMaxEntries policy maxAgeHours
              minConfidence).2 (Or.inr (Or.inr ⟨Or.inr hexpiring, hnot⟩)))
          obtain ⟨other, hother, hboth⟩ := List.any_eq_true.1 (hconsistent _ _ hsince)
          rw [Bool.and_eq_true, decide_eq_true_eq, decide_eq_true_eq] at hboth
          have hlive := isLive_of_expiring hrow hexpiring
          rw [← Table.eq_of_rowId hother hrow hboth.1, hboth.2] at hlive
          cases hlive
        · exact h row hrow hsigned ((deleted_iff hrow hsigned now limit semanticCacheMaxEntries
            policy maxAgeHours minConfidence).2 (Or.inr (Or.inr ⟨Or.inl hstate, hold⟩)))
        · refine h row hrow hsigned ((deleted_iff hrow hsigned now limit semanticCacheMaxEntries
            policy maxAgeHours minConfidence).2 ?_)
          exact hcache.imp id Or.inl
      · intro h row hrow hsigned hgone
        rcases (deleted_iff hrow hsigned now limit semanticCacheMaxEntries policy maxAgeHours
          minConfidence).1 hgone with hdead | hsurplus | ⟨hstate | hexpiring, hold⟩
        · exact h.cache row hrow hsigned (Or.inl hdead)
        · exact h.cache row hrow hsigned (Or.inr hsurplus)
        · exact h.tombstoned row hrow hsigned hstate hold
        · exact absurd hold (not_lt.2 (h.expiring row hrow hsigned hexpiring))
    | _ => exact Iff.rfl

/-- A history of a node deletes signed records only after the grace period,
exactly if each of its collections meets rows that are as old as their state. -/
theorem deletesAfterGrace_iff (host : Host) (start : Db) (ops : List StoreOp) :
    (∀ step ∈ Transition.steps (Watched.run host) { db := start } ops,
        step.1.DeletesAfterGrace host step.2) ↔
      ∀ step ∈ Transition.steps (Watched.run host) { db := start } ops,
        step.1.MeetsInGrace step.2 := by
  have hconsistent : ∀ step ∈ Transition.steps (Watched.run host) { db := start } ops,
      step.1.Consistent :=
    Transition.steps_invariant (I := Consistent)
      (fun watched op _ => consistent_run host watched op) (fun _ _ hsince => nomatch hsince)
  constructor
  · intro h step hstep
    exact (deletesAfterGrace_step (hconsistent step hstep) step.2).1 (h step hstep)
  · intro h step hstep
    exact (deletesAfterGrace_step (hconsistent step hstep) step.2).2 (h step hstep)

/-! ## A record that expires -/

open CRDTStore.ContractExample ReadmissionExample in
/-- A signed fact with a TTL of one hour is tombstoned and deleted by one
collection. -/
theorem deletesAfterGrace_fails :
    ¬∀ (host : Host) (start : Db) (ops : List StoreOp), NoMemoryRecords start →
      ∀ step ∈ Transition.steps (Watched.run host) { db := start } ops,
        step.1.DeletesAfterGrace host step.2 := by
  intro h
  let expires : MemoryWriteRequest := { data with
    ttlHours := some 1
    ttlPositive := by
      intro hours heq
      cases heq
      exact Nat.le_refl 1 }
  let written : Watched :=
    Watched.run oneDigest { db := start } (.memory (.writeMemory 0 0 expires))
  have hstep : (written, StoreOp.memory collection) ∈ Transition.steps (Watched.run oneDigest)
      { db := start } [.memory (.writeMemory 0 0 expires), .memory collection] :=
    List.mem_cons_of_mem _ List.mem_cons_self
  have hrow : ∃ row ∈ written.db.memoryRecords.rows, row.isSigned = true ∧ row.memoryId = 0 := by
    decide +kernel
  have hgone : (StoreOp.run oneDigest written.db (.memory collection)).memoryRecords.rows = [] := by
    decide +kernel
  have hunknown : written.since 0 = none := by
    decide +kernel
  obtain ⟨row, hmem, hsigned, hid⟩ := hrow
  have hdeletes : written.DeletesAfterGrace oneDigest (.memory collection) :=
    h oneDigest start _ rfl (written, .memory collection) hstep
  have hnotKept : ∀ kept ∈ (StoreOp.run oneDigest written.db
      (.memory collection)).memoryRecords.rows, kept.memoryId ≠ row.memoryId := by
    intro kept hkept
    rw [hgone] at hkept
    cases hkept
  obtain ⟨since, hsince, -⟩ := hdeletes row hmem hsigned hnotKept
  rw [hid, hunknown] at hsince
  cases hsince

end Watched

end MassClaw
