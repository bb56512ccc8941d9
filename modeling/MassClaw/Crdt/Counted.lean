import MassClaw.Crdt.Rounds

/-!
# What a round has counted when it commits

The sessions of gossip rounds only insert rows, so every commit leaves a larger
database, and what a round sees stays there whatever the other sessions commit
in between.  A record is counted when its row is seen.  Only the round itself
can lose it again, by a rollback; a flush that fails also loses it, but after
that the commit raises.
-/

namespace MassClaw

open UnitOfWork (Script Failure Session)
open UnitOfWork.Script (query add flush nested attempt rollback commit)
open GossipService (shadowWorkflow shadowInsertion)

/-! ## Databases that grow -/

/-- Every hash, workflow and agent of the one database is in the other. -/
structure Db.Within (db db' : Db) : Prop where
  holds : ∀ hash, db.Holds hash → db'.Holds hash
  workflows : ∀ id, db.hasWorkflow id = true → db'.hasWorkflow id = true
  agents : ∀ id, db.hasAgent id = true → db'.hasAgent id = true

instance : Preorder Db where
  le := Db.Within
  le_refl db := ⟨fun _ h => h, fun _ h => h, fun _ h => h⟩
  le_trans _ _ _ hab hbc :=
    ⟨fun hash h => hbc.holds hash (hab.holds hash h),
      fun id h => hbc.workflows id (hab.workflows id h),
      fun id h => hbc.agents id (hab.agents id h)⟩

/-- The other database has these hashes and workflows in addition. -/
structure Db.Gains (db db' : Db) (hashes : String → Prop) (ids : UUID → Prop) : Prop where
  holds : ∀ hash, db'.Holds hash ↔ db.Holds hash ∨ hashes hash
  workflows : ∀ id, db'.hasWorkflow id = true ↔ db.hasWorkflow id = true ∨ ids id
  agents : ∀ id, db'.hasAgent id = db.hasAgent id

theorem Db.Gains.within {db db' : Db} {hashes : String → Prop} {ids : UUID → Prop}
    (h : db.Gains db' hashes ids) : db ≤ db' :=
  ⟨fun hash hold => (h.holds hash).2 (Or.inl hold),
    fun id hold => (h.workflows id).2 (Or.inl hold),
    fun id hold => (h.agents id).trans hold⟩

theorem Db.Gains.mono {db db' more more' : Db} {hashes : String → Prop} {ids : UUID → Prop}
    (h : db.Gains db' hashes ids) (h' : more.Gains more' hashes ids) (hwithin : db ≤ more) :
    db' ≤ more' := by
  refine ⟨fun hash hheld => ?_, fun id hheld => ?_, fun id hheld => ?_⟩
  · exact (h'.holds hash).2 (((h.holds hash).1 hheld).imp_left (hwithin.holds hash))
  · exact (h'.workflows id).2 (((h.workflows id).1 hheld).imp_left (hwithin.workflows id))
  · rw [h'.agents]
    exact hwithin.agents id ((h.agents id).symm.trans hheld)

/-- A statement that needs some keys, and then adds the same to every database. -/
theorem adds_of_gains {statement : DbStatement} (keys : Db → Prop) {hashes : String → Prop}
    {ids : UUID → Prop} (hkeys : ∀ db db' : Db, db ≤ db' → keys db → keys db')
    (hskip : ∀ db, ¬keys db → Session.apply db statement = db)
    (hgains : ∀ db : Db, keys db → db.Gains (Session.apply db statement) hashes ids) :
    Session.Adds statement := by
  have hle : ∀ db, db ≤ Session.apply db statement := by
    intro db
    by_cases hmet : keys db
    · exact (hgains db hmet).within
    · rw [hskip db hmet]
  refine ⟨hle, fun db db' hwithin => ?_⟩
  by_cases hmet : keys db
  · exact (hgains db hmet).mono (hgains db' (hkeys db db' hwithin hmet)) hwithin
  · dsimp only
    rw [hskip db hmet]
    exact hwithin.trans (hle db')

/-! ## The two insertions -/

theorem Db.hasWorkflow_concat {db : Db} {workflow : Workflow} {id : UUID} :
    Db.hasWorkflow { db with workflows := db.workflows ++ [workflow] } id = true ↔
      db.hasWorkflow id = true ∨ workflow.workflowId = id := by
  unfold Db.hasWorkflow Db.workflow?
  simp only [List.find?_append, Option.isSome_or, Bool.or_eq_true]
  by_cases heq : workflow.workflowId = id <;> simp [heq]

/-- The workflow exists afterwards, unless the prompt does not fit. -/
theorem gains_shadowInsertion {workflowUuid : UUID} {record : PeerRecord} (db : Db)
    (hplain : '\x00' ∉ (shadowWorkflow workflowUuid record).prompt.toList) :
    db.Gains (Session.apply db (shadowInsertion workflowUuid record)) (fun _ => False)
      (fun id => workflowUuid = id) := by
  unfold Session.apply shadowInsertion
  rw [if_neg hplain]
  by_cases hthere : db.hasWorkflow workflowUuid = true
  · rw [if_pos hthere]
    refine ⟨fun _ => (or_iff_left id).symm, fun id => ⟨Or.inl, ?_⟩, fun _ => rfl⟩
    rintro (hold | rfl)
    · exact hold
    · exact hthere
  · rw [if_neg hthere]
    exact ⟨fun _ => (or_iff_left id).symm, fun id => Db.hasWorkflow_concat, fun _ => rfl⟩

theorem adds_shadowInsertion (workflowUuid : UUID) (record : PeerRecord) :
    Session.Adds (shadowInsertion workflowUuid record) := by
  refine adds_of_gains
    (fun _ => '\x00' ∉ (shadowWorkflow workflowUuid record).prompt.toList)
    (fun _ _ _ h => h) (fun db hnul => ?_) (fun db hplain => gains_shadowInsertion db hplain)
  unfold Session.apply shadowInsertion
  rw [if_pos (not_not.1 hnul)]

/-- The foreign keys of a row that is inserted exist. -/
theorem Db.keys_of_insertMemoryRecord {db db' : Db} {record row : MemoryRecord}
    (h : db.insertMemoryRecord record = .ok (row, db')) :
    record.workflowId.all db.hasWorkflow = true ∧ db.hasAgent record.sourceAgentId = true := by
  unfold Db.insertMemoryRecord at h
  split at h
  · rename_i hkeys
    exact Bool.and_eq_true_iff.1 hkeys
  · cases h

namespace CRDTStore

variable {host : Host} {now : Time} {write : MemoryWrite} {hash : String}
  {signature : Option Json}

/-- The row fits its columns, and its keys exist. -/
def Insertable (host : Host) (now : Time) (write : MemoryWrite) (contentHash : Option String)
    (signature : Option Json) (db : Db) : Prop :=
  ∃ row, write.row? host contentHash signature now = some row ∧
    row.workflowId.all db.hasWorkflow = true ∧ db.hasAgent row.sourceAgentId = true

theorem Insertable.mono {contentHash : Option String} {db db' : Db} (hwithin : db ≤ db')
    (h : Insertable host now write contentHash signature db) :
    Insertable host now write contentHash signature db' := by
  obtain ⟨row, hrow, hworkflow, hagent⟩ := h
  refine ⟨row, hrow, ?_, hwithin.agents _ hagent⟩
  rw [Option.all_eq_true] at hworkflow ⊢
  exact fun id hid => hwithin.workflows id (hworkflow id hid)

/-- An insertion that goes through. -/
theorem insertion_eq_ok {contentHash : Option String} {db db' : Db}
    (h : insertion host now write contentHash signature db = .ok db') :
    Insertable host now write contentHash signature db ∧
      ∃ row table, db' = { db with memoryRecords := table } ∧
        table.rows = db.memoryRecords.rows ++ [row] ∧ row.contentHash = contentHash := by
  unfold insertion at h
  cases hrow : write.row? host contentHash signature now with
  | none =>
    rw [hrow] at h
    cases h
  | some record =>
    rw [hrow] at h
    dsimp only at h
    cases hinsert : db.insertMemoryRecord record with
    | error error =>
      rw [hinsert] at h
      cases h
    | ok result =>
      obtain ⟨row, after⟩ := result
      rw [hinsert] at h
      cases h
      obtain ⟨hid, hrows, hdb⟩ := Db.insertMemoryRecord_eq_ok hinsert
      refine ⟨⟨record, hrow, Db.keys_of_insertMemoryRecord hinsert⟩, row, _, hdb, hrows, ?_⟩
      rw [hid]
      exact (MemoryWrite.row?_eq_some hrow).contentHash

theorem holds_of_insertion {db db' : Db}
    (h : insertion host now write (some hash) signature db = .ok db') : db'.Holds hash := by
  obtain ⟨-, row, table, rfl, hrows, hhash⟩ := insertion_eq_ok h
  refine ⟨row, ?_, hhash⟩
  show row ∈ table.rows
  rw [hrows]
  exact List.mem_append_right _ (List.mem_singleton_self row)

/-- The hash is held afterwards when the row can be inserted: it is new, or it
was held before. -/
theorem gains_insertion {db : Db} (h : Insertable host now write (some hash) signature db) :
    db.Gains (Session.apply db (insertion host now write (some hash) signature))
      (fun other => hash = other) (fun _ => False) := by
  unfold Session.apply
  cases hresult : insertion host now write (some hash) signature db with
  | ok db' =>
    obtain ⟨-, row, table, rfl, hrows, hhash⟩ := insertion_eq_ok hresult
    refine ⟨fun other => ?_, fun _ => (or_iff_left id).symm, fun _ => rfl⟩
    unfold Db.Holds
    dsimp only
    rw [hrows]
    simp only [List.mem_append, List.mem_singleton, or_and_right, exists_or, exists_eq_left, hhash,
      Option.some.injEq]
  | error error =>
    have hheld : db.Holds hash := by
      by_contra hmissing
      obtain ⟨row, hrow, hworkflow, hagent⟩ := h
      obtain ⟨table, hinsert, -⟩ := Db.insertMemoryRecord_ok hworkflow hagent (fun other hother => by
        rw [(MemoryWrite.row?_eq_some hrow).contentHash] at hother
        cases hother
        exact hmissing)
      unfold insertion at hresult
      rw [hrow] at hresult
      dsimp only at hresult
      rw [hinsert] at hresult
      cases hresult
    refine ⟨fun other => ⟨Or.inl, ?_⟩, fun _ => (or_iff_left id).symm, fun _ => rfl⟩
    rintro (hold | rfl)
    · exact hold
    · exact hheld

theorem adds_insertion : Session.Adds (insertion host now write (some hash) signature) := by
  refine adds_of_gains (Insertable host now write (some hash) signature)
    (fun _ _ hwithin h => h.mono hwithin) (fun db hnot => ?_) (fun db h => gains_insertion h)
  unfold Session.apply
  cases hresult : insertion host now write (some hash) signature db with
  | ok db' => exact absurd (insertion_eq_ok hresult).1 hnot
  | error error => rfl

end CRDTStore

/-! ## How the writes of a round end -/

namespace CRDTStore

variable {host : Host} {moments : PutMoments} {now : Time} {write : MemoryWrite}
  {hash : String} {supplied : Option Json} {session : DbSession}

/-- How a `put` with a precomputed hash ends: the row is found, or written; an
error before the insertion leaves the session as it is, and one at the
insertion is no `CRDTStoreError`. -/
inductive PutEnds (host : Host) (moments : PutMoments) (now : Time) (write : MemoryWrite)
    (hash : String) (session : DbSession) :
    Except (Failure DbError StoreError) MemoryRecord × DbSession → Prop
  | found {row : MemoryRecord} (held : (session.view moments.check).Holds hash) :
    PutEnds host moments now write hash session (.ok row, session)
  | written {row : MemoryRecord} {signature : Option Json} {db : Db}
    (inserted : insertion host now write (some hash) signature (session.view moments.flush) =
      .ok db) :
    PutEnds host moments now write hash session
      (.ok row, session.wrote [insertion host now write (some hash) signature])
  | refused {error : StoreError} :
    PutEnds host moments now write hash session (.error (.raised error), session)
  | failed {failure : Failure DbError StoreError} (unhandled : StoreError.isHandled failure = false) :
    PutEnds host moments now write hash session (.error failure, session.failed)

/-- A precomputed hash is the one that is resolved. -/
theorem resolve_precomputed {body : CanonicalBody} {contentHash : Option String}
    {signature : Option Json} (h : resolveHashAndSignature host body none (some hash) supplied =
      .ok (contentHash, signature)) : contentHash = some hash := by
  rcases resolve_contentHash h with ⟨-, hhash⟩ | ⟨-, hnone, -⟩
  · exact hhash _ rfl
  · cases hnone

/-- A `put` after its hash and signature are resolved. -/
theorem putIn_resolved (h : session.Settled) {signature : Option Json}
    (hresolve : resolveHashAndSignature host write.canonicalBody none (some hash) supplied =
      .ok (some hash, signature)) :
    (putIn host moments now write none (some hash) supplied).exec session =
      match (session.view moments.check).fetchByHash (some hash) with
      | some existing => (.ok existing, session)
      | none => (insertGuarded host moments now write (some hash) signature).exec session := by
  have hresolved : (DbScript.ofExcept (.ok (some hash, signature)) :
      DbScript StoreError _).exec session = (.ok (some hash, signature), session) := rfl
  have hlookup : (lookup moments.check (some hash)).exec session =
      (.ok ((session.view moments.check).fetchByHash (some hash)), session) := by
    unfold lookup
    rw [if_pos Option.isSome_some]
    exact Script.query_settled h
  unfold putIn
  rw [hresolve, Script.exec_bind_ok hresolved, Script.exec_bind_ok hlookup]
  cases (session.view moments.check).fetchByHash (some hash) with
  | some existing => rfl
  | none => rfl

/-- A `put` whose hash or signature is refused. -/
theorem putIn_refused {error : StoreError}
    (hresolve : resolveHashAndSignature host write.canonicalBody none (some hash) supplied =
      .error error) :
    (putIn host moments now write none (some hash) supplied).exec session =
      (.error (.raised error), session) := by
  unfold putIn
  rw [hresolve]
  rfl

theorem putIn_ends (h : session.Settled) :
    PutEnds host moments now write hash session
      ((putIn host moments now write none (some hash) supplied).exec session) := by
  cases hresolve : resolveHashAndSignature host write.canonicalBody none (some hash) supplied with
  | error error =>
    rw [putIn_refused hresolve]
    exact .refused
  | ok resolved =>
    obtain ⟨contentHash, signature⟩ := resolved
    obtain rfl := resolve_precomputed hresolve
    rw [putIn_resolved h hresolve]
    cases hfound : (session.view moments.check).fetchByHash (some hash) with
    | some existing => exact .found (Db.isSome_fetchByHash.1 (by rw [hfound]; rfl))
    | none =>
      dsimp only
      cases hresult : insertion host now write (some hash) signature (session.view moments.flush) with
      | ok db =>
        obtain ⟨row, -, hexec⟩ := insertGuarded_ok h hresult
        rw [hexec]
        exact .written hresult
      | error error =>
        rw [insertGuarded_fails h hresult]
        refine .failed ?_
        rw [if_pos Option.isSome_some]
        split
        · rfl
        · rfl

end CRDTStore

namespace GossipService

variable {session : DbSession} {check flushed : Db} {workflowUuid : UUID} {record : PeerRecord}

/-- How `_auto_shadow_workflow` ends. -/
inductive ShadowEnds (workflowUuid : UUID) (record : PeerRecord) (session : DbSession) :
    Except (Failure DbError StoreError) ShadowOutcome × DbSession → Prop
  | existing : ShadowEnds workflowUuid record session (.ok .existing, session)
  | created : ShadowEnds workflowUuid record session
      (.ok .created, session.wrote [shadowInsertion workflowUuid record])
  | overtaken : ShadowEnds workflowUuid record session (.ok .overtaken, .fresh)
  | failed {failure : Failure DbError StoreError} :
    ShadowEnds workflowUuid record session (.error failure, session.failed)

theorem autoShadowWorkflowIn_ends (h : session.Settled) :
    ShadowEnds workflowUuid record session
      ((autoShadowWorkflowIn check flushed workflowUuid record).exec session) := by
  unfold autoShadowWorkflowIn
  rw [Script.exec_bind_ok (Script.query_settled h)]
  cases (session.view check).hasWorkflow workflowUuid with
  | true => exact .existing
  | false =>
    show ShadowEnds _ _ _ ((_ : DbScript StoreError ShadowOutcome).exec session)
    rw [if_neg Bool.false_ne_true, Script.exec_bind_ok (Script.exec_add _),
      Script.exec_bind_ok Script.exec_attempt, Script.nested_flush_add h]
    cases shadowInsertion workflowUuid record (session.view flushed) with
    | ok db => exact .created
    | error error =>
      cases error with
      | integrity => exact .overtaken
      | data => exact .failed
      | notPersisted => exact .failed

/-! ## What a round keeps -/

/-- The session sees the rows of these records, provided that the committed
database only grows. -/
def Sees (committed : Nat → Db) (session : DbSession) (clock : Nat) (records : List PeerRecord) :
    Prop :=
  Monotone committed → ∀ record ∈ records,
    (session.view (committed clock)).Holds record.contentHash

/-- A round that can go on. -/
structure OnCourse (committed : Nat → Db) (round : RoundIn) : Prop where
  settled : round.session.Settled
  onlyAdds : round.session.OnlyAdds
  reported : round.report.recordsPersisted = round.lost.length + round.kept.length
  sees : Sees committed round.session round.clock round.kept

/-- A round at its end: the commit raises, or the session sees what the round
has kept. -/
structure Ended (committed : Nat → Db) (round : RoundIn) : Prop where
  pending : round.session.pending = []
  reported : round.report.recordsPersisted = round.lost.length + round.kept.length
  sees : round.session.inactive = true ∨
    round.session.OnlyAdds ∧ Sees committed round.session round.clock round.kept

section Rounds

variable {host : Host} {now : Time} {committed : Nat → Db} {round : RoundIn}
  {clock clock' : Nat} {records : List PeerRecord} {statement : DbStatement}

theorem Sees.nil : Sees committed session clock [] :=
  fun _ _ hmem => absurd hmem List.not_mem_nil

theorem Sees.later (h : Sees committed session clock records) (hadds : session.OnlyAdds)
    (hle : clock ≤ clock') : Sees committed session clock' records :=
  fun hmono record hrecord =>
    (hadds.view_mono (hmono hle)).holds _ (h hmono record hrecord)

theorem Sees.wrote (h : Sees committed session clock records) (hadds : Session.Adds statement) :
    Sees committed (session.wrote [statement]) clock records :=
  fun hmono record hrecord =>
    (Session.view_le_wrote hadds _).holds _ (h hmono record hrecord)

theorem Sees.concat (h : Sees committed session clock records)
    (hrecord : Monotone committed → (session.view (committed clock)).Holds record.contentHash) :
    Sees committed session clock (records ++ [record]) := by
  intro hmono other hother
  rcases List.mem_append.1 hother with hold | hnew
  · exact h hmono other hold
  · rw [List.mem_singleton.1 hnew]
    exact hrecord hmono

theorem OnCourse.ended (h : OnCourse committed round) : Ended committed round :=
  ⟨h.settled.pending, h.reported, Or.inr ⟨h.onlyAdds, h.sees⟩⟩

/-- Time passes. -/
theorem OnCourse.later (h : OnCourse committed round) (hle : round.clock ≤ clock')
    (known : Known) : OnCourse committed { round with clock := clock', known } :=
  ⟨h.settled, h.onlyAdds, h.reported, h.sees.later h.onlyAdds hle⟩

/-- The round counts other things. -/
theorem OnCourse.counts (h : OnCourse committed round) {report : GossipRoundReport}
    (hreport : report.recordsPersisted = round.report.recordsPersisted) :
    OnCourse committed { round with report } :=
  ⟨h.settled, h.onlyAdds, hreport.trans h.reported, h.sees⟩

theorem OnCourse.skipInvalid (h : OnCourse committed round) :
    OnCourse committed round.skipInvalid := h.counts rfl

theorem OnCourse.skipUnknownWorkflow (h : OnCourse committed round) :
    OnCourse committed round.skipUnknownWorkflow := h.counts rfl

theorem OnCourse.skipDuplicate (h : OnCourse committed round) :
    OnCourse committed round.skipDuplicate := h.counts rfl

/-- A rollback loses what the round has kept. -/
theorem OnCourse.rolledBack (h : OnCourse committed round) (known : Known) :
    OnCourse committed { round.rolledBack with clock := clock', known } := by
  refine ⟨Session.settled_fresh, Session.onlyAdds_fresh, ?_, Sees.nil⟩
  show round.report.recordsPersisted = (round.lost ++ round.kept).length + 0
  rw [h.reported, List.length_append, Nat.add_zero]

/-- The round has inserted a row. -/
theorem OnCourse.wrote (h : OnCourse committed round) (hadds : Session.Adds statement)
    (hle : round.clock ≤ clock') (known : Known) :
    OnCourse committed
      { round with session := round.session.wrote [statement], clock := clock', known } :=
  ⟨h.settled.wrote _, h.onlyAdds.wrote hadds, h.reported, (h.sees.later h.onlyAdds hle).wrote hadds⟩

/-- A flush has failed. -/
theorem OnCourse.failed (h : OnCourse committed round) :
    Ended committed { round with session := round.session.failed, clock := clock' } :=
  ⟨rfl, h.reported, Or.inl rfl⟩

/-- What a part of a round leaves, when it returns and when it raises. -/
abbrev Continues {α : Type} (committed : Nat → Db) (state : α → RoundIn)
    (result : Except StoppedIn α) : Prop :=
  Outcome.Holds (fun a => OnCourse committed (state a)) (fun stopped => Ended committed stopped.2)
    result

theorem continues_requestIn {α : Type} (h : OnCourse committed round)
    (answer : Except ClientFailure α) :
    Outcome.Holds (fun _ => True) (fun stopped => Ended committed stopped.2)
      (requestIn round answer) := by
  cases answer with
  | ok a => exact trivial
  | error failure => exact h.ended

/-! ## The steps of a round -/

/-- The call of `put`. -/
theorem putRecordIn_continues (h : OnCourse committed round) (record : PeerRecord)
    (write : MemoryWrite) :
    Outcome.Holds
      (fun result => OnCourse committed result.2 ∧ (result.1 = true → Monotone committed →
        (result.2.session.view (committed result.2.clock)).Holds record.contentHash))
      (fun stopped => Ended committed stopped.2)
      (putRecordIn host now committed record write round) := by
  have hends : CRDTStore.PutEnds host
      ⟨committed round.clock, committed (round.clock + 1), committed (round.clock + 2)⟩ now write
      record.contentHash round.session
      ((CRDTStore.putIn host
        ⟨committed round.clock, committed (round.clock + 1), committed (round.clock + 2)⟩ now write
        none (some record.contentHash) record.signature).exec round.session) :=
    CRDTStore.putIn_ends h.settled
  have hle : round.clock ≤ round.clock + 3 := Nat.le_add_right _ 3
  unfold putRecordIn
  dsimp only
  cases hresult : (CRDTStore.putIn host
      ⟨committed round.clock, committed (round.clock + 1), committed (round.clock + 2)⟩ now write
      none (some record.contentHash) record.signature).exec round.session with
  | mk result session =>
    rw [hresult] at hends
    cases hends with
    | found held =>
      refine ⟨h.later hle _, fun _ hmono => ?_⟩
      exact (h.onlyAdds.view_mono (hmono hle)).holds _ held
    | @written row signature db inserted =>
      have hadds : Session.Adds
          (CRDTStore.insertion host now write (some record.contentHash) signature) :=
        CRDTStore.adds_insertion
      refine ⟨h.wrote hadds hle _, fun _ hmono => ?_⟩
      have hview : ((round.session.wrote
          [CRDTStore.insertion host now write (some record.contentHash) signature]).view
            (committed (round.clock + 1))).Holds record.contentHash := by
        rw [Session.view_wrote inserted]
        exact CRDTStore.holds_of_insertion inserted
      have hlater : round.clock + 1 ≤ round.clock + 3 := Nat.add_le_add_left (by decide) _
      exact ((h.onlyAdds.wrote hadds).view_mono (hmono hlater)).holds _ hview
    | @refused error =>
      dsimp only
      split
      · have hskipped : OnCourse committed
            (RoundIn.skipInvalid { round with clock := round.clock + 3 }) :=
          (h.later hle round.known).skipInvalid
        exact ⟨hskipped, fun hfalse => absurd hfalse Bool.false_ne_true⟩
      · exact (h.later hle round.known).ended
    | failed unhandled =>
      dsimp only
      rw [unhandled]
      exact h.failed

/-- The record, when its workflow exists. -/
theorem storePeerRecordIn_continues (h : OnCourse committed round) (record : PeerRecord)
    (workflowUuid : UUID) :
    Outcome.Holds
      (fun result => OnCourse committed result.2 ∧ (result.1 = true → Monotone committed →
        (result.2.session.view (committed result.2.clock)).Holds record.contentHash))
      (fun stopped => Ended committed stopped.2)
      (storePeerRecordIn host now committed record workflowUuid round) := by
  unfold storePeerRecordIn
  split
  · exact ⟨h.skipDuplicate, fun hfalse => absurd hfalse Bool.false_ne_true⟩
  · split
    · exact putRecordIn_continues h record _
    · exact ⟨h.skipInvalid, fun hfalse => absurd hfalse Bool.false_ne_true⟩

/-- `_persist_peer_record`. -/
theorem persistPeerRecordIn_continues (h : OnCourse committed round) (record : PeerRecord) :
    Outcome.Holds
      (fun result => OnCourse committed result.2 ∧ (result.1 = true → Monotone committed →
        (result.2.session.view (committed result.2.clock)).Holds record.contentHash))
      (fun stopped => Ended committed stopped.2)
      (persistPeerRecordIn host now committed record round) := by
  unfold persistPeerRecordIn
  split
  · exact ⟨h.skipUnknownWorkflow, fun hfalse => absurd hfalse Bool.false_ne_true⟩
  · split
    · exact ⟨h.skipInvalid, fun hfalse => absurd hfalse Bool.false_ne_true⟩
    · rename_i workflowUuid _
      split
      · exact storePeerRecordIn_continues h record workflowUuid
      · have hends : ShadowEnds workflowUuid record round.session
            ((autoShadowWorkflowIn (committed round.clock) (committed (round.clock + 1))
              workflowUuid record).exec round.session) := autoShadowWorkflowIn_ends h.settled
        have hle : round.clock ≤ round.clock + 2 := Nat.le_add_right _ 2
        cases hresult : (autoShadowWorkflowIn (committed round.clock) (committed (round.clock + 1))
            workflowUuid record).exec round.session with
        | mk result session =>
          rw [hresult] at hends
          cases hends with
          | existing => exact storePeerRecordIn_continues (h.later hle _) record workflowUuid
          | created =>
            exact storePeerRecordIn_continues
              (h.wrote (adds_shadowInsertion workflowUuid record) hle _) record workflowUuid
          | overtaken => exact storePeerRecordIn_continues (h.rolledBack _) record workflowUuid
          | failed => exact h.failed

/-- One record of a batch. -/
theorem persistOneIn_continues (h : OnCourse committed round) (record : PeerRecord) :
    Continues committed id (persistOneIn host now committed round record) := by
  unfold persistOneIn
  refine (persistPeerRecordIn_continues h record).bind ?_
  rintro ⟨persisted, next⟩ ⟨hnext, hheld⟩
  dsimp only
  split
  · rename_i hpersisted
    refine ⟨hnext.settled, hnext.onlyAdds, ?_, hnext.sees.concat (hheld hpersisted)⟩
    show next.report.recordsPersisted + 1 = next.lost.length + (next.kept ++ [record]).length
    rw [hnext.reported, List.length_append, Nat.add_assoc]
    rfl
  · exact hnext

theorem heldHashes_settled (h : session.Settled) (moment : Db) (hashes : List String) :
    (heldHashes moment hashes).exec session =
      (.ok (hashes.filter (fun hash => ((session.view moment).fetchByHash (some hash)).isSome)),
        session) := by
  unfold heldHashes
  split
  · rename_i hempty
    rw [hempty]
    rfl
  · exact Script.query_settled h

theorem heldWorkflows_settled (h : session.Settled) (moment : Db) (ids : List UUID) :
    (heldWorkflows moment ids).exec session =
      (.ok (ids.filter (fun id => (session.view moment).hasWorkflow id)), session) := by
  unfold heldWorkflows
  split
  · rename_i hempty
    rw [hempty]
    rfl
  · exact Script.query_settled h

/-- `_extend_known`. -/
theorem extendKnownIn_continues (h : OnCourse committed round) (records : List PeerRecord) :
    Continues committed id (extendKnownIn committed round records) := by
  unfold extendKnownIn
  dsimp only
  rw [heldHashes_settled h.settled]
  dsimp only
  split
  · exact (h.rolledBack round.known).ended
  · rw [heldWorkflows_settled h.settled]
    exact h.later (Nat.le_add_right _ 2) _

/-- One batch. -/
theorem persistBatchIn_continues (h : OnCourse committed round) (peer : Peer) (batch : Nat) :
    Continues committed id (persistBatchIn host now committed peer round batch) := by
  unfold persistBatchIn
  refine (continues_requestIn h _).bind (fun records _ => ?_)
  have hfetched : OnCourse committed
      { round with report.recordsFetched := round.report.recordsFetched + records.length } :=
    h.counts rfl
  exact (extendKnownIn_continues hfetched records).bind (fun known hknown =>
    Outcome.Holds.foldlM_mem records known (fun record _ _ hround =>
      persistOneIn_continues hround record) hknown)

/-- A read changes nothing. -/
theorem readIn_continues {α : Type} (h : OnCourse committed round) (read : Db → α) :
    Continues committed Prod.snd (readIn committed round read) := by
  unfold readIn
  rw [Script.query_settled h.settled]
  exact h.later (Nat.le_add_right _ 1) round.known

theorem collectMissingHashesIn_continues (h : OnCourse committed round) (peer : Peer)
    (indices : List Nat) (workflowId : Option UUID) :
    Continues committed Prod.snd
      (collectMissingHashesIn committed peer round indices workflowId) := by
  unfold collectMissingHashesIn
  refine Outcome.Holds.foldlM_mem indices _ (fun index _ => ?_) h
  rintro ⟨missing, round⟩ hround
  refine (continues_requestIn hround _).bind (fun peerHashes _ => ?_)
  split
  · exact hround
  · exact (readIn_continues hround _).bind (fun _ hread => hread)

theorem onCourse_start : OnCourse committed {} :=
  ⟨Session.settled_fresh, Session.onlyAdds_fresh, rfl, Sees.nil⟩

/-- The first half of a round. -/
theorem missingHashesIn_continues (peer : Peer) (cached : Option MerkleSummary)
    (workflowId : Option UUID) :
    Continues committed Prod.snd (missingHashesIn host committed peer cached workflowId) := by
  unfold missingHashesIn
  refine (readIn_continues onCourse_start _).bind ?_
  rintro ⟨localSummary, started⟩ hstarted
  refine (continues_requestIn hstarted _).bind ?_
  rintro ⟨peerRoot, peerBuckets⟩ -
  have hcompared : OnCourse committed
      { started with report.bucketsCompared := localSummary.buckets.length } := hstarted.counts rfl
  dsimp only
  split
  · exact hcompared.counts rfl
  · split
    · exact hcompared.ended
    · split
      · exact hcompared.counts rfl
      · rename_i divergent _ _
        have hdiffed : OnCourse committed
            { started with
              report.bucketsCompared := localSummary.buckets.length
              report.bucketsDivergent := divergent.length } := hcompared.counts rfl
        refine (collectMissingHashesIn_continues hdiffed peer divergent workflowId).bind ?_
        rintro ⟨missing, collected⟩ hcollected
        exact hcollected.counts rfl

/-- `reconcile_with`. -/
theorem reconcileIn_ended (peer : Peer) (cached : Option MerkleSummary) (workflowId : Option UUID) :
    Ended committed (reconcileIn host now committed peer cached workflowId) := by
  have hends : Continues committed id
      (reconcileBodyIn host now committed peer cached workflowId) := by
    refine (missingHashesIn_continues peer cached workflowId).bind ?_
    rintro ⟨missing, round⟩ hround
    exact Outcome.Holds.foldlM_mem _ _ (fun batch _ _ hnext =>
      persistBatchIn_continues hnext peer batch) hround
  unfold reconcileIn
  cases hresult : reconcileBodyIn host now committed peer cached workflowId with
  | ok round => exact (hends.of_ok hresult).ended
  | error stopped =>
    obtain ⟨failure, round⟩ := stopped
    have hended : Ended committed round := hends.of_error hresult
    exact ⟨hended.pending, hended.reported, hended.sees⟩

/-! ## The commit -/

/-- A commit that goes through stores what the session sees. -/
theorem commit?_eq_some {moment db : Db} (hpending : round.session.pending = [])
    (hcommit : round.commit? moment = some db) :
    round.session.inactive = false ∧ db = round.session.view moment := by
  unfold RoundIn.commit? at hcommit
  rw [Script.exec_commit hpending] at hcommit
  cases hactive : round.session.inactive with
  | true =>
    rw [hactive] at hcommit
    cases hcommit
  | false =>
    rw [hactive] at hcommit
    cases hcommit
    exact ⟨rfl, rfl⟩

/-- The session of a round that commits only adds. -/
theorem Ended.sees_of_commit (h : Ended committed round) {moment db : Db}
    (hcommit : round.commit? moment = some db) :
    db = round.session.view moment ∧ round.session.OnlyAdds ∧
      Sees committed round.session round.clock round.kept := by
  obtain ⟨hactive, hview⟩ := commit?_eq_some h.pending hcommit
  rcases h.sees with hinactive | ⟨hadds, hsees⟩
  · rw [hactive] at hinactive
    cases hinactive
  · exact ⟨hview, hadds, hsees⟩

/-- A commit takes nothing away. -/
theorem Ended.le_commit (h : Ended committed round) {moment db : Db}
    (hcommit : round.commit? moment = some db) : moment ≤ db := by
  obtain ⟨rfl, hadds, -⟩ := h.sees_of_commit hcommit
  exact hadds.le_view moment

/-- The records that the round has kept are committed. -/
theorem Ended.holds_commit (h : Ended committed round) (hmono : Monotone committed)
    {moment db : Db} (hcommit : round.commit? moment = some db)
    (hmoment : committed round.clock ≤ moment) {record : PeerRecord}
    (hrecord : record ∈ round.kept) : db.Holds record.contentHash := by
  obtain ⟨rfl, hadds, hsees⟩ := h.sees_of_commit hcommit
  exact (hadds.view_mono hmoment).holds _ (hsees hmono record hrecord)

end Rounds

end GossipService

end MassClaw
