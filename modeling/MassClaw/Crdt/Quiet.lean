import MassClaw.Crdt.Counted
import MassClaw.Crdt.Import

/-!
# A round with nobody else

While no other session commits, a round in a session does what `reconcileWith`
says: it writes the same report, loses nothing to a rollback, and its commit
stores the same database.  Only when an insertion has failed does the commit
raise, so that nothing is stored.
-/

namespace MassClaw

open UnitOfWork (Script Failure Session)

namespace CRDTStore

variable {host : Host} {now : Time} {write : MemoryWrite} {hash : String}
  {supplied : Option Json} {db : Db} {session : DbSession}

/-- What `put` in a session does to a database that nobody else changes. -/
def PutFollows (db : Db) (session : DbSession) :
    Except (Failure DbError StoreError) MemoryRecord × DbSession →
    Except StoreError (MemoryRecord × Db) → Prop
  | (.ok _, session'), .ok (_, db') => session'.Settled ∧ session'.view db = db'
  | (.error failure, session'), .error error =>
    StoreError.isHandled failure = error.isCRDTStoreError ∧
      (session' = session ∨ session' = session.failed ∧ error.isCRDTStoreError = false)
  | _, _ => False

section Insertion

variable {contentHash : Option String} {signature : Option Json}

theorem insertion_of_none (hrow : write.row? host contentHash signature now = none) :
    insertion host now write contentHash signature db = .error .data := by
  simp only [insertion, hrow]

theorem insertion_of_ok {record row : MemoryRecord} {db' : Db}
    (hrow : write.row? host contentHash signature now = some record)
    (hinsert : db.insertMemoryRecord record = .ok (row, db')) :
    insertion host now write contentHash signature db = .ok db' := by
  simp only [insertion, hrow, hinsert]

theorem insertion_of_error {record : MemoryRecord} {error : StoreError}
    (hrow : write.row? host contentHash signature now = some record)
    (hinsert : db.insertMemoryRecord record = .error error) :
    insertion host now write contentHash signature db = .error .integrity := by
  simp only [insertion, hrow, hinsert]

end Insertion

theorem putIn_follows (h : session.Settled) :
    PutFollows db session
      ((putIn host ⟨db, db, db⟩ now write none (some hash) supplied).exec session)
      (put host (session.view db) now write none (some hash) supplied) := by
  unfold put
  cases hresolve : resolveHashAndSignature host write.canonicalBody none (some hash) supplied with
  | error error =>
    rw [putIn_refused hresolve]
    exact ⟨rfl, Or.inl rfl⟩
  | ok resolved =>
    obtain ⟨contentHash, signature⟩ := resolved
    obtain rfl := resolve_precomputed hresolve
    rw [putIn_resolved h hresolve]
    dsimp only [bind, Except.bind]
    cases (session.view db).fetchByHash (some hash) with
    | some existing => exact ⟨h, rfl⟩
    | none =>
      dsimp only
      have hfails :=
        @insertGuarded_fails host ⟨db, db, db⟩ now write session (some hash) signature h
      have hok :=
        @insertGuarded_ok host ⟨db, db, db⟩ now write session (some hash) signature h
      cases hrow : write.row? host (some hash) signature now with
      | none =>
        rw [hfails (insertion_of_none hrow)]
        exact ⟨rfl, Or.inr ⟨rfl, rfl⟩⟩
      | some record =>
        dsimp only
        cases hinsert : (session.view db).insertMemoryRecord record with
        | ok result =>
          obtain ⟨row, db'⟩ := result
          have hinsertion := insertion_of_ok hrow hinsert
          obtain ⟨row', -, hexec⟩ := hok hinsertion
          rw [hexec]
          have hview : (session.wrote [insertion host now write (some hash) signature]).view db =
              db' := Session.view_wrote hinsertion
          exact ⟨h.wrote _, hview⟩
        | error error =>
          rw [hfails (insertion_of_error hrow hinsert)]
          exact ⟨rfl, Or.inr ⟨rfl, rfl⟩⟩

end CRDTStore

namespace GossipService

variable {host : Host} {now : Time} {db : Db} {session : DbSession} {round : RoundIn}
  {plain : GossipRound}

/-- A round in a session and a round without one have done the same. -/
structure InStep (db : Db) (round : RoundIn) (plain : GossipRound) : Prop where
  settled : round.session.Settled
  view : round.session.view db = plain.db
  known : round.known = plain.known
  report : round.report = plain.report
  nothingLost : round.lost = []

/-- Both have been stopped by the same exception.  The session sees the same
database, unless an insertion has failed. -/
structure StoppedInStep (db : Db) (stopped : StoppedIn) (plain : Stopped) : Prop where
  failure : stopped.1 = plain.1
  pending : stopped.2.session.pending = []
  report : stopped.2.report = plain.2.report
  nothingLost : stopped.2.lost = []
  view : stopped.2.session.view db = plain.2.db ∧ stopped.2.session.inactive = false ∨
    stopped.2.session.inactive = true ∧ stopped.1 = .other

/-- A part of a round does the same with a session as without one. -/
abbrev Follows {α β : Type} (db : Db) (R : α → β → Prop) :
    Except StoppedIn α → Except Stopped β → Prop :=
  Outcome.Follows R (StoppedInStep db)

theorem InStep.stopped (h : InStep db round plain) (failure : ClientFailure) :
    StoppedInStep db (failure, round) (failure, plain) :=
  ⟨rfl, h.settled.pending, h.report, h.nothingLost, Or.inl ⟨h.view, h.settled.active⟩⟩

/-- An insertion has failed. -/
theorem InStep.failed (h : InStep db round plain) (clock : Nat) (known : Known) :
    StoppedInStep db (.other, { round with session := round.session.failed, clock, known })
      (.other, plain) :=
  ⟨rfl, rfl, h.report, h.nothingLost, Or.inr ⟨rfl, rfl⟩⟩

theorem InStep.later (h : InStep db round plain) (clock : Nat) :
    InStep db { round with clock } plain :=
  ⟨h.settled, h.view, h.known, h.report, h.nothingLost⟩

/-- Both count the same. -/
theorem InStep.counts (h : InStep db round plain) {report : GossipRoundReport}
    {report' : GossipRoundReport} (hreport : report = report') :
    InStep db { round with report } { plain with report := report' } :=
  ⟨h.settled, h.view, h.known, hreport, h.nothingLost⟩

theorem follows_requestIn {α : Type} (h : InStep db round plain)
    (answer : Except ClientFailure α) :
    Follows db Eq (requestIn round answer) (request plain answer) := by
  cases answer with
  | ok a => exact rfl
  | error failure => exact h.stopped failure

/-- What the two rounds return for one record. -/
abbrev SameResult (db : Db) (result : Bool × RoundIn) (plain : Bool × GossipRound) : Prop :=
  result.1 = plain.1 ∧ InStep db result.2 plain.2

/-- The record, when its workflow exists. -/
theorem storePeerRecordIn_follows (h : InStep db round plain) (record : PeerRecord)
    (workflowUuid : UUID) :
    Follows db (SameResult db)
      (storePeerRecordIn host now (fun _ => db) record workflowUuid round)
      (storePeerRecord host now record workflowUuid plain) := by
  have hskip : InStep db round.skipInvalid (skipInvalid plain) := h.counts (by rw [h.report])
  unfold storePeerRecordIn storePeerRecord
  rw [h.known]
  split
  · exact ⟨rfl, h.counts (by rw [h.report])⟩
  · dsimp only
    split
    · rename_i sourceAgentUuid memoryType hsource hmemory
      split
      · rename_i hnone
        cases hsource.symm.trans hnone
      · rename_i hnone
        cases hmemory.symm.trans hnone
      · rename_i sourceAgentUuid' memoryType' hsource' hmemory'
        cases hsource.symm.trans hsource'
        cases hmemory.symm.trans hmemory'
        have hput := @CRDTStore.putIn_follows host now
          (writeOf record workflowUuid sourceAgentUuid memoryType) record.contentHash
          record.signature db round.session h.settled
        rw [h.view] at hput
        unfold putRecordIn
        dsimp only
        generalize Script.exec _ round.session = ended at hput ⊢
        generalize CRDTStore.put host plain.db now _ none _ _ = result at hput ⊢
        obtain ⟨answer, session⟩ := ended
        cases answer with
        | ok row =>
          cases result with
          | ok row' =>
            refine ⟨rfl, hput.1, hput.2, ?_, h.report, h.nothingLost⟩
            dsimp only
            rw [h.known]
          | error error => exact hput.elim
        | error failure =>
          cases result with
          | ok row' => exact hput.elim
          | error error =>
            obtain ⟨hhandled, hsession⟩ := hput
            dsimp only
            rw [hhandled]
            rcases hsession with rfl | ⟨rfl, hunhandled⟩
            · split
              · exact ⟨rfl, (h.later _).counts (by rw [h.report])⟩
              · exact (h.later _).stopped .other
            · rw [hunhandled]
              exact h.failed _ _
    · split
      · exact ⟨rfl, hskip⟩
      · exact ⟨rfl, hskip⟩
      · rename_i hnone _ _ sourceAgentUuid memoryType hsource hmemory
        exact absurd hmemory (hnone sourceAgentUuid memoryType hsource)

/-- What `_auto_shadow_workflow` in a session does to a database that nobody else
changes. -/
def ShadowFollows (db : Db) (session : DbSession) :
    Except (Failure DbError StoreError) ShadowOutcome × DbSession → Option Db → Prop
  | (.ok outcome, session'), some db' =>
    outcome ≠ .overtaken ∧ session'.Settled ∧ session'.view db = db'
  | (.error _, session'), none => session' = session.failed
  | _, _ => False

theorem autoShadowWorkflowIn_follows (h : session.Settled) (db : Db) (workflowUuid : UUID)
    (record : PeerRecord) :
    ShadowFollows db session ((autoShadowWorkflowIn db db workflowUuid record).exec session)
      (autoShadowWorkflow (session.view db) workflowUuid record) := by
  unfold autoShadowWorkflowIn autoShadowWorkflow
  rw [Script.exec_bind_ok (Script.query_settled h)]
  by_cases hthere : (session.view db).hasWorkflow workflowUuid = true
  · rw [if_pos hthere, if_pos hthere]
    exact ⟨nofun, h, rfl⟩
  · rw [if_neg hthere, if_neg hthere, Script.exec_bind_ok (Script.exec_add _),
      Script.exec_bind_ok Script.exec_attempt, Script.nested_flush_add h]
    have hinsertion : shadowInsertion workflowUuid record (session.view db) =
        if '\x00' ∈ (shadowWorkflow workflowUuid record).prompt.toList then .error .data
        else .ok { session.view db with
          workflows := (session.view db).workflows ++ [shadowWorkflow workflowUuid record] } := by
      unfold shadowInsertion
      rw [if_neg hthere]
    rw [hinsertion]
    dsimp only
    generalize shadowWorkflow workflowUuid record = shadow at hinsertion ⊢
    by_cases hnul : '\x00' ∈ shadow.prompt.toList
    · rw [if_pos hnul, if_pos hnul]
      rfl
    · rw [if_neg hnul] at hinsertion
      rw [if_neg hnul, if_neg hnul]
      exact ⟨nofun, h.wrote _, Session.view_wrote hinsertion⟩

/-- `_persist_peer_record`. -/
theorem persistPeerRecordIn_follows (h : InStep db round plain) (record : PeerRecord) :
    Follows db (SameResult db) (persistPeerRecordIn host now (fun _ => db) record round)
      (persistPeerRecord host now record plain) := by
  unfold persistPeerRecordIn persistPeerRecord
  by_cases hempty : record.workflowId = ""
  · rw [if_pos hempty, if_pos hempty]
    exact ⟨rfl, h.counts (by rw [h.report])⟩
  · rw [if_neg hempty, if_neg hempty]
    cases UUID.parse? record.workflowId with
    | none => exact ⟨rfl, h.counts (by rw [h.report])⟩
    | some workflowUuid =>
      dsimp only
      rw [h.known]
      split
      · exact storePeerRecordIn_follows h record workflowUuid
      · have hshadow := autoShadowWorkflowIn_follows h.settled db workflowUuid record
        rw [h.view] at hshadow
        generalize Script.exec _ round.session = ended at hshadow ⊢
        generalize autoShadowWorkflow plain.db workflowUuid record = result at hshadow ⊢
        obtain ⟨answer, session⟩ := ended
        cases answer with
        | ok outcome =>
          cases result with
          | none => exact hshadow.elim
          | some db' =>
            obtain ⟨hnot, hsettled, hview⟩ := hshadow
            have hshadowed : InStep db
                { round with
                  session
                  clock := round.clock + 2
                  known :=
                    { plain.known with
                      workflowIds := plain.known.workflowIds ++ [workflowUuid] } }
                { plain with
                  db := db'
                  known.workflowIds := plain.known.workflowIds ++ [workflowUuid] } :=
              ⟨hsettled, hview, rfl, h.report, h.nothingLost⟩
            cases outcome with
            | existing => exact storePeerRecordIn_follows hshadowed record workflowUuid
            | created => exact storePeerRecordIn_follows hshadowed record workflowUuid
            | overtaken => exact absurd rfl hnot
        | error failure =>
          cases result with
          | none =>
            cases hshadow
            exact h.failed _ _
          | some db' => exact hshadow.elim

/-- One record of a batch. -/
theorem persistOneIn_follows (h : InStep db round plain) (record : PeerRecord) :
    Follows db (InStep db) (persistOneIn host now (fun _ => db) round record)
      (persistOne host now plain record) := by
  unfold persistOneIn persistOne
  refine (persistPeerRecordIn_follows h record).bind ?_
  rintro ⟨persisted, round⟩ ⟨persisted', plain⟩ ⟨rfl, hnext⟩
  dsimp only
  split
  · refine ⟨hnext.settled, hnext.view, hnext.known, ?_, hnext.nothingLost⟩
    dsimp only
    rw [hnext.report]
  · exact hnext

theorem readable_filter {hashes : List String} {p : String → Bool}
    (h : readable hashes = true) : readable (hashes.filter p) = true := by
  unfold readable at h ⊢
  rw [List.all_eq_true] at h ⊢
  exact fun hash hhash => h hash (List.mem_of_mem_filter hhash)

/-- `_extend_known`. -/
theorem extendKnownIn_follows (h : InStep db round plain) (records : List PeerRecord)
    (hreadable : readable (records.map PeerRecord.contentHash) = true) :
    Follows db (InStep db) (extendKnownIn (fun _ => db) round records)
      (.ok (extendKnown plain records)) := by
  unfold extendKnownIn
  dsimp only
  rw [heldHashes_settled h.settled]
  dsimp only
  rw [readable_filter hreadable, heldWorkflows_settled h.settled]
  refine ⟨h.settled, h.view, ?_, h.report, h.nothingLost⟩
  rw [h.view, h.known, List.filter_filter, List.filter_filter]
  simp only [extendKnown, Bool.decide_and, Bool.decide_eq_true, Bool.and_comm]

/-- One batch. -/
theorem persistBatchIn_follows (h : InStep db round plain) (peer : Peer) (batch : Nat)
    (hreadable : ∀ records, peer.fetchRecords host batch = .ok records →
      readable (records.map PeerRecord.contentHash) = true) :
    Follows db (InStep db) (persistBatchIn host now (fun _ => db) peer round batch)
      (persistBatch host now peer plain batch) := by
  unfold persistBatchIn persistBatch
  cases hfetch : peer.fetchRecords host batch with
  | error failure => exact h.stopped failure
  | ok records =>
    have hfetched : InStep db
        { round with report.recordsFetched := round.report.recordsFetched + records.length }
        { plain with report.recordsFetched := plain.report.recordsFetched + records.length } :=
      h.counts (by rw [h.report])
    exact (extendKnownIn_follows hfetched records (hreadable records hfetch)).bind
      (fun known _ hknown => Outcome.Follows.foldlM records _ _ (fun record _ _ _ hround =>
        persistOneIn_follows hround record) hknown)

/-- A read sees what the round without a session sees. -/
theorem readIn_eq {α : Type} (h : InStep db round plain) (read : Db → α) :
    readIn (fun _ => db) round read =
      .ok (read plain.db, { round with clock := round.clock + 1 }) := by
  unfold readIn
  rw [Script.query_settled h.settled, h.view]

theorem collectMissingHashesIn_follows (h : InStep db round plain) (peer : Peer)
    (indices : List Nat) (workflowId : Option UUID) :
    Follows db (fun result missing => result.1 = missing ∧ InStep db result.2 plain)
      (collectMissingHashesIn (fun _ => db) peer round indices workflowId)
      (collectMissingHashes peer plain indices workflowId) := by
  unfold collectMissingHashesIn collectMissingHashes
  refine Outcome.Follows.foldlM indices _ _ (fun index _ => ?_) ⟨rfl, h⟩
  rintro ⟨missing, round⟩ _ ⟨rfl, hround⟩
  refine (follows_requestIn hround _).bind ?_
  rintro peerHashes _ rfl
  split
  · rename_i hempty
    rw [hempty]
    exact ⟨(List.append_nil missing).symm, hround⟩
  · rw [readIn_eq hround]
    exact ⟨rfl, hround.later _⟩

/-- Before the first record, the two differ in nothing but the clock. -/
theorem inStep_started (db : Db) (clock : Nat) (report : GossipRoundReport) :
    InStep db { clock, report } { db, report } := ⟨Session.settled_fresh, rfl, rfl, rfl, rfl⟩

/-- Without missing hashes there is no batch. -/
theorem fetchMissingIn_nil {committed : Nat → Db} {peer : Peer} :
    fetchMissingIn host now committed peer [] round = .ok round := rfl

/-- The body of `reconcile_with`. -/
theorem reconcileBody_follows (host : Host) (now : Time) (db : Db) (peer : Peer)
    (cached : Option MerkleSummary) (workflowId : Option UUID)
    (hreadable : ∀ batch records, peer.fetchRecords host batch = .ok records →
      readable (records.map PeerRecord.contentHash) = true) :
    Follows db (InStep db) (reconcileBodyIn host now (fun _ => db) peer cached workflowId)
      (reconcileBody host now db peer cached workflowId) := by
  unfold reconcileBodyIn missingHashesIn reconcileBody
  rw [readIn_eq (inStep_started db 0 {})]
  dsimp only [bind, Except.bind]
  cases peer.fetchSummary host with
  | error failure => exact (inStep_started db 1 {}).stopped failure
  | ok answer =>
    obtain ⟨peerRoot, peerBuckets⟩ := answer
    dsimp only [requestIn, request]
    generalize SyncService.summarise host db cached workflowId = localSummary
    by_cases hroot : localSummary.root = peerRoot
    · rw [if_pos hroot, if_pos hroot]
      dsimp only [pure, Except.pure]
      rw [fetchMissingIn_nil]
      exact inStep_started db 1 _
    · rw [if_neg hroot, if_neg hroot]
      cases localSummary.divergesFrom peerBuckets with
      | none =>
        show StoppedInStep db _ _
        exact (inStep_started db 1 _).stopped .other
      | some divergent =>
        dsimp only
        by_cases hagreed : divergent.isEmpty = true
        · rw [if_pos hagreed, if_pos hagreed]
          dsimp only [pure, Except.pure]
          rw [fetchMissingIn_nil]
          exact inStep_started db 1 _
        · rw [if_neg hagreed, if_neg hagreed]
          have hcollected := collectMissingHashesIn_follows
            (inStep_started db 1
              { bucketsCompared := localSummary.buckets.length
                bucketsDivergent := divergent.length }) peer divergent workflowId
          generalize collectMissingHashesIn (fun _ => db) peer _ divergent workflowId = collected
            at hcollected ⊢
          generalize collectMissingHashes peer _ divergent workflowId = missing at hcollected ⊢
          cases collected with
          | error stopped =>
            cases missing with
            | error stopped' => exact hcollected
            | ok missing => exact hcollected.elim
          | ok result =>
            cases missing with
            | error stopped' => exact hcollected.elim
            | ok missing =>
              obtain ⟨missing', round⟩ := result
              obtain ⟨rfl, hround⟩ := hcollected
              dsimp only
              exact Outcome.Follows.foldlM _ _ _ (fun batch _ _ _ hnext =>
                persistBatchIn_follows hnext peer batch (hreadable batch))
                (hround.counts (by rw [hround.report]))

/-- What the end of a round in a session has to do with the end of one without. -/
structure EndsAs (db : Db) (round : RoundIn) (result : GossipRoundReport × Db) : Prop where
  report : round.report = result.1
  nothingLost : round.lost = []
  stores : ∀ after, round.commit? db = some after → after = result.2
  commits : result.1.error ≠ some .other → round.commit? db = some result.2

theorem commit?_of_active (moment : Db) (hpending : round.session.pending = [])
    (hactive : round.session.inactive = false) :
    round.commit? moment = some (round.session.view moment) := by
  unfold RoundIn.commit?
  rw [Script.exec_commit hpending, hactive]
  rfl

open ImportExample

end GossipService

end MassClaw
