import MassClaw.Crdt.Delivery
import MassClaw.Crdt.LostRaces

/-!
# A gossip round in a session, `app/crdt/gossip.py`

The round of `reconcileWith`, with the session that it writes in and other
sessions that commit in between.  Each operation on the database has a moment,
and `committed` is what is committed by then.

Three things make a round lose what it has written.  A shadow workflow that
another session inserts first rolls the session back, and the round goes on.
An insertion that the database refuses leaves the session inactive, and a hash
that it cannot read aborts the transaction; both end the round.  The report
counts the lost records all the same.
-/

namespace MassClaw

open UnitOfWork (Script Failure)
open UnitOfWork.Script (query add flush nested attempt rollback commit)

/-- An exception of a store call is a `CRDTStoreError`. -/
def StoreError.isHandled : Failure DbError StoreError → Bool
  | .raised error => error.isCRDTStoreError
  | _ => false

namespace GossipService

/-- A round under way: the session, the number of moments that have passed, the
local accounting and the report.  Of the records that the report counts as
persisted, `lost` were counted before a rollback, and `kept` since then. -/
structure RoundIn where
  session : DbSession := .fresh
  clock : Nat := 0
  known : Known := {}
  report : GossipRoundReport := {}
  lost : List PeerRecord := []
  kept : List PeerRecord := []

/-- Nothing of the transaction is left. -/
def RoundIn.rolledBack (round : RoundIn) : RoundIn :=
  { round with session := .fresh, lost := round.lost ++ round.kept, kept := [] }

/-- An exception that ends the round, with what the round has done. -/
abbrev StoppedIn := ClientFailure × RoundIn

/-- A request to the peer. -/
def requestIn {α : Type} (round : RoundIn) : Except ClientFailure α → Except StoppedIn α
  | .ok a => .ok a
  | .error failure => .error (failure, round)

/-- Count one more record that is not valid. -/
def RoundIn.skipInvalid (round : RoundIn) : RoundIn :=
  { round with
    report.recordsSkippedInvalid := round.report.recordsSkippedInvalid + 1 }

/-- Count one more record without a workflow. -/
def RoundIn.skipUnknownWorkflow (round : RoundIn) : RoundIn :=
  { round with
    report.recordsSkippedUnknownWorkflow := round.report.recordsSkippedUnknownWorkflow + 1 }

/-- Count one more record that is here already. -/
def RoundIn.skipDuplicate (round : RoundIn) : RoundIn :=
  { round with
    report.recordsSkippedDuplicate := round.report.recordsSkippedDuplicate + 1 }

/-- The `INSERT` of a shadow row. -/
def shadowInsertion (workflowUuid : UUID) (record : PeerRecord) : DbStatement := fun db =>
  if '\x00' ∈ (shadowWorkflow workflowUuid record).prompt.toList then .error .data
  else if db.hasWorkflow workflowUuid then .error .integrity
  else .ok { db with workflows := db.workflows ++ [shadowWorkflow workflowUuid record] }

/-- Which `return True` it is. -/
inductive ShadowOutcome
  | existing
  | created
  /-- `except IntegrityError`. -/
  | overtaken

/-- `_auto_shadow_workflow`.  As in `put`, the row is added before the
SAVEPOINT. -/
def autoShadowWorkflowIn (check flushed : Db) (workflowUuid : UUID) (record : PeerRecord) :
    DbScript StoreError ShadowOutcome := do
  if ← query check (fun db => db.hasWorkflow workflowUuid) then return .existing
  else
    add (shadowInsertion workflowUuid record)
    match ← attempt (nested flushed (flush flushed)) with
    | .ok _ => return .created
    | .error (.statement .integrity) => do
      rollback
      return .overtaken
    | .error failure => throw failure

/-- PostgreSQL takes no NUL in a text. -/
def readable (hashes : List String) : Bool := hashes.all (fun hash => '\x00' ∉ hash.toList)

/-- The query of `_extend_known` for hashes. -/
def heldHashes (moment : Db) (hashes : List String) : DbScript StoreError (List String) :=
  if hashes = [] then return []
  else query moment (fun db => hashes.filter (fun hash => (db.fetchByHash (some hash)).isSome))

/-- The query of `_extend_known` for workflows. -/
def heldWorkflows (moment : Db) (workflowIds : List UUID) : DbScript StoreError (List UUID) :=
  if workflowIds = [] then return []
  else query moment (fun db => workflowIds.filter (fun id => db.hasWorkflow id))

section Round

variable (host : Host) (now : Time) (committed : Nat → Db)

/-- `_extend_known`. -/
def extendKnownIn (round : RoundIn) (records : List PeerRecord) : Except StoppedIn RoundIn :=
  let hashes := (records.map PeerRecord.contentHash).filter (fun hash =>
    hash ∉ round.known.contentHashes)
  let workflowIds := (records.filterMap (fun record => UUID.parse? record.workflowId)).filter
    (fun id => id ∉ round.known.workflowIds)
  match (heldHashes (committed round.clock) hashes).exec round.session with
  | (.error _, session) => .error (.other, { round with session })
  | (.ok held, session) =>
    -- the query aborts the transaction; its commit is a rollback
    if !readable hashes then .error (.other, round.rolledBack)
    else
      match (heldWorkflows (committed (round.clock + 1)) workflowIds).exec session with
      | (.error _, session) => .error (.other, { round with session })
      | (.ok heldIds, session) =>
        .ok { round with
          session
          clock := round.clock + 2
          known :=
            { workflowIds := round.known.workflowIds ++ heldIds
              contentHashes := round.known.contentHashes ++ held } }

/-- The call of `put`. -/
def putRecordIn (record : PeerRecord) (write : MemoryWrite) (round : RoundIn) :
    Except StoppedIn (Bool × RoundIn) :=
  let moments : CRDTStore.PutMoments :=
    { check := committed round.clock
      flush := committed (round.clock + 1)
      reread := committed (round.clock + 2) }
  match (CRDTStore.putIn host moments now write none (some record.contentHash)
      record.signature).exec round.session with
  | (.ok _, session) =>
    .ok (true,
      { round with
        session
        clock := round.clock + 3
        known.contentHashes := round.known.contentHashes ++ [record.contentHash] })
  | (.error failure, session) =>
    if StoreError.isHandled failure then
      .ok (false, RoundIn.skipInvalid { round with session, clock := round.clock + 3 })
    else .error (.other, { round with session, clock := round.clock + 3 })

/-- The end of `_persist_peer_record`, for a record whose workflow exists: the
checks of the other fields and the write. -/
def storePeerRecordIn (record : PeerRecord) (workflowUuid : UUID) (round : RoundIn) :
    Except StoppedIn (Bool × RoundIn) :=
  if record.contentHash ∈ round.known.contentHashes then .ok (false, round.skipDuplicate)
  else
    match sourceAgent? record.sourceAgentId, MemoryType.ofValue? record.memoryType with
    | some sourceAgentUuid, some memoryType =>
      putRecordIn host now committed record
        (writeOf record workflowUuid sourceAgentUuid memoryType) round
    | _, _ => .ok (false, round.skipInvalid)

/-- `_persist_peer_record`. -/
def persistPeerRecordIn (record : PeerRecord) (round : RoundIn) :
    Except StoppedIn (Bool × RoundIn) :=
  if record.workflowId = "" then .ok (false, round.skipUnknownWorkflow)
  else
    match UUID.parse? record.workflowId with
    | none => .ok (false, round.skipInvalid)
    | some workflowUuid =>
      if workflowUuid ∈ round.known.workflowIds then
        storePeerRecordIn host now committed record workflowUuid round
      else
        match (autoShadowWorkflowIn (committed round.clock) (committed (round.clock + 1))
            workflowUuid record).exec round.session with
        | (.error _, session) =>
          .error (.other, { round with session, clock := round.clock + 2 })
        | (.ok outcome, session) =>
          let shadowed := match outcome with
            | .overtaken => round.rolledBack
            | _ => { round with session }
          storePeerRecordIn host now committed record workflowUuid
            { shadowed with
              clock := round.clock + 2
              known.workflowIds := round.known.workflowIds ++ [workflowUuid] }

/-- One record of a batch. -/
def persistOneIn (round : RoundIn) (record : PeerRecord) : Except StoppedIn RoundIn := do
  let (persisted, round) ← persistPeerRecordIn host now committed record round
  if persisted then
    return { round with
      report.recordsPersisted := round.report.recordsPersisted + 1
      kept := round.kept ++ [record] }
  else return round

/-- One batch of missing hashes: fetch, look up, persist. -/
def persistBatchIn (peer : Peer) (round : RoundIn) (batch : Nat) : Except StoppedIn RoundIn := do
  let records ← requestIn round (peer.fetchRecords host batch)
  let fetched := { round with
    report.recordsFetched := round.report.recordsFetched + records.length }
  let known ← extendKnownIn committed fetched records
  records.foldlM (persistOneIn host now committed) known

/-- A query of the round that no text of the peer goes into. -/
def readIn {α : Type} (round : RoundIn) (read : Db → α) : Except StoppedIn (α × RoundIn) :=
  match (query (committed round.clock) read : DbScript StoreError α).exec round.session with
  | (.ok a, session) => .ok (a, { round with session, clock := round.clock + 1 })
  | (.error _, session) => .error (.other, { round with session })

/-- `_collect_missing_hashes`. -/
def collectMissingHashesIn (peer : Peer) (round : RoundIn) (bucketIndices : List Nat)
    (workflowId : Option UUID) : Except StoppedIn (List String × RoundIn) :=
  bucketIndices.foldlM (fun (missing, round) index => do
    let peerHashes ← requestIn round (peer.fetchBucketHashes index)
    if peerHashes = [] then return (missing, round)
    else
      let (localHashes, round) ← readIn committed round (fun db =>
        SyncService.bucketHashes db index workflowId)
      return (missing ++ peerHashes.filter (fun hash => hash ∉ localHashes), round))
    ([], round)

/-- The first half of a round: the hashes to fetch. -/
def missingHashesIn (peer : Peer) (cached : Option MerkleSummary) (workflowId : Option UUID) :
    Except StoppedIn (List String × RoundIn) := do
  let (localSummary, started) ← readIn committed {} (fun db =>
    SyncService.summarise host db cached workflowId)
  let (peerRoot, peerBuckets) ← requestIn started (peer.fetchSummary host)
  let compared := { started with report.bucketsCompared := localSummary.buckets.length }
  if localSummary.root = peerRoot then
    return ([], { compared with report.inSyncBefore := true })
  match localSummary.divergesFrom peerBuckets with
  | none => throw (.other, compared)
  | some divergent =>
    let diffed := { compared with report.bucketsDivergent := divergent.length }
    if divergent.isEmpty then
      return ([], { diffed with report.inSyncBefore := true })
    let (missing, collected) ← collectMissingHashesIn committed peer diffed divergent workflowId
    return (missing, { collected with report.hashesMissingLocally := missing.length })

/-- The second half: the batches. -/
def fetchMissingIn (peer : Peer) (missing : List String) (round : RoundIn) :
    Except StoppedIn RoundIn :=
  (List.range (chunks missing fetchBatchSize).length).foldlM
    (persistBatchIn host now committed peer) round

/-- `reconcile_with`, inside its `try`. -/
def reconcileBodyIn (peer : Peer) (cached : Option MerkleSummary) (workflowId : Option UUID) :
    Except StoppedIn RoundIn := do
  let (missing, round) ← missingHashesIn host committed peer cached workflowId
  fetchMissingIn host now committed peer missing round

/-- `reconcile_with`: the round at its end. -/
def reconcileIn (peer : Peer) (cached : Option MerkleSummary) (workflowId : Option UUID) :
    RoundIn :=
  match reconcileBodyIn host now committed peer cached workflowId with
  | .ok round => round
  | .error (failure, round) => { round with report.error := some failure }

end Round

/-- The commit of the worker: the database afterwards, unless it raises. -/
def RoundIn.commit? (round : RoundIn) (moment : Db) : Option Db :=
  ((commit moment : DbScript StoreError Db).exec round.session).1.toOption

end GossipService

end MassClaw
