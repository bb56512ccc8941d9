import MassClaw.Crdt.PeerClient
import MassClaw.Lib.Outcome

/-!
# Gossip rounds, `app/crdt/gossip.py`

`reconcileWith` runs one round with one peer: compare summaries, list the
buckets that differ, fetch the missing records in batches and persist those
that the store accepts.  A round never raises; an exception ends it early with
what has been written so far, and is reported.

The round runs in one session, so a shadow workflow that is missing when it is
looked up can also be inserted.
-/

namespace MassClaw

/-- `GossipRoundReport`, less the peer's name and the duration. -/
structure GossipRoundReport where
  bucketsCompared : Nat := 0
  bucketsDivergent : Nat := 0
  hashesMissingLocally : Nat := 0
  recordsFetched : Nat := 0
  recordsPersisted : Nat := 0
  recordsSkippedUnknownWorkflow : Nat := 0
  recordsSkippedInvalid : Nat := 0
  recordsSkippedDuplicate : Nat := 0
  error : Option ClientFailure := none
  inSyncBefore : Bool := false

/-- `_Known`. -/
structure Known where
  workflowIds : List UUID := []
  contentHashes : List String := []

/-- A round under way: the database, the local accounting and the report. -/
structure GossipRound where
  db : Db
  known : Known := {}
  report : GossipRoundReport := {}

/-- `_FETCH_BATCH_SIZE`. -/
def fetchBatchSize : Nat := 100

/-- `_chunks`. -/
def chunks {α : Type} (items : List α) (size : Nat) : List (List α) :=
  (List.range ((items.length + size - 1) / size)).map (fun i => (items.drop (i * size)).take size)

namespace GossipService

/-- An exception that ends the round, with what the round has done. -/
abbrev Stopped := ClientFailure × GossipRound

/-- A request to the peer. -/
def request {α : Type} (round : GossipRound) : Except ClientFailure α → Except Stopped α
  | .ok a => .ok a
  | .error failure => .error (failure, round)

/-- `_collect_missing_hashes`. -/
def collectMissingHashes (peer : Peer) (round : GossipRound) (bucketIndices : List Nat)
    (workflowId : Option UUID) : Except Stopped (List String) :=
  bucketIndices.foldlM (fun missing index => do
    let peerHashes ← request round (peer.fetchBucketHashes index)
    let localHashes := SyncService.bucketHashes round.db index workflowId
    return missing ++ peerHashes.filter (fun hash => hash ∉ localHashes)) []

/-- `_extend_known`: the hashes and the workflows of a batch that exist here. -/
def extendKnown (round : GossipRound) (records : List PeerRecord) : GossipRound :=
  let hashes := (records.map PeerRecord.contentHash).filter (fun hash =>
    hash ∉ round.known.contentHashes ∧ (round.db.fetchByHash (some hash)).isSome)
  let workflows := (records.filterMap (fun record => UUID.parse? record.workflowId)).filter
    (fun id => id ∉ round.known.workflowIds ∧ round.db.hasWorkflow id)
  { round with
    known :=
      { workflowIds := round.known.workflowIds ++ workflows
        contentHashes := round.known.contentHashes ++ hashes } }

/-- The shadow row of `_auto_shadow_workflow`. -/
def shadowWorkflow (workflowUuid : UUID) (record : PeerRecord) : Workflow where
  workflowId := workflowUuid
  prompt := "shadow workflow for federated record " ++ record.contentHash.take 12
  status := .paused
  budgetLimit := 0
  budgetUsed := 0
  dagSnapshot := none
  result := none
  startedAt := none
  completedAt := none

/-- `_auto_shadow_workflow`; `none` is the `DataError` of the insertion. -/
def autoShadowWorkflow (db : Db) (workflowUuid : UUID) (record : PeerRecord) : Option Db :=
  if db.hasWorkflow workflowUuid then some db
  else
    let shadow := shadowWorkflow workflowUuid record
    if '\x00' ∈ shadow.prompt.toList then none
    else some { db with workflows := db.workflows ++ [shadow] }

/-- Count one more record that is not valid. -/
def skipInvalid (round : GossipRound) : GossipRound :=
  { round with
    report.recordsSkippedInvalid := round.report.recordsSkippedInvalid + 1 }

/-- Count one more record without a workflow. -/
def skipUnknownWorkflow (round : GossipRound) : GossipRound :=
  { round with
    report.recordsSkippedUnknownWorkflow := round.report.recordsSkippedUnknownWorkflow + 1 }

/-- Count one more record that is here already. -/
def skipDuplicate (round : GossipRound) : GossipRound :=
  { round with
    report.recordsSkippedDuplicate := round.report.recordsSkippedDuplicate + 1 }

/-- The write of a peer's record. -/
def writeOf (record : PeerRecord) (workflowUuid : UUID) (sourceAgentUuid : Option UUID)
    (memoryType : MemoryType) : MemoryWrite where
  workflowId := workflowUuid
  memoryType := memoryType
  content := record.content
  confidence := record.confidence
  metadata := record.metadata
  parentHashes := record.parentHashes
  authorDid := record.authorDid
  sourceAgentId := sourceAgentUuid
  recordState := (RecordState.ofValue? record.recordState).getD .active

section Round

variable (host : Host) (now : Time)

/-- The end of `_persist_peer_record`, for a record whose workflow exists: the
checks of the other fields and the write. -/
def storePeerRecord (record : PeerRecord) (workflowUuid : UUID) (round : GossipRound) :
    Except Stopped (Bool × GossipRound) :=
  if record.contentHash ∈ round.known.contentHashes then .ok (false, skipDuplicate round)
  else
    let sourceAgent := match record.sourceAgentId with
      | none => some none
      | some raw => if raw = "" then some none else (UUID.parse? raw).map some
    match sourceAgent, MemoryType.ofValue? record.memoryType with
    | none, _ => .ok (false, skipInvalid round)
    | some _, none => .ok (false, skipInvalid round)
    | some sourceAgentUuid, some memoryType =>
      match CRDTStore.put host round.db now
          (writeOf record workflowUuid sourceAgentUuid memoryType) none (some record.contentHash)
          record.signature with
      | .ok (_, db) =>
        .ok (true,
          { round with
            db
            known.contentHashes := round.known.contentHashes ++ [record.contentHash] })
      | .error error =>
        if error.isCRDTStoreError then .ok (false, skipInvalid round)
        else .error (.other, round)

/-- `_persist_peer_record`. -/
def persistPeerRecord (record : PeerRecord) (round : GossipRound) :
    Except Stopped (Bool × GossipRound) :=
  if record.workflowId = "" then .ok (false, skipUnknownWorkflow round)
  else
    match UUID.parse? record.workflowId with
    | none => .ok (false, skipInvalid round)
    | some workflowUuid =>
      if workflowUuid ∈ round.known.workflowIds then
        storePeerRecord host now record workflowUuid round
      else
        match autoShadowWorkflow round.db workflowUuid record with
        | none => .error (.other, round)
        | some db =>
          storePeerRecord host now record workflowUuid
            { round with
              db
              known.workflowIds := round.known.workflowIds ++ [workflowUuid] }

/-- One record of a batch. -/
def persistOne (round : GossipRound) (record : PeerRecord) : Except Stopped GossipRound := do
  let (persisted, round) ← persistPeerRecord host now record round
  if persisted then
    return { round with report.recordsPersisted := round.report.recordsPersisted + 1 }
  else return round

/-- One batch of missing hashes: fetch, look up, persist. -/
def persistBatch (peer : Peer) (round : GossipRound) (batch : Nat) :
    Except Stopped GossipRound := do
  let records ← request round (peer.fetchRecords host batch)
  let fetched := { round with
    report.recordsFetched := round.report.recordsFetched + records.length }
  records.foldlM (persistOne host now) (extendKnown fetched records)

/-- The body of `reconcile_with` inside its `try`. -/
def reconcileBody (db : Db) (peer : Peer) (cached : Option MerkleSummary)
    (workflowId : Option UUID) : Except Stopped GossipRound := do
  let localSummary := SyncService.summarise host db cached workflowId
  let started : GossipRound := { db }
  let (peerRoot, peerBuckets) ← request started (peer.fetchSummary host)
  let compared := { started with report.bucketsCompared := localSummary.buckets.length }
  if localSummary.root = peerRoot then
    return { compared with report.inSyncBefore := true }
  match localSummary.divergesFrom peerBuckets with
  | none => throw (.other, compared)
  | some divergent =>
    let diffed := { compared with report.bucketsDivergent := divergent.length }
    if divergent.isEmpty then
      return { diffed with report.inSyncBefore := true }
    let missing ← collectMissingHashes peer diffed divergent workflowId
    let counted := { diffed with report.hashesMissingLocally := missing.length }
    (List.range (chunks missing fetchBatchSize).length).foldlM (persistBatch host now peer) counted

/-- `reconcile_with`: the report and the database afterwards. -/
def reconcileWith (db : Db) (peer : Peer) (cached : Option MerkleSummary)
    (workflowId : Option UUID) : GossipRoundReport × Db :=
  match reconcileBody host now db peer cached workflowId with
  | .ok round => (round.report, round.db)
  | .error (failure, round) => ({ round.report with error := some failure }, round.db)

end Round

end GossipService

end MassClaw
