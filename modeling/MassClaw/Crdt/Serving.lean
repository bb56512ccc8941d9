import MassClaw.Crdt.Gossip

/-!
# The serving side, `app/api/memory_sync.py`

The three endpoints answer from the database of the node: the summary (which
may be a cached one), the hashes of a bucket, and the records for at most 100
hashes.  A record is sent as the JSON form of `MemoryResponse`, whose field
aliases are `metadata_` and `hash`.

`Db.asPeer` is a node as its peer sees it during a round.
-/

namespace MassClaw

/-- A nullable text as JSON. -/
def jsonOption (value : Option String) : Json := (value.map Json.str).getD .null

/-- `MemoryResponse.model_validate(row).model_dump(by_alias=True)` as JSON;
`none` is the `ValidationError` of a row without a workflow. -/
def memoryResponse (host : Host) (row : MemoryRecord) : Option (List (String × Json)) :=
  row.workflowId.map (fun workflowId =>
    [ ("memory_id", .str (toString row.memoryId))
    , ("workflow_id", .str workflowId.str)
    , ("source_agent_id", jsonOption (row.sourceAgentId.map UUID.str))
    , ("memory_type", .str row.memoryType.value)
    , ("content", .str row.content)
    , ("metadata_", .dict row.metadata)
    , ("confidence", .float row.confidence)
    , ("version", .int row.version)
    , ("parent_version_id", jsonOption (row.parentVersionId.map toString))
    , ("expires_at", jsonOption (row.expiresAt.map host.isoformat))
    , ("created_at", .str (host.isoformat row.createdAt))
    , ("author_did", jsonOption row.authorDid)
    , ("parent_hashes", .list (row.parentHashes.map .str))
    , ("signature", jsonOption row.signature)
    , ("hash", jsonOption row.contentHash)
    , ("record_state", .str row.recordState.value) ])

/-- `_MAX_FETCH_HASHES`. -/
def maxFetchHashes : Nat := 100

/-- The rows of a query without `ORDER BY`, in the order of the database. -/
structure RowOrder where
  arrange : List MemoryRecord → List MemoryRecord
  perm : ∀ rows, (arrange rows).Perm rows

namespace SyncService

/-- `fetch_records`, for an accepted number of hashes. -/
def fetchRecords (db : Db) (order : RowOrder) (hashes : List String) : List MemoryRecord :=
  order.arrange (db.memoryRecords.rows.filter (fun row =>
    row.contentHash.any (· ∈ hashes) ∧ row.recordState ≠ .tombstoned))

end SyncService

/-- `GET /sync/summary`. -/
def getSyncSummary (summary : MerkleSummary) : PeerResponse :=
  .answer 200 (some (.dict
    [ ("root", .str summary.root)
    , ("buckets", .list (summary.buckets.map jsonOption))
    , ("record_count", .int summary.recordCount)
    , ("scope", .str "instance") ]))

/-- `GET /sync/buckets/{index}`, for an index in range. -/
def getSyncBucket (db : Db) (index : Nat) : PeerResponse :=
  .answer 200 (some (.dict
    [ ("bucket_index", .int index)
    , ("scope", .str "instance")
    , ("hashes", .list ((SyncService.bucketHashes db index none).map .str)) ]))

/-- `POST /sync/fetch`. -/
def fetchRecordsByHash (host : Host) (db : Db) (order : RowOrder) (hashes : List String) :
    PeerResponse :=
  if maxFetchHashes < hashes.length then .answer 413 none
  else
    let records := SyncService.fetchRecords db order hashes
    match records.mapM (memoryResponse host) with
    | none => .answer 500 none
    | some responses => .answer 200 (some (.dict
        [ ("requested", .int hashes.length)
        , ("found", .int records.length)
        , ("records", .list (responses.map .dict)) ]))

/-- A node as a peer: its summary, its buckets, and its records for the batches
that the other side asks for. -/
def Db.asPeer (host : Host) (db : Db) (order : RowOrder) (summary : MerkleSummary)
    (batches : List (List String)) : Peer where
  summary := getSyncSummary summary
  bucket := getSyncBucket db
  records batch := fetchRecordsByHash host db order (batches.getD batch [])

namespace GossipService

/-- What the client is going to ask for: the hashes of the server's buckets
that diverge, less its own. -/
def missingFrom (client server : Db) (clientSummary serverSummary : MerkleSummary) :
    List String :=
  (((clientSummary.divergesFrom (serverSummary.buckets.map jsonOption)).getD []).flatMap
    (fun index => (SyncService.bucketHashes server index none).filter
      (fun hash => hash ∉ SyncService.bucketHashes client index none)))

/-- `client.reconcile_with(server)`, unscoped, when the client uses one cached
summary, if any, and the server another. -/
def reconcileNodes (host : Host) (now : Time) (order : RowOrder) (client server : Db)
    (clientCached serverCached : Option MerkleSummary) : GossipRoundReport × Db :=
  let clientSummary := SyncService.summarise host client clientCached none
  let serverSummary := SyncService.summarise host server serverCached none
  let batches := chunks (missingFrom client server clientSummary serverSummary) fetchBatchSize
  reconcileWith host now client (server.asPeer host order serverSummary batches) clientCached none

end GossipService

end MassClaw
