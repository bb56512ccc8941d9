import MassClaw.Crdt.Sync

/-!
# The peer client, `app/crdt/peer_client.py`

A peer is what it answers: nothing, or a status code with a body.  The client
turns answers into values or into a `PeerClientError`; a record of a peer is
decoded field by field by `coerceRecord`, whose conversions can also fail with
an exception of another class.
-/

namespace MassClaw

/-- What `_request` gets back. -/
inductive PeerResponse
  /-- `httpx.RequestError`. -/
  | unreachable
  /-- A status code, and the body when it is JSON. -/
  | answer (statusCode : Nat) (body : Option Json)

/-- `PeerClientError`. -/
inductive PeerClientError
  | unavailable
  | unauthorized
  | invalidResponse

/-- How a call of the client ends early. -/
inductive ClientFailure
  | peerClient (error : PeerClientError)
  /-- An exception of another class: `TypeError`, `ValueError`. -/
  | other

/-- `_request` and `_safe_json_object`. -/
def PeerResponse.jsonObject : PeerResponse → Except ClientFailure (List (String × Json))
  | unreachable => .error (.peerClient .unavailable)
  | answer statusCode body =>
    if statusCode = 401 ∨ statusCode = 403 then .error (.peerClient .unauthorized)
    else if 500 ≤ statusCode ∧ statusCode < 600 then .error (.peerClient .unavailable)
    else if 400 ≤ statusCode then .error (.peerClient .invalidResponse)
    else
      match body with
      | some (.dict entries) => .ok entries
      | _ => .error (.peerClient .invalidResponse)

/-- A remote node: its answer to each request of a round. -/
structure Peer where
  summary : PeerResponse
  bucket : Nat → PeerResponse
  /-- The answers to the batches of `/sync/fetch`, by number. -/
  records : Nat → PeerResponse

/-- `PeerRecord`. -/
structure PeerRecord where
  contentHash : String
  workflowId : String
  sourceAgentId : Option String
  memoryType : String
  content : String
  confidence : PyFloat
  metadata : List (DictKey × Json)
  authorDid : Option Json
  parentHashes : List Json
  signature : Option Json
  recordState : String

/-! ## Python conversions -/

/-- `float(value)`. -/
def Json.toFloat? (host : Host) : Json → Option PyFloat
  | .float x => some x
  | .str s => host.parseFloat? s
  | value => value.number?.map .finite

/-- `int(value)`. -/
def Json.toInt? (host : Host) : Json → Option Int
  | .str s => host.parseInt? s
  | value => value.number?.map (fun q => if 0 ≤ q then q.floor else q.ceil)

/-- `list(value)`. -/
def Json.toList? : Json → Option (List Json)
  | .list items => some items
  | .str s => some (s.toList.map (fun ch => .str (String.singleton ch)))
  | .dict entries => some (entries.map (fun entry => .str entry.1))
  | _ => none

/-- `value or None`. -/
def Json.orNone (value : Json) : Option Json := if value.truthy then some value else none

/-- A conversion that raises `TypeError` or `ValueError`. -/
def orRaise {α : Type} : Option α → Except ClientFailure α
  | some a => .ok a
  | none => .error .other

section Client

variable (host : Host)

/-- `_coerce_record`. -/
def coerceRecord (raw : List (String × Json)) : Except ClientFailure PeerRecord :=
  match (Json.lookup raw "hash").or (Json.lookup raw "content_hash") with
  | .str contentHash =>
    if contentHash = "" then .error (.peerClient .invalidResponse)
    else do
      let metadata := match Json.lookup raw "metadata" with
        | .null => Json.lookup raw "metadata_"
        | value => value
      let sourceAgentId := (Json.lookup raw "source_agent_id").orNone
      let confidence ← orRaise ((Json.getD raw "confidence" (.float (.finite 0))).toFloat? host)
      let metadata ← orRaise (metadata.or (.dict [])).toDict?
      let parentHashes ← orRaise ((Json.lookup raw "parent_hashes").or (.list [])).toList?
      return {
        contentHash
        workflowId := (Json.getD raw "workflow_id" (.str "")).pyStr host.repr
        sourceAgentId := sourceAgentId.map (Json.pyStr host.repr)
        memoryType := (Json.getD raw "memory_type" (.str "result")).pyStr host.repr
        content := (Json.getD raw "content" (.str "")).pyStr host.repr
        confidence
        metadata
        authorDid := (Json.lookup raw "author_did").orNone
        parentHashes
        signature := (Json.lookup raw "signature").orNone
        recordState := (Json.getD raw "record_state" (.str "active")).pyStr host.repr }
  | _ => .error (.peerClient .invalidResponse)

/-- `fetch_summary`: the root and the buckets. -/
def Peer.fetchSummary (peer : Peer) : Except ClientFailure (String × List Json) := do
  let body ← peer.summary.jsonObject
  match body.find? (fun entry => entry.1 == "buckets"),
      body.find? (fun entry => entry.1 == "root") with
  | some (_, .list buckets), some (_, root) =>
    if buckets.length = bucketCount ∧
        ((Json.getD body "record_count" (.int 0)).toInt? host).isSome then
      return (root.pyStr host.repr, buckets)
    else throw (.peerClient .invalidResponse)
  | _, _ => throw (.peerClient .invalidResponse)

/-- `fetch_bucket_hashes`: the entries that look like hashes. -/
def Peer.fetchBucketHashes (peer : Peer) (index : Nat) : Except ClientFailure (List String) := do
  let body ← (peer.bucket index).jsonObject
  match Json.lookup body "hashes" with
  | .list hashes =>
    return (hashes.filterMap Json.asString?).filter (fun hash => hash.toList.head? = some 'z')
  | _ => throw (.peerClient .invalidResponse)

/-- The dictionaries among the records of a response. -/
def PeerResponse.rawRecords (response : PeerResponse) :
    Except ClientFailure (List (List (String × Json))) := do
  let body ← response.jsonObject
  match Json.lookup body "records" with
  | .list records =>
    return records.filterMap (fun record => match record with
      | .dict entries => some entries
      | _ => none)
  | _ => throw (.peerClient .invalidResponse)

/-- `fetch_records` for the batch with the given number. -/
def Peer.fetchRecords (peer : Peer) (batch : Nat) : Except ClientFailure (List PeerRecord) := do
  (← (peer.records batch).rawRecords).mapM (coerceRecord host)

end Client

end MassClaw
