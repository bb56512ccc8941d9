import MassClaw.Core.Models
import MassClaw.Identity.Canonicalize
import MassClaw.Lib.Assoc

/-!
# Canonical hashing, `app/crdt/hashing.py`

`CanonicalBody` is the part of a memory record that its author signs.  Peers
compute the content hash of the same body, so the hash is the address of the
record in the shared store.

A body is built from the arguments of a write, in which the fields a peer
supplies can be any JSON value, and again from a stored row.
-/

namespace MassClaw

/-- `CanonicalBody`. -/
structure CanonicalBody where
  workflowId : String
  memoryType : String
  content : String
  confidence : PyFloat
  metadata : List (DictKey × Json)
  parentHashes : List Json
  authorDid : Option Json
  sourceAgentId : Option String

/-- `sorted(parent_hashes)`: texts by their code points, numbers by value.
`none` is the `TypeError` of values that have no order. -/
def sortParents (parents : List Json) : Option (List Json) :=
  match parents.mapM Json.asString? with
  | some hashes => some ((hashes.insertionSort (· ≤ ·)).map .str)
  | none =>
    if parents.length = 1 then some parents
    else if parents.all (fun parent => parent.number?.isSome) then
      some (parents.insertionSort (fun a b => a.number?.getD 0 ≤ b.number?.getD 0))
    else none

namespace CanonicalBody

variable (host : Host)

/-- `_clone_jsonable(metadata)`: the keys become texts. -/
def cloneMetadata (metadata : List (DictKey × Json)) : List (String × Json) :=
  Assoc.ofList (metadata.map (fun entry => (entry.1.toJson.pyStr host.repr, entry.2)))

/-- `as_jsonable`. -/
def asJsonable (body : CanonicalBody) : Option Json :=
  (sortParents body.parentHashes).map (fun parents => .dict
    [ ("author_did", body.authorDid.getD .null)
    , ("confidence", .float body.confidence)
    , ("content", .str body.content)
    , ("memory_type", .str body.memoryType)
    , ("metadata", .dict (cloneMetadata host body.metadata))
    , ("parent_hashes", .list parents)
    , ("source_agent_id", (body.sourceAgentId.map .str).getD .null)
    , ("workflow_id", .str body.workflowId) ])

/-- `to_signable_bytes`; `none` is the exception of a value that has no
canonical form. -/
def toSignableBytes (body : CanonicalBody) : Option Bytes :=
  (body.asJsonable host).bind (canonicalize host)

/-- `compute_content_hash`. -/
def contentHash (body : CanonicalBody) : Option String :=
  (body.toSignableBytes host).map (fun bytes => encodeMultibase (host.sha256 bytes))

/-- A content hash starts with the multibase prefix. -/
theorem contentHash_prefix {body : CanonicalBody} {hash : String}
    (h : body.contentHash host = some hash) : ∃ rest, hash.toList = 'z' :: rest := by
  obtain ⟨bytes, -, rfl⟩ := Option.map_eq_some_iff.1 h
  exact ⟨_, String.toList_ofList⟩

end CanonicalBody

/-- The arguments of `CRDTStore.put` that describe the record. -/
structure MemoryWrite where
  workflowId : UUID
  memoryType : MemoryType
  content : String
  confidence : PyFloat
  metadata : List (DictKey × Json) := []
  parentHashes : List Json := []
  authorDid : Option Json := none
  sourceAgentId : Option UUID := none
  version : Nat := 1
  parentVersionId : Option RowId := none
  expiresAt : Option Time := none
  recordState : RecordState := .active

/-- `build_canonical_body` on the arguments of a write. -/
def MemoryWrite.canonicalBody (write : MemoryWrite) : CanonicalBody where
  workflowId := write.workflowId.str
  memoryType := write.memoryType.str
  content := write.content
  confidence := write.confidence
  metadata := write.metadata
  parentHashes := write.parentHashes
  authorDid := write.authorDid
  sourceAgentId := write.sourceAgentId.map UUID.str

/-- `build_canonical_body` on the fields of a row. -/
def MemoryRecord.canonicalBody (record : MemoryRecord) : CanonicalBody where
  workflowId := (record.workflowId.map UUID.str).getD "None"
  memoryType := record.memoryType.str
  content := record.content
  confidence := record.confidence
  metadata := record.metadata.map (fun entry => (.str entry.1, entry.2))
  parentHashes := record.parentHashes.map .str
  authorDid := record.authorDid.map .str
  sourceAgentId := record.sourceAgentId.map UUID.str

end MassClaw
