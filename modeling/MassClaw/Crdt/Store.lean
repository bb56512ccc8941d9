import MassClaw.Crdt.Hashing

/-!
# The CRDT write path, `app/crdt/store.py`

`put` resolves the content hash and the signature of a write and inserts the
row.  `resolveHashAndSignature` has four inputs that may be missing: the key
pair, the hash, the signature and the author.  Without a key pair and without
a signature nothing is verified.
-/

namespace MassClaw

/-- What `put` raises.  The first four are `CRDTStoreError`s. -/
inductive StoreError
  | hashMismatch (precomputed expected : String)
  | signatureMismatch
  | unknownAuthor
  /-- `IntegrityError` on insertion: "memory write failed". -/
  | writeFailed
  /-- `MalformedDIDError`. -/
  | malformedDid (error : MalformedDIDError)
  /-- The body has no canonical form. -/
  | canonicalization
  /-- `DataError`: a value that its column does not accept. -/
  | data
  /-- `PendingRollbackError`: the session is inactive after a failed flush. -/
  | pendingRollback

/-- `isinstance(exc, CRDTStoreError)`. -/
def StoreError.isCRDTStoreError : StoreError → Bool
  | hashMismatch _ _ | signatureMismatch | unknownAuthor | writeFailed => true
  | malformedDid _ | canonicalization | data | pendingRollback => false

/-- `KeyPair`. -/
structure KeyPair where
  privateSeed : Bytes
  publicBytes : Bytes
  seedLength : privateSeed.length = 32
  publicLength : publicBytes.length = 32

/-- `_public_key_for_did` on the declared author, which can be any value. -/
def publicKeyOfAuthor : Json → Except StoreError Bytes
  | .str did =>
    match publicKeyForDid did with
    | .error error => .error (.malformedDid error)
    | .ok none => .error .unknownAuthor
    | .ok (some key) => .ok key
  | _ => .error (.malformedDid .notAString)

/-- `decode_multibase` on a supplied signature: a text, or a list of
characters, which Python indexes and iterates like one. -/
def decodeSignature? : Json → Option Bytes
  | .str s => decodeMultibase? s
  | .list items =>
    (items.mapM (fun item : Json => item.asString?.bind (fun s =>
      match s.toList with
      | [ch] => some ch
      | _ => none))).bind decodeMultibaseChars?
  | _ => none

namespace CRDTStore

variable (host : Host)

/-- The check of a hash the caller supplied. -/
def checkHash (precomputed : Option String) (computed : String) : Except StoreError Unit :=
  match precomputed with
  | none => .ok ()
  | some hash => if hash = computed then .ok () else .error (.hashMismatch hash computed)

/-- `_resolve_hash_and_signature`. -/
def resolveHashAndSignature (body : CanonicalBody) (keypair : Option KeyPair)
    (precomputedHash : Option String) (precomputedSignature : Option Json) :
    Except StoreError (Option String × Option Json) :=
  match keypair, precomputedSignature with
  | none, none =>
    if precomputedHash = none ∧ body.authorDid.isNone then .ok (none, none)
    else
      match body.contentHash host with
      | none => .error .canonicalization
      | some computed => do
        checkHash precomputedHash computed
        return (some computed, none)
  | some keypair, _ =>
    match body.toSignableBytes host with
    | none => .error .canonicalization
    | some bytes => do
      let computed := encodeMultibase (host.sha256 bytes)
      checkHash precomputedHash computed
      let signature := encodeMultibase (host.sign bytes keypair.privateSeed)
      match precomputedSignature.map Json.asString? with
      | none => return (some computed, some (.str signature))
      | some supplied =>
        if supplied = some signature then return (some computed, some (.str signature))
        else throw .signatureMismatch
  | none, some supplied =>
    match body.toSignableBytes host with
    | none => .error .canonicalization
    | some bytes => do
      let computed := encodeMultibase (host.sha256 bytes)
      checkHash precomputedHash computed
      match body.authorDid with
      | none => throw .unknownAuthor
      | some author =>
        let publicBytes ← publicKeyOfAuthor author
        match decodeSignature? supplied with
        | none => throw .signatureMismatch
        | some signature =>
          if host.verify bytes signature publicBytes then return (some computed, some supplied)
          else throw .signatureMismatch

end CRDTStore

/-! ## The row -/

/-- A text that a `varchar` column of the given length accepts. -/
def columnText? (length : Nat) : Json → Option String
  | .str s => if s.length ≤ length ∧ '\x00' ∉ s.toList then some s else none
  | _ => none

/-- A value of a nullable column. -/
def columnOption? (length : Nat) : Option Json → Option (Option String)
  | none => some none
  | some value => (columnText? length value).map some

/-- The row a write describes, as its columns store it; `none` is the
`DataError` of a value that its column does not accept. -/
def MemoryWrite.row? (host : Host) (write : MemoryWrite) (contentHash : Option String)
    (signature : Option Json) (now : Time) : Option MemoryRecord := do
  let authorDid ← columnOption? 512 write.authorDid
  let parentHashes ← write.parentHashes.mapM (columnText? 128)
  let signature ← columnOption? 256 signature
  let contentHash ← columnOption? 128 (contentHash.map .str)
  let metadata := Assoc.ofList
    (write.metadata.map (fun entry => (entry.1.jsonName host.repr, entry.2)))
  guard ('\x00' ∉ write.content.toList ∧ (Json.dict metadata).storable)
  return {
    workflowId := some write.workflowId
    sourceAgentId := write.sourceAgentId
    memoryType := write.memoryType
    content := write.content
    metadata
    confidence := write.confidence
    version := write.version
    parentVersionId := write.parentVersionId
    authorDid
    parentHashes
    signature
    contentHash
    recordState := write.recordState
    expiresAt := write.expiresAt
    createdAt := now }

namespace Db

/-- `_fetch_by_hash`. -/
def fetchByHash (db : Db) (contentHash : Option String) : Option MemoryRecord :=
  contentHash.bind (fun hash =>
    db.memoryRecords.rows.find? (fun record => record.contentHash = some hash))

/-- `session.add(record)` and `flush`: the foreign keys and the unique hash. -/
def insertMemoryRecord (db : Db) (record : MemoryRecord) :
    Except StoreError (MemoryRecord × Db) :=
  if record.workflowId.all db.hasWorkflow && db.hasAgent record.sourceAgentId then
    match db.memoryRecords.insert? record with
    | none => .error .writeFailed
    | some (row, table) => .ok (row, { db with memoryRecords := table })
  else .error .writeFailed

end Db

namespace CRDTStore

/-- What the `except IntegrityError` branch raises.  The row is flushed before
the SAVEPOINT is there, so the failed flush leaves the session inactive, and the
second lookup by hash raises. -/
def afterFailedFlush (contentHash : Option String) (error : StoreError) : StoreError :=
  if contentHash.isSome then .pendingRollback else error

/-- `put`. -/
def put (host : Host) (db : Db) (now : Time) (write : MemoryWrite)
    (keypair : Option KeyPair) (precomputedHash : Option String)
    (precomputedSignature : Option Json) : Except StoreError (MemoryRecord × Db) := do
  let (contentHash, signature) ←
    resolveHashAndSignature host write.canonicalBody keypair precomputedHash precomputedSignature
  match db.fetchByHash contentHash with
  | some existing => return (existing, db)
  | none =>
    match write.row? host contentHash signature now with
    | none => throw .data
    | some record => (db.insertMemoryRecord record).mapError (afterFailedFlush contentHash)

end CRDTStore

end MassClaw
