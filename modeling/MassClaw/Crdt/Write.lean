import MassClaw.Crdt.Store
import MassClaw.Lib.Outcome

/-!
# What the store writes

`put` either answers with a row that is there already or appends one row.  The
appended row has the canonical body of the write, except for a metadata key
that Python's `str` and JSON spell differently; so a signature that `put` has
verified also verifies over the body of the row.
-/

namespace MassClaw

variable {host : Host}

/-! ## The row of a write -/

theorem columnText?_eq_some {length : Nat} {value : Json} {text : String}
    (h : columnText? length value = some text) : value = .str text := by
  unfold columnText? at h
  split at h
  · split at h
    · cases h
      rfl
    · cases h
  · cases h

theorem columnOption?_eq_some {length : Nat} {value : Option Json} {text : Option String}
    (h : columnOption? length value = some text) : value = text.map .str := by
  cases value with
  | none =>
    cases h
    rfl
  | some value =>
    obtain ⟨text', htext, rfl⟩ := Option.map_eq_some_iff.1 h
    rw [columnText?_eq_some htext]
    rfl

private theorem mapM_columnText?_eq_some {length : Nat} {values : List Json}
    {texts : List String} (h : values.mapM (columnText? length) = some texts) :
    values = texts.map .str := by
  induction values generalizing texts with
  | nil =>
    cases h
    rfl
  | cons value rest ih =>
    simp only [List.mapM_cons, Option.bind_eq_bind, Option.bind_eq_some_iff, Option.pure_def,
      Option.some.injEq] at h
    obtain ⟨text, htext, texts', htexts, rfl⟩ := h
    rw [columnText?_eq_some htext, ih htexts]
    rfl

/-- No metadata key is one that `str` and JSON spell differently. -/
def MemoryWrite.PlainKeys (write : MemoryWrite) : Prop :=
  ∀ entry ∈ write.metadata, ¬entry.1.IsKeyword

/-- What the columns of the row hold. -/
structure IsRowOf (host : Host) (write : MemoryWrite) (contentHash : Option String)
    (signature : Option Json) (now : Time) (row : MemoryRecord) : Prop where
  workflowId : row.workflowId = some write.workflowId
  sourceAgentId : row.sourceAgentId = write.sourceAgentId
  memoryType : row.memoryType = write.memoryType
  content : row.content = write.content
  confidence : row.confidence = write.confidence
  metadata : row.metadata = Assoc.ofList
    (write.metadata.map (fun entry => (entry.1.jsonName host.repr, entry.2)))
  authorDid : write.authorDid = row.authorDid.map .str
  parentHashes : write.parentHashes = row.parentHashes.map .str
  signature : signature = row.signature.map .str
  contentHash : row.contentHash = contentHash
  recordState : row.recordState = write.recordState
  createdAt : row.createdAt = now

theorem MemoryWrite.row?_eq_some {write : MemoryWrite} {contentHash : Option String}
    {signature : Option Json} {now : Time} {row : MemoryRecord}
    (h : write.row? host contentHash signature now = some row) :
    IsRowOf host write contentHash signature now row := by
  simp only [MemoryWrite.row?, Option.bind_eq_bind, Option.bind_eq_some_iff, Option.pure_def,
    Option.some.injEq] at h
  obtain ⟨authorDid, hauthor, parentHashes, hparents, text, htext, hash, hhash, -, -, rfl⟩ := h
  refine ⟨rfl, rfl, rfl, rfl, rfl, rfl, columnOption?_eq_some hauthor,
    mapM_columnText?_eq_some hparents, columnOption?_eq_some htext, ?_, rfl, rfl⟩
  have hstr := columnOption?_eq_some hhash
  cases hash with
  | none =>
    cases contentHash with
    | none => rfl
    | some expected => cases hstr
  | some hash =>
    cases contentHash with
    | none => cases hstr
    | some expected =>
      cases hstr
      rfl

/-- With plain keys the row has the canonical body of the write. -/
theorem IsRowOf.toSignableBytes_eq {write : MemoryWrite} {contentHash : Option String}
    {signature : Option Json} {now : Time} {row : MemoryRecord}
    (h : IsRowOf host write contentHash signature now row) (hkeys : write.PlainKeys) :
    row.canonicalBody.toSignableBytes host = write.canonicalBody.toSignableBytes host := by
  have hspelling : write.metadata.map (fun entry => (entry.1.jsonName host.repr, entry.2)) =
      write.metadata.map (fun entry => (entry.1.toJson.pyStr host.repr, entry.2)) :=
    List.map_congr_left (fun entry hentry => by
      rw [DictKey.jsonName_eq_pyStr (hkeys entry hentry)])
  have hclone : CanonicalBody.cloneMetadata host row.canonicalBody.metadata =
      CanonicalBody.cloneMetadata host write.canonicalBody.metadata := by
    have hnames : row.canonicalBody.metadata.map
        (fun entry => (entry.1.toJson.pyStr host.repr, entry.2)) = row.metadata := by
      rw [MemoryRecord.canonicalBody, List.map_map]
      exact List.map_id _
    rw [CanonicalBody.cloneMetadata, hnames, h.metadata, hspelling, Assoc.ofList_ofList]
    rfl
  have hjson : row.canonicalBody.asJsonable host = write.canonicalBody.asJsonable host := by
    unfold CanonicalBody.asJsonable
    rw [hclone]
    simp only [MemoryRecord.canonicalBody, MemoryWrite.canonicalBody, h.workflowId,
      h.sourceAgentId, h.memoryType, h.content, h.confidence, h.authorDid, h.parentHashes,
      Option.map_some, Option.getD_some]
  rw [CanonicalBody.toSignableBytes, CanonicalBody.toSignableBytes, hjson]

/-! ## Verified signatures -/

/-- The signature verifies over the canonical body of the record, under the key
that the DID embeds. -/
def MemoryRecord.VerifiesUnder (host : Host) (record : MemoryRecord) (did : String) : Prop :=
  ∃ signature decoded key bytes, record.signature = some signature ∧
    decodeMultibase? signature = some decoded ∧
    publicKeyForDid did = .ok (some key) ∧
    record.canonicalBody.toSignableBytes host = some bytes ∧
    host.verify bytes decoded key = true

/-- The signature verifies over the body under the key that the DID embeds. -/
def CanonicalBody.VerifiesUnder (host : Host) (body : CanonicalBody) (signature : Json)
    (did : String) : Prop :=
  ∃ decoded key bytes, decodeSignature? signature = some decoded ∧
    publicKeyForDid did = .ok (some key) ∧ body.toSignableBytes host = some bytes ∧
    host.verify bytes decoded key = true

theorem publicKeyOfAuthor_eq_ok {author : Json} {key : Bytes}
    (h : publicKeyOfAuthor author = .ok key) :
    ∃ did, author = .str did ∧ publicKeyForDid did = .ok (some key) := by
  unfold publicKeyOfAuthor at h
  split at h
  · rename_i did
    split at h
    · cases h
    · cases h
    · rename_i key' hkey
      cases h
      exact ⟨did, rfl, hkey⟩
  · cases h

/-- Without a key pair, a supplied signature comes back only if it verifies. -/
theorem CRDTStore.resolve_verified {body : CanonicalBody} {precomputedHash : Option String}
    {supplied : Json} {contentHash : Option String} {signature : Option Json}
    (h : resolveHashAndSignature host body none precomputedHash (some supplied) =
      .ok (contentHash, signature)) :
    signature = some supplied ∧ ∃ did decoded key bytes, body.authorDid = some (.str did) ∧
      publicKeyForDid did = .ok (some key) ∧ decodeSignature? supplied = some decoded ∧
      body.toSignableBytes host = some bytes ∧ host.verify bytes decoded key = true := by
  unfold resolveHashAndSignature at h
  cases hbytes : body.toSignableBytes host with
  | none =>
    simp only [hbytes] at h
    cases h
  | some bytes =>
    simp only [hbytes] at h
    obtain ⟨-, -, h⟩ := Outcome.bind_eq_ok h
    cases hauthor : body.authorDid with
    | none =>
      simp only [hauthor] at h
      cases h
    | some author =>
      simp only [hauthor] at h
      obtain ⟨key, hkey, h⟩ := Outcome.bind_eq_ok h
      cases hdecoded : decodeSignature? supplied with
      | none =>
        simp only [hdecoded] at h
        cases h
      | some decoded =>
        simp only [hdecoded] at h
        split at h
        · rename_i hverify
          cases h
          obtain ⟨did, rfl, hdid⟩ := publicKeyOfAuthor_eq_ok hkey
          exact ⟨rfl, did, decoded, key, bytes, rfl, hdid, rfl, rfl, hverify⟩
        · cases h

/-- Without a key pair, no signature comes back that was not supplied. -/
theorem CRDTStore.resolve_unsigned {body : CanonicalBody} {precomputedHash : Option String}
    {contentHash : Option String} {signature : Option Json}
    (h : resolveHashAndSignature host body none precomputedHash none =
      .ok (contentHash, signature)) : signature = none := by
  unfold resolveHashAndSignature at h
  dsimp only at h
  split at h
  · cases h
    rfl
  · split at h
    · cases h
    · obtain ⟨-, -, h⟩ := Outcome.bind_eq_ok h
      cases h
      rfl

/-- A signature that verifies is accepted with the hash of the body. -/
theorem CRDTStore.resolve_accepts {body : CanonicalBody} {did signature : String}
    {decoded key bytes : Bytes} (hauthor : body.authorDid = some (.str did))
    (hkey : publicKeyForDid did = .ok (some key))
    (hdecoded : decodeMultibase? signature = some decoded)
    (hbytes : body.toSignableBytes host = some bytes)
    (hverify : host.verify bytes decoded key = true) :
    resolveHashAndSignature host body none (some (encodeMultibase (host.sha256 bytes)))
      (some (.str signature)) =
        .ok (some (encodeMultibase (host.sha256 bytes)), some (.str signature)) := by
  have hpublic : publicKeyOfAuthor (.str did) = .ok key := by
    rw [publicKeyOfAuthor, hkey]
  have hsupplied : decodeSignature? (.str signature) = some decoded := hdecoded
  have hcheck : checkHash (some (encodeMultibase (host.sha256 bytes)))
      (encodeMultibase (host.sha256 bytes)) = .ok () := by
    rw [checkHash]
    exact if_pos rfl
  unfold resolveHashAndSignature
  simp only [hbytes, hcheck, hauthor, hpublic, hsupplied, hverify, if_true, bind, Except.bind,
    pure, Except.pure]

theorem CRDTStore.eq_of_checkHash {hash computed : String} {u : Unit}
    (h : checkHash (some hash) computed = .ok u) : hash = computed := by
  unfold checkHash at h
  dsimp only at h
  split at h
  · assumption
  · cases h

/-- Without a key pair, a hash that comes back is the hash of the body. -/
theorem CRDTStore.resolve_contentHash {body : CanonicalBody} {precomputedHash : Option String}
    {supplied : Option Json} {contentHash : Option String} {signature : Option Json}
    (h : resolveHashAndSignature host body none precomputedHash supplied =
      .ok (contentHash, signature)) :
    (contentHash = body.contentHash host ∧
        ∀ hash, precomputedHash = some hash → contentHash = some hash) ∨
      (contentHash = none ∧ precomputedHash = none ∧ supplied = none) := by
  have hchecked : ∀ {computed : String} {u : Unit},
      checkHash precomputedHash computed = .ok u →
        ∀ hash, precomputedHash = some hash → some computed = some hash := by
    intro computed u hcheck hash hsome
    rw [hsome] at hcheck
    rw [eq_of_checkHash hcheck]
  cases supplied with
  | none =>
    unfold resolveHashAndSignature at h
    dsimp only at h
    split at h
    · rename_i hnone
      cases h
      exact Or.inr ⟨rfl, hnone.1, rfl⟩
    · split at h
      · cases h
      · rename_i computed hcomputed
        obtain ⟨_, hcheck, h⟩ := Outcome.bind_eq_ok h
        cases h
        exact Or.inl ⟨hcomputed.symm, hchecked hcheck⟩
  | some supplied =>
    obtain ⟨-, did, decoded, key, bytes, hauthor, hkey, hdecoded, hbytes, hverify⟩ :=
      resolve_verified h
    have hpublic : publicKeyOfAuthor (.str did) = .ok key := by
      rw [publicKeyOfAuthor, hkey]
    unfold resolveHashAndSignature at h
    simp only [hbytes] at h
    obtain ⟨_, hcheck, h⟩ := Outcome.bind_eq_ok h
    simp only [hauthor, hpublic, hdecoded, hverify, if_true, bind, Except.bind] at h
    cases h
    exact Or.inl ⟨by rw [CanonicalBody.contentHash, hbytes]; rfl, hchecked hcheck⟩

/-- The row of a verified write is signed by the author that it names. -/
theorem IsRowOf.verifiesUnder {write : MemoryWrite} {precomputedHash contentHash : Option String}
    {supplied : Json} {signature : Option Json} {now : Time} {row : MemoryRecord}
    (h : IsRowOf host write contentHash signature now row) (hkeys : write.PlainKeys)
    (hresolve : CRDTStore.resolveHashAndSignature host write.canonicalBody none precomputedHash
      (some supplied) = .ok (contentHash, signature)) :
    row.isSigned = true ∧ ∃ did, row.authorDid = some did ∧ row.VerifiesUnder host did := by
  obtain ⟨hsignature, did, decoded, key, bytes, hbody, hkey, hdecoded, hbytes, hverify⟩ :=
    CRDTStore.resolve_verified hresolve
  have hauthor : row.authorDid = some did := by
    have hfield : row.authorDid.map Json.str = some (.str did) := h.authorDid.symm.trans hbody
    obtain ⟨text, htext, hjson⟩ := Option.map_eq_some_iff.1 hfield
    cases hjson
    exact htext
  -- the column holds texts only, so the verified signature is one
  have htext := h.signature
  rw [hsignature] at htext
  obtain ⟨text, hstored, hjson⟩ := Option.map_eq_some_iff.1 htext.symm
  subst hjson
  refine ⟨?_, did, hauthor, text, decoded, key, bytes, hstored, hdecoded, hkey, ?_, hverify⟩
  · rcases CRDTStore.resolve_contentHash hresolve with ⟨hhash, -⟩ | ⟨-, -, hnone⟩
    · have hrow := h.contentHash
      rw [hhash, CanonicalBody.contentHash, hbytes] at hrow
      rw [MemoryRecord.isSigned, hrow, hstored]
      rfl
    · cases hnone
  · rw [h.toSignableBytes_eq hkeys]
    exact hbytes

/-! ## Insertions -/

theorem Db.insertMemoryRecord_eq_ok {db db' : Db} {record row : MemoryRecord}
    (h : db.insertMemoryRecord record = .ok (row, db')) :
    row = { record with memoryId := db.memoryRecords.nextId } ∧
      db'.memoryRecords.rows = db.memoryRecords.rows ++ [row] ∧
      db' = { db with memoryRecords := db'.memoryRecords } := by
  unfold Db.insertMemoryRecord at h
  split at h
  · cases hinsert : db.memoryRecords.insert? record with
    | none =>
      simp only [hinsert] at h
      cases h
    | some result =>
      obtain ⟨row', table⟩ := result
      simp only [hinsert] at h
      cases h
      obtain ⟨hrow, hrows, -, -⟩ := Table.insert?_eq_some hinsert
      exact ⟨hrow, hrows, rfl⟩
  · cases h

/-- A hash that an appended row has was not there before. -/
theorem Db.fetchByHash_of_append {db db' : Db} {row : MemoryRecord} {hash : String}
    (hrows : db'.memoryRecords.rows = db.memoryRecords.rows ++ [row])
    (hhash : row.contentHash = some hash) : db.fetchByHash (some hash) = none := by
  refine List.find?_eq_none.2 (fun old hold hsame => ?_)
  refine Table.unique_ne_of_append hrows (show memorySchema.unique row = some hash from hhash)
    hold ?_
  show old.contentHash = some hash
  simpa using hsame

/-- `put` answers with a row of the same hash, or appends the row of the write. -/
theorem CRDTStore.put_cases {db db' : Db} {now : Time} {write : MemoryWrite}
    {keypair : Option KeyPair} {precomputedHash : Option String}
    {precomputedSignature : Option Json} {row : MemoryRecord}
    (h : put host db now write keypair precomputedHash precomputedSignature = .ok (row, db')) :
    ∃ contentHash signature,
      resolveHashAndSignature host write.canonicalBody keypair precomputedHash
        precomputedSignature = .ok (contentHash, signature) ∧
      ((db' = db ∧ db.fetchByHash contentHash = some row) ∨
        (IsRowOf host write contentHash signature now row ∧
          row.memoryId = db.memoryRecords.nextId ∧
          db'.memoryRecords.rows = db.memoryRecords.rows ++ [row] ∧
          db' = { db with memoryRecords := db'.memoryRecords })) := by
  unfold put at h
  obtain ⟨⟨contentHash, signature⟩, hresolve, h⟩ := Outcome.bind_eq_ok h
  refine ⟨contentHash, signature, hresolve, ?_⟩
  cases hfound : db.fetchByHash contentHash with
  | some existing =>
    simp only [hfound] at h
    cases h
    exact Or.inl ⟨rfl, rfl⟩
  | none =>
    simp only [hfound] at h
    cases hrow : write.row? host contentHash signature now with
    | none =>
      simp only [hrow] at h
      cases h
    | some record =>
      simp only [hrow] at h
      obtain ⟨hid, hrows, hdb⟩ := Db.insertMemoryRecord_eq_ok (Outcome.mapError_eq_ok.1 h)
      refine Or.inr ⟨?_, by rw [hid], hrows, hdb⟩
      have hrecord := MemoryWrite.row?_eq_some hrow
      rw [hid]
      exact { hrecord with }

end MassClaw
