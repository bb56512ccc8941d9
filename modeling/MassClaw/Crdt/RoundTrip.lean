import MassClaw.Crdt.Contract
import MassClaw.Crdt.Serving

/-!
# A record on its way to a peer

A row is serialised by the node that serves it, decoded by the client of the
other node and written there by the import.  The eight signed fields come out
as they went in; so the receiver signs the same bytes, and a signature that
verified over the row verifies again.  The one field that is not carried is an
author that is the empty text: the client reads it as no author.
-/

namespace MassClaw

/-- The record that the client decodes from the response of a row. -/
def PeerRecord.ofRow (row : MemoryRecord) (workflowId : UUID) (contentHash : String) :
    PeerRecord where
  contentHash := contentHash
  workflowId := workflowId.str
  sourceAgentId := row.sourceAgentId.map UUID.str
  memoryType := row.memoryType.value
  content := row.content
  confidence := row.confidence
  metadata := row.metadata.map (fun entry => (.str entry.1, entry.2))
  authorDid := row.authorDid.bind (fun did => (Json.str did).orNone)
  parentHashes := row.parentHashes.map .str
  signature := row.signature.bind (fun signature => (Json.str signature).orNone)
  recordState := row.recordState.value

variable {host : Host}

private theorem orNone_jsonOption (value : Option String) :
    (jsonOption value).orNone = value.bind (fun s => (Json.str s).orNone) := by
  cases value with
  | none => rfl
  | some s => rfl

theorem str_ne_empty (id : UUID) : id.str ≠ "" := by
  intro hempty
  have hparse := UUID.parse?_str id
  rw [hempty] at hparse
  cases hparse

/-- Decoding the response of a row. -/
theorem coerceRecord_memoryResponse {row : MemoryRecord} {workflowId : UUID} {contentHash : String}
    {response : List (String × Json)} (hresponse : memoryResponse host row = some response)
    (hworkflow : row.workflowId = some workflowId) (hhash : row.contentHash = some contentHash)
    (hne : contentHash ≠ "") :
    coerceRecord host response = .ok (PeerRecord.ofRow row workflowId contentHash) := by
  have hsource : ((row.sourceAgentId.map UUID.str).bind (fun s => (Json.str s).orNone)).map
      (Json.pyStr host.repr) = row.sourceAgentId.map UUID.str := by
    cases row.sourceAgentId with
    | none => rfl
    | some id =>
      have hid := str_ne_empty id
      simp [Json.orNone, Json.truthy, hid, Json.pyStr]
  have hmetadata : ((Json.dict row.metadata).or (.dict [])).toDict? =
      some (row.metadata.map (fun entry => (.str entry.1, entry.2))) := by
    cases row.metadata with
    | nil => rfl
    | cons entry rest => rfl
  have hparents : ((Json.list (row.parentHashes.map .str)).or (.list [])).toList? =
      some (row.parentHashes.map .str) := by
    cases row.parentHashes with
    | nil => rfl
    | cons parent rest => rfl
  rw [memoryResponse, hworkflow] at hresponse
  cases hresponse
  have hfield : (jsonOption (some contentHash)).or .null = .str contentHash := by
    simp [jsonOption, Json.or, Json.truthy, hne]
  unfold coerceRecord
  simp only [Json.lookup, Json.getD, List.find?_cons, String.reduceBEq, List.find?_nil,
    Option.map_some, Option.map_none, Option.getD_some, Option.getD_none, hhash, hfield, hne,
    if_false, hmetadata, hparents, orNone_jsonOption, hsource]
  rfl

/-! ## The import of the record -/

namespace GossipService

/-- The agent that a record names; `none` when the text is no UUID. -/
def sourceAgent? : Option String → Option (Option UUID)
  | none => some none
  | some raw => if raw = "" then some none else (UUID.parse? raw).map some

/-- What `_persist_peer_record` makes of the fields of a record; `none` when it
skips the record as invalid. -/
def importWrite? (record : PeerRecord) : Option MemoryWrite := do
  let workflowUuid ← UUID.parse? record.workflowId
  let sourceAgentUuid ← sourceAgent? record.sourceAgentId
  let memoryType ← MemoryType.ofValue? record.memoryType
  return writeOf record workflowUuid sourceAgentUuid memoryType

/-- How `_persist_peer_record` ends after the store has answered. -/
def afterPut (record : PeerRecord) (round : GossipRound) :
    Except StoreError (MemoryRecord × Db) → Except Stopped (Bool × GossipRound)
  | .ok (_, db) => .ok (true,
      { round with
        db
        known.contentHashes := round.known.contentHashes ++ [record.contentHash] })
  | .error error =>
    if error.isCRDTStoreError then .ok (false, skipInvalid round) else .error (.other, round)

/-- The import writes this and nothing else. -/
theorem storePeerRecord_eq {now : Time} {record : PeerRecord} {write : MemoryWrite}
    {round : GossipRound} (hwrite : importWrite? record = some write)
    (hnew : record.contentHash ∉ round.known.contentHashes) :
    storePeerRecord host now record write.workflowId round =
      afterPut record round (CRDTStore.put host round.db now write none
        (some record.contentHash) record.signature) := by
  simp only [importWrite?, Option.bind_eq_bind, Option.bind_eq_some_iff, Option.pure_def,
    Option.some.injEq] at hwrite
  obtain ⟨workflowUuid, -, sourceAgentUuid, hsource, memoryType, htype, rfl⟩ := hwrite
  have hworkflow : (writeOf record workflowUuid sourceAgentUuid memoryType).workflowId =
      workflowUuid := rfl
  rw [hworkflow]
  have hanswer : ∀ answer : Except StoreError (MemoryRecord × Db),
      (match answer with
      | .ok (_, db) => .ok (true,
        { round with
          db
          known.contentHashes := round.known.contentHashes ++ [record.contentHash] })
      | .error error =>
        if error.isCRDTStoreError then .ok (false, skipInvalid round)
        else .error (.other, round)) = afterPut record round answer := by
    intro answer
    cases answer with
    | ok result => rfl
    | error error => rfl
  unfold storePeerRecord
  rw [if_neg hnew]
  cases hraw : record.sourceAgentId with
  | none =>
    rw [hraw] at hsource
    cases hsource
    simp only [htype]
    exact hanswer _
  | some raw =>
    rw [hraw, sourceAgent?] at hsource
    simp only [hsource, htype]
    exact hanswer _

end GossipService

open GossipService

/-- The write of a row that comes from a peer. -/
def MemoryRecord.asWrite (row : MemoryRecord) (workflowId : UUID) : MemoryWrite where
  workflowId := workflowId
  memoryType := row.memoryType
  content := row.content
  confidence := row.confidence
  metadata := row.metadata.map (fun entry => (.str entry.1, entry.2))
  parentHashes := row.parentHashes.map .str
  authorDid := row.authorDid.bind (fun did => (Json.str did).orNone)
  sourceAgentId := row.sourceAgentId
  recordState := row.recordState

theorem importWrite?_ofRow (row : MemoryRecord) (workflowId : UUID) (contentHash : String) :
    importWrite? (PeerRecord.ofRow row workflowId contentHash) = some (row.asWrite workflowId) := by
  have hworkflow : UUID.parse? (PeerRecord.ofRow row workflowId contentHash).workflowId =
      some workflowId := UUID.parse?_str workflowId
  have hsource : sourceAgent? (PeerRecord.ofRow row workflowId contentHash).sourceAgentId =
      some row.sourceAgentId := by
    show sourceAgent? (row.sourceAgentId.map UUID.str) = _
    cases row.sourceAgentId with
    | none => rfl
    | some id =>
      rw [Option.map_some, sourceAgent?, if_neg (str_ne_empty id), UUID.parse?_str]
      rfl
  have htype : MemoryType.ofValue? (PeerRecord.ofRow row workflowId contentHash).memoryType =
      some row.memoryType := MemoryType.ofValue?_value row.memoryType
  have hstate : (RecordState.ofValue?
      (PeerRecord.ofRow row workflowId contentHash).recordState).getD .active = row.recordState := by
    show (RecordState.ofValue? row.recordState.value).getD .active = _
    rw [RecordState.ofValue?_value]
    rfl
  unfold importWrite?
  rw [hworkflow, hsource, htype]
  show some (writeOf (PeerRecord.ofRow row workflowId contentHash) workflowId row.sourceAgentId
    row.memoryType) = _
  rw [writeOf, hstate]
  rfl

/-- The receiver builds the body that the row has. -/
theorem canonicalBody_asWrite {row : MemoryRecord} {workflowId : UUID}
    (hworkflow : row.workflowId = some workflowId) (hauthor : row.authorDid ≠ some "") :
    (row.asWrite workflowId).canonicalBody = row.canonicalBody := by
  have hdid : row.authorDid.bind (fun did => (Json.str did).orNone) = row.authorDid.map .str := by
    cases hsome : row.authorDid with
    | none => rfl
    | some did =>
      have hne : did ≠ "" := fun hempty => hauthor (by rw [hsome, hempty])
      simp [Json.orNone, Json.truthy, hne]
  have hid : (row.workflowId.map UUID.str).getD "None" = workflowId.str := by
    rw [hworkflow]
    rfl
  unfold MemoryWrite.canonicalBody MemoryRecord.canonicalBody MemoryRecord.asWrite
  rw [hdid, hid]

/-! ## The signature on the other side -/

/-- A signature that verifies is not the empty text. -/
theorem MemoryRecord.VerifiesUnder.signature_ne {row : MemoryRecord} {did : String}
    (h : row.VerifiesUnder host did) :
    ∃ signature, row.signature = some signature ∧
      row.signature.bind (fun signature => (Json.str signature).orNone) = some (.str signature) := by
  obtain ⟨signature, decoded, -, -, hsignature, hdecoded, -⟩ := h
  refine ⟨signature, hsignature, ?_⟩
  have hne : signature ≠ "" := by
    intro hempty
    rw [hempty] at hdecoded
    cases hdecoded
  rw [hsignature]
  simp [Json.orNone, Json.truthy, hne]

/-- The receiver signs the bytes of the row, computes its hash, and accepts the
signature that verifies over the row. -/
structure RebuiltFrom (host : Host) (row : MemoryRecord) (record : PeerRecord)
    (write : MemoryWrite) : Prop where
  signableBytes : write.canonicalBody.toSignableBytes host = row.canonicalBody.toSignableBytes host
  contentHash : write.canonicalBody.contentHash host = row.canonicalBody.contentHash host
  accepted : ∀ did, row.authorDid = some did → row.VerifiesUnder host did →
    row.contentHash = row.canonicalBody.contentHash host →
      CRDTStore.resolveHashAndSignature host write.canonicalBody none (some record.contentHash)
        record.signature = .ok (row.contentHash, row.signature.map .str)

/-- The row is served, decoded and imported as a write that is rebuilt from
it. -/
def Rebuilds (host : Host) (row : MemoryRecord) : Prop :=
  ∃ response record write, memoryResponse host row = some response ∧
    coerceRecord host response = .ok record ∧ importWrite? record = some write ∧
    RebuiltFrom host row record write

/-- The body of a row whose author is not the empty text is rebuilt. -/
theorem rebuiltFrom_ofRow {row : MemoryRecord} {workflowId : UUID} {contentHash : String}
    (hworkflow : row.workflowId = some workflowId) (hhash : row.contentHash = some contentHash)
    (hauthor : row.authorDid ≠ some "") :
    RebuiltFrom host row (PeerRecord.ofRow row workflowId contentHash)
      (row.asWrite workflowId) := by
  have hbody := canonicalBody_asWrite hworkflow hauthor
  refine ⟨by rw [hbody], by rw [hbody], fun did hdid hverifies haddress => ?_⟩
  obtain ⟨text, htext, hsent⟩ := hverifies.signature_ne
  obtain ⟨signature, decoded, key, bytes, hsignature, hdecoded, hkey, hbytes, hverify⟩ := hverifies
  rw [htext] at hsignature
  cases hsignature
  have hnamed : row.canonicalBody.authorDid = some (.str did) := by
    rw [MemoryRecord.canonicalBody, hdid]
    rfl
  have hcomputed : contentHash = encodeMultibase (host.sha256 bytes) := by
    rw [hhash, CanonicalBody.contentHash, hbytes, Option.map_some] at haddress
    exact Option.some.inj haddress
  have hfield : (PeerRecord.ofRow row workflowId contentHash).signature = some (.str text) := hsent
  rw [hbody, hfield, htext, hhash]
  show CRDTStore.resolveHashAndSignature host row.canonicalBody none (some contentHash)
    (some (.str text)) = _
  rw [hcomputed]
  exact CRDTStore.resolve_accepts hnamed hkey hdecoded hbytes hverify

/-- Every signed row that is served and whose author is not the empty text is
rebuilt on the other side. -/
theorem rebuilds_of_author (host : Host) (row : MemoryRecord) (hsigned : row.isSigned = true)
    (hworkflow : row.workflowId.isSome) (hhash : row.contentHash ≠ some "")
    (hauthor : row.authorDid ≠ some "") : Rebuilds host row := by
  obtain ⟨workflowId, hworkflow⟩ := Option.isSome_iff_exists.1 hworkflow
  rw [MemoryRecord.isSigned, Bool.and_eq_true] at hsigned
  obtain ⟨contentHash, hsome⟩ := Option.isSome_iff_exists.1 hsigned.1
  have hne : contentHash ≠ "" := fun hempty => hhash (by rw [hsome, hempty])
  obtain ⟨response, hresponse⟩ : ∃ response, memoryResponse host row = some response := by
    rw [memoryResponse, hworkflow]
    exact ⟨_, rfl⟩
  exact ⟨response, _, _, hresponse, coerceRecord_memoryResponse hresponse hworkflow hsome hne,
    importWrite?_ofRow row workflowId contentHash, rebuiltFrom_ofRow hworkflow hsome hauthor⟩

/-! ## An author that is the empty text -/

namespace RoundTripExample

open CRDTStore.ContractExample

/-- The row that the store makes of a signed fact of the given author. -/
def row (author : String) : MemoryRecord :=
  match CRDTStore.put oneDigest start 0 { write with authorDid := some (.str author) }
      (some pair) none none with
  | .ok (row, _) => row
  | .error _ =>
    { workflowId := none, sourceAgentId := none, memoryType := .fact, content := ""
      metadata := [], confidence := .nan, createdAt := 0 }

end RoundTripExample

open CRDTStore.ContractExample RoundTripExample in
/-- A signed fact of a named author is rebuilt. -/
theorem rebuilds_fact : Rebuilds oneDigest (row author) :=
  rebuilds_of_author oneDigest (row author) (by decide +kernel) (by decide +kernel)
    (by decide +kernel) (by decide +kernel)

open CRDTStore.ContractExample RoundTripExample in
/-- The store signs a fact whose author is the empty text; the receiver signs
`null` in its place. -/
theorem rebuilds_fails :
    ¬∀ (host : Host) (db db' : Db) (now : Time) (write : MemoryWrite)
      (keypair : Option KeyPair) (precomputedHash : Option String)
      (precomputedSignature : Option Json) (row : MemoryRecord),
      CRDTStore.put host db now write keypair precomputedHash precomputedSignature =
        .ok (row, db') →
      row.isSigned = true → row.workflowId.isSome → Rebuilds host row := by
  intro h
  have hcolumns : (row "").workflowId = some (UUID.ofNat 1) ∧ (row "").isSigned = true ∧
      (row "").contentHash = some (encodeMultibase (List.replicate 32 0)) := by
    decide +kernel
  have hdiffers : ((row "").asWrite (UUID.ofNat 1)).canonicalBody.toSignableBytes oneDigest ≠
      (row "").canonicalBody.toSignableBytes oneDigest := by
    decide +kernel
  obtain ⟨hworkflow, hsigned, hhash⟩ := hcolumns
  cases hput : CRDTStore.put oneDigest start 0 { write with authorDid := some (.str "") }
      (some pair) none none with
  | error error =>
    rw [row, hput] at hsigned
    cases hsigned
  | ok result =>
    have hrow : result.1 = row "" := by rw [row, hput]
    obtain ⟨response, record, write', hresponse, hrecord, hwrite, hrebuilt⟩ :=
      h oneDigest start result.2 0 _ (some pair) none none (row "")
        (by rw [hput, ← hrow]) hsigned (by rw [hworkflow]; rfl)
    rw [coerceRecord_memoryResponse hresponse hworkflow hhash (by decide +kernel)] at hrecord
    cases hrecord
    rw [importWrite?_ofRow] at hwrite
    cases hwrite
    exact hdiffers hrebuilt.signableBytes

end MassClaw
