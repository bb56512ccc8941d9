import MassClaw.Crdt.Gossip
import MassClaw.Crdt.Write

/-!
# What a gossip round imports

`reconcileWith_keeps` is the rule for properties of the memory table: a round
keeps what the store keeps on every record that the peer serves.  The property
here says that every row the round has added and that names an author carries
a signature that verifies over its canonical body; the store keeps it on a
record that carries a signature whenever it names an author, and whose metadata
keys have one spelling.

A record that names an author and carries no signature is imported all the
same: the store then takes its unsigned path, which compares the hash and
verifies nothing.
-/

namespace MassClaw

namespace GossipService

variable {host : Host} {now : Time} {db : Db}

/-- The record carries a signature when it names an author, and `str` and JSON
spell its metadata keys alike. -/
def SignsAuthored (record : PeerRecord) : Prop :=
  record.authorDid.isSome →
    record.signature.isSome ∧ ∀ entry ∈ record.metadata, ¬entry.1.IsKeyword

/-- Every record that the peer serves does so. -/
def PeerSignsAuthored (host : Host) (peer : Peer) : Prop :=
  ∀ batch records, peer.fetchRecords host batch = .ok records →
    ∀ record ∈ records, SignsAuthored record

/-- A row that names an author has a signature that verifies. -/
def AuthorVerified (host : Host) (record : MemoryRecord) : Prop :=
  ∀ did, record.authorDid = some did → record.VerifiesUnder host did

/-! ## Properties that a round keeps -/

/-- What the store does with the record keeps a property of the memory table. -/
def PutKeeps (host : Host) (now : Time) (I : MemoryTable → Prop) (record : PeerRecord) : Prop :=
  ∀ db workflowUuid sourceAgentUuid memoryType row db',
    MemoryType.ofValue? record.memoryType = some memoryType →
    CRDTStore.put host db now (writeOf record workflowUuid sourceAgentUuid memoryType) none
      (some record.contentHash) record.signature = .ok (row, db') →
    I db.memoryRecords → I db'.memoryRecords

section Rounds

variable {I : MemoryTable → Prop} {record : PeerRecord} {round : GossipRound} {peer : Peer}

theorem storePeerRecord_keeps (hput : PutKeeps host now I record) {workflowUuid : UUID}
    (h : I round.db.memoryRecords) :
    Outcome.Holds (fun result => I result.2.db.memoryRecords)
      (fun stopped => I stopped.2.db.memoryRecords)
      (storePeerRecord host now record workflowUuid round) := by
  unfold storePeerRecord
  split
  · exact h
  · dsimp only
    split
    · exact h
    · exact h
    · rename_i sourceAgentUuid memoryType _ htype
      split
      · rename_i row db' hresult
        exact hput _ _ _ _ _ _ htype hresult h
      · split
        · exact h
        · exact h

theorem rows_autoShadowWorkflow {db' : Db} {workflowUuid : UUID} {record : PeerRecord}
    (h : autoShadowWorkflow db workflowUuid record = some db') :
    db'.memoryRecords = db.memoryRecords := by
  unfold autoShadowWorkflow at h
  split at h
  · cases h
    rfl
  · dsimp only at h
    split at h
    · cases h
    · cases h
      rfl

theorem persistOne_keeps (hput : PutKeeps host now I record) (h : I round.db.memoryRecords) :
    Outcome.Holds (fun round => I round.db.memoryRecords)
      (fun stopped => I stopped.2.db.memoryRecords) (persistOne host now round record) := by
  have hpersist : Outcome.Holds (fun result => I result.2.db.memoryRecords)
      (fun stopped => I stopped.2.db.memoryRecords)
      (persistPeerRecord host now record round) := by
    unfold persistPeerRecord
    split
    · exact h
    · split
      · exact h
      · rename_i workflowUuid _
        split
        · exact storePeerRecord_keeps hput h
        · split
          · exact h
          · rename_i db' hshadow
            refine storePeerRecord_keeps hput ?_
            show I db'.memoryRecords
            rw [rows_autoShadowWorkflow hshadow]
            exact h
  refine hpersist.bind (fun result hresult => ?_)
  obtain ⟨persisted, round'⟩ := result
  cases persisted with
  | false => exact hresult
  | true => exact hresult

theorem request_holds {α : Type} {Q : α → Prop} {E : Stopped → Prop}
    {answer : Except ClientFailure α} (hok : ∀ a, answer = .ok a → Q a)
    (herror : ∀ failure, E (failure, round)) :
    Outcome.Holds Q E (request round answer) := by
  cases answer with
  | ok a => exact hok a rfl
  | error failure => exact herror failure

theorem persistBatch_keeps {batch : Nat}
    (hput : ∀ batch records, peer.fetchRecords host batch = .ok records →
      ∀ record ∈ records, PutKeeps host now I record)
    (h : I round.db.memoryRecords) :
    Outcome.Holds (fun round => I round.db.memoryRecords)
      (fun stopped => I stopped.2.db.memoryRecords) (persistBatch host now peer round batch) := by
  refine (request_holds (Q := fun records => peer.fetchRecords host batch = .ok records)
    (fun records hrecords => hrecords) (fun _ => h)).bind (fun records hrecords => ?_)
  refine Outcome.Holds.foldlM_mem (I := fun (round : GossipRound) => I round.db.memoryRecords) records _
    (fun record hrecord s hs => ?_) h
  exact persistOne_keeps (hput batch records hrecords record hrecord) hs

theorem collectMissingHashes_holds {indices : List Nat} {workflowId : Option UUID}
    {E : Stopped → Prop} (herror : ∀ failure, E (failure, round)) :
    Outcome.Holds (fun _ => True) E (collectMissingHashes peer round indices workflowId) := by
  refine Outcome.Holds.foldlM_mem indices [] (fun index _ missing _ => ?_) trivial
  exact (request_holds (Q := fun _ => True) (fun _ _ => trivial) herror).bind
    (fun _ _ => trivial)

/-- A round keeps what the store keeps on every record that the peer serves. -/
theorem reconcileWith_keeps (cached : Option MerkleSummary) (workflowId : Option UUID)
    (hput : ∀ batch records, peer.fetchRecords host batch = .ok records →
      ∀ record ∈ records, PutKeeps host now I record)
    (h : I db.memoryRecords) :
    I (reconcileWith host now db peer cached workflowId).2.memoryRecords := by
  have hbody : Outcome.Holds (fun round => I round.db.memoryRecords)
      (fun stopped => I stopped.2.db.memoryRecords)
      (reconcileBody host now db peer cached workflowId) := by
    unfold reconcileBody
    refine (request_holds (Q := fun _ => True) (fun _ _ => trivial) (fun _ => h)).bind ?_
    intro summary _
    obtain ⟨peerRoot, peerBuckets⟩ := summary
    dsimp only
    split
    · exact h
    · split
      · exact h
      · rename_i divergent _
        split
        · exact h
        · refine (collectMissingHashes_holds (fun _ => h)).bind (fun missing _ => ?_)
          exact Outcome.Holds.foldlM_mem (I := fun (round : GossipRound) =>
            I round.db.memoryRecords) _ _ (fun batch _ s hs => persistBatch_keeps hput hs) h
  unfold reconcileWith
  cases hresult : reconcileBody host now db peer cached workflowId with
  | ok round => exact hbody.of_ok hresult
  | error stopped => exact hbody.of_error hresult

/-- A round removes no row and changes none. -/
theorem rows_reconcileWith (cached : Option MerkleSummary) (workflowId : Option UUID) :
    ∀ row ∈ db.memoryRecords.rows,
      row ∈ (reconcileWith host now db peer cached workflowId).2.memoryRecords.rows := by
  refine reconcileWith_keeps (I := fun table => ∀ row ∈ db.memoryRecords.rows, row ∈ table.rows)
    cached workflowId (fun batch records _ record _ => ?_) (fun row hrow => hrow)
  intro before workflowUuid sourceAgentUuid memoryType written after _ hput h row hrow
  obtain ⟨_, _, _, hcases⟩ := CRDTStore.put_cases hput
  rcases hcases with ⟨rfl, -⟩ | ⟨-, -, hrows, -⟩
  · exact h row hrow
  · rw [hrows]
    exact List.mem_append_left _ (h row hrow)

end Rounds

/-! ## Signed records -/

/-- The row that the write of a signed record appends is verified. -/
theorem authorVerified_of_put {record : PeerRecord} {workflowUuid : UUID}
    {sourceAgentUuid : Option UUID} {memoryType : MemoryType} {db' : Db} {row : MemoryRecord}
    (hsigns : SignsAuthored record)
    (hput : CRDTStore.put host db now (writeOf record workflowUuid sourceAgentUuid memoryType)
      none (some record.contentHash) record.signature = .ok (row, db')) :
    db' = db ∨ (db'.memoryRecords.rows = db.memoryRecords.rows ++ [row] ∧
      AuthorVerified host row) := by
  obtain ⟨contentHash, signature, hresolve, hcases⟩ := CRDTStore.put_cases hput
  rcases hcases with ⟨hsame, -⟩ | ⟨hrow, -, hrows, -⟩
  · exact Or.inl hsame
  · refine Or.inr ⟨hrows, fun did hdid => ?_⟩
    have hauthor : record.authorDid = some (.str did) := by
      have hfield := hrow.authorDid
      rw [hdid] at hfield
      exact hfield
    obtain ⟨hsigned, hkeys⟩ := hsigns (by rw [hauthor]; rfl)
    obtain ⟨supplied, hsupplied⟩ := Option.isSome_iff_exists.1 hsigned
    rw [hsupplied] at hresolve
    obtain ⟨-, did', hdid', hverifies⟩ := hrow.verifiesUnder hkeys hresolve
    rw [hdid] at hdid'
    cases hdid'
    exact hverifies

namespace ImportExample

/-- A database with one workflow. -/
def start : Db where
  workflows :=
    [{ workflowId := UUID.ofNat 1, prompt := "audit", status := .running, budgetLimit := 1000000
       budgetUsed := 0, dagSnapshot := none, result := none, startedAt := none
       completedAt := none }]
  agents := []
  tasks := []
  memoryRecords := Table.empty
  walletEvents := Table.empty

/-- The author the peer names. -/
def victim : String := "did:key:z6MkhaXgBZDvotDkL5257faiztiGiC2QtKLGpbnnEGta2doK"

/-- The write the peer's record asks for. -/
def forged : MemoryWrite where
  workflowId := UUID.ofNat 1
  memoryType := .fact
  content := "claim"
  confidence := .finite 1
  authorDid := some (.str victim)

/-- The content hash of its body. -/
def forgedHash (host : Host) : String := (forged.canonicalBody.contentHash host).getD ""

/-- The record as the peer serves it, with the given signature field. -/
def served (host : Host) (signature : Json) : List (String × Json) :=
  [ ("hash", .str (forgedHash host)), ("workflow_id", .str (UUID.ofNat 1).str)
  , ("memory_type", .str "fact"), ("content", .str "claim"), ("confidence", .int 1)
  , ("author_did", .str victim), ("signature", signature) ]

/-- The record as the client decodes it. -/
def decoded (host : Host) (signature : Option Json) : PeerRecord where
  contentHash := forgedHash host
  workflowId := (UUID.ofNat 1).str
  sourceAgentId := none
  memoryType := "fact"
  content := "claim"
  confidence := .finite 1
  metadata := []
  authorDid := some (.str victim)
  parentHashes := []
  signature
  recordState := "active"

/-- Bucket digests of which only the first is one. -/
def peerBuckets : List Json := .str "0" :: List.replicate 255 .null

/-- A peer that lists and serves this record in bucket 0. -/
def peer (host : Host) (signature : Json) : Peer where
  summary := .answer 200 (some (.dict
    [ ("root", .str ((summariseHashes host []).root ++ "0"))
    , ("buckets", .list peerBuckets) ]))
  bucket := fun _ => .answer 200 (some (.dict [("hashes", .list [.str (forgedHash host)])]))
  records := fun _ => .answer 200 (some (.dict [("records", .list [.dict (served host signature)])]))

variable (host)

theorem contentHash_forged : forged.canonicalBody.contentHash host = some (forgedHash host) := by
  have hsome : (forged.canonicalBody.contentHash host).isSome := by
    simp [forged, MemoryWrite.canonicalBody, CanonicalBody.contentHash,
      CanonicalBody.toSignableBytes, CanonicalBody.asJsonable, sortParents, canonicalize,
      CanonicalBody.cloneMetadata, Assoc.ofList, Canonical.emit, Canonical.emitEntries,
      Canonical.emitItems]
  obtain ⟨hash, hhash⟩ := Option.isSome_iff_exists.1 hsome
  rw [forgedHash, hhash, Option.getD_some]

theorem forgedHash_prefix : ∃ rest, (forgedHash host).toList = 'z' :: rest :=
  CanonicalBody.contentHash_prefix host (contentHash_forged host)

theorem forgedHash_ne : forgedHash host ≠ "" := by
  obtain ⟨rest, hrest⟩ := forgedHash_prefix host
  intro hempty
  rw [hempty] at hrest
  cases hrest

theorem coerceRecord_served (signature : Json) :
    coerceRecord host (served host signature) = .ok (decoded host signature.orNone) := by
  have hne := forgedHash_ne host
  simp [coerceRecord, served, Json.lookup, Json.getD, Json.or, Json.truthy, hne, Json.orNone,
    Json.toFloat?, Json.number?, Json.toDict?, Json.toList?, orRaise, Json.pyStr, decoded, bind,
    Except.bind, pure, Except.pure, victim]

theorem fetchRecords_peer (signature : Json) (batch : Nat) :
    (peer host signature).fetchRecords host batch = .ok [decoded host signature.orNone] := by
  have hraw : ((peer host signature).records batch).rawRecords = .ok [served host signature] := rfl
  unfold Peer.fetchRecords
  rw [hraw]
  simp only [bind, Except.bind, List.mapM_cons, List.mapM_nil, coerceRecord_served, pure,
    Except.pure]

theorem root_ne : (summariseHashes host []).root ≠ (summariseHashes host []).root ++ "0" := by
  intro heq
  have hlength := congrArg String.length heq
  rw [String.length_append] at hlength
  have hone : "0".length = 1 := rfl
  omega

theorem fetchSummary_peer (signature : Json) : (peer host signature).fetchSummary host =
    .ok ((summariseHashes host []).root ++ "0", peerBuckets) := by
  have hbody : (peer host signature).summary.jsonObject = .ok
      [ ("root", .str ((summariseHashes host []).root ++ "0")), ("buckets", .list peerBuckets) ] :=
    rfl
  have hlength : peerBuckets.length = bucketCount := by
    rw [peerBuckets, List.length_cons, List.length_replicate]
    rfl
  unfold Peer.fetchSummary
  rw [hbody]
  simp [bind, Except.bind, pure, Except.pure, hlength, Json.getD, Json.toInt?, Json.number?,
    Json.pyStr]

theorem divergesFrom_peer :
    (summariseHashes host []).divergesFrom peerBuckets = some [0] := by
  have hbuckets : (summariseHashes host []).buckets = List.replicate 256 none := by
    have hdigest : ∀ i, bucketDigest host (bucketOf [] i) = none := fun i => by
      simp [bucketOf, bucketDigest]
    unfold summariseHashes
    simp only [hdigest, List.map_const', List.length_range, bucketCount]
  unfold MerkleSummary.divergesFrom
  rw [hbuckets]
  decide +kernel

theorem fetchBucketHashes_peer (signature : Json) (index : Nat) :
    (peer host signature).fetchBucketHashes index = .ok [forgedHash host] := by
  obtain ⟨rest, hrest⟩ := forgedHash_prefix host
  have hbody : ((peer host signature).bucket index).jsonObject =
      .ok [("hashes", .list [.str (forgedHash host)])] := rfl
  unfold Peer.fetchBucketHashes
  rw [hbody]
  simp [bind, Except.bind, Json.lookup, Json.getD, pure, Except.pure, hrest]

/-- The hash fits its column. -/
theorem columnText?_forgedHash (hlength : ∀ data, (host.sha256 data).length = 32) :
    columnText? 128 (.str (forgedHash host)) = some (forgedHash host) := by
  obtain ⟨bytes, -, hhash⟩ := Option.map_eq_some_iff.1 (contentHash_forged host)
  have hchars : (forgedHash host).toList = 'z' :: Base58.encode (host.sha256 bytes) := by
    rw [← hhash, encodeMultibase, String.toList_ofList]
  have hshort : (forgedHash host).length ≤ 128 := by
    have hencoded := Base58.length_encode_le (host.sha256 bytes)
    rw [hlength] at hencoded
    rw [← String.length_toList, hchars, List.length_cons]
    omega
  have hnul : '\x00' ∉ (forgedHash host).toList := by
    rw [hchars]
    intro hmem
    rcases List.mem_cons.1 hmem with hfirst | hrest
    · exact absurd hfirst (by decide)
    · exact absurd (Base58.mem_encode hrest) (by decide)
  rw [columnText?, if_pos ⟨hshort, hnul⟩]

/-- The row the store writes for the record without a signature. -/
def row (now : Time) : MemoryRecord where
  workflowId := some (UUID.ofNat 1)
  sourceAgentId := none
  memoryType := .fact
  content := "claim"
  metadata := []
  confidence := .finite 1
  authorDid := some victim
  contentHash := some (forgedHash host)
  createdAt := now

theorem put_forged (hlength : ∀ data, (host.sha256 data).length = 32) (now : Time) :
    ∃ db', CRDTStore.put host start now forged none (some (forgedHash host)) none =
        .ok (row host now, db') ∧ db'.memoryRecords.rows = [row host now] := by
  have hresolve : CRDTStore.resolveHashAndSignature host forged.canonicalBody none
      (some (forgedHash host)) none = .ok (some (forgedHash host), none) := by
    have hhash := contentHash_forged host
    unfold CRDTStore.resolveHashAndSignature
    simp [hhash, CRDTStore.checkHash, bind, Except.bind, pure, Except.pure]
  have hrow : forged.row? host (some (forgedHash host)) none now = some (row host now) := by
    have hcolumn := columnText?_forgedHash host hlength
    have hauthor : columnText? 512 (.str victim) = some victim := by decide +kernel
    simp [MemoryWrite.row?, columnOption?, forged, hcolumn, hauthor, row, Json.storable,
      Json.storableEntries, Assoc.ofList, guard]
  have haccepts : start.memoryRecords.Accepts (row host now) := by
    intro key _
    simp [start]
  refine ⟨{ start with memoryRecords := start.memoryRecords.push (row host now) haccepts },
    ?_, rfl⟩
  have hinsert : start.insertMemoryRecord (row host now) = .ok (row host now,
      { start with memoryRecords := start.memoryRecords.push (row host now) haccepts }) := by
    have hkeys : ((row host now).workflowId.all start.hasWorkflow &&
        start.hasAgent (row host now).sourceAgentId) = true := by
      show start.hasWorkflow (UUID.ofNat 1) = true
      decide
    unfold Db.insertMemoryRecord
    rw [if_pos hkeys, Table.insert?, dif_pos haccepts]
    rfl
  unfold CRDTStore.put
  rw [hresolve]
  simp only [bind, Except.bind, hrow, hinsert]
  rfl

theorem persistOne_decoded (hlength : ∀ data, (host.sha256 data).length = 32) (now : Time)
    (report : GossipRoundReport) :
    ∃ round, persistOne host now
        { db := start, known := { workflowIds := [UUID.ofNat 1] }, report } (decoded host none) =
        .ok round ∧ round.db.memoryRecords.rows = [row host now] := by
  obtain ⟨db', hput, hrows⟩ := put_forged host hlength now
  let stored : GossipRound :=
    { db := db'
      known := { workflowIds := [UUID.ofNat 1], contentHashes := [forgedHash host] }
      report }
  have hpersist : persistPeerRecord host now (decoded host none)
      { db := start, known := { workflowIds := [UUID.ofNat 1] }, report } =
      .ok (true, stored) := by
    have hwrite : writeOf (decoded host none) (UUID.ofNat 1) none .fact = forged := rfl
    have hempty : (decoded host none).workflowId ≠ "" := by
      show (UUID.ofNat 1).str ≠ ""
      decide +kernel
    have hparse : UUID.parse? (decoded host none).workflowId = some (UUID.ofNat 1) :=
      UUID.parse?_str _
    have htype : MemoryType.ofValue? (decoded host none).memoryType = some .fact := by
      show MemoryType.ofValue? "fact" = some .fact
      decide +kernel
    have hsource : (decoded host none).sourceAgentId = none := rfl
    have hsignature : (decoded host none).signature = none := rfl
    have hhash : (decoded host none).contentHash = forgedHash host := rfl
    unfold persistPeerRecord
    rw [if_neg hempty, hparse]
    simp only [List.mem_singleton, if_true]
    unfold storePeerRecord
    simp only [List.not_mem_nil, if_false, hsource, htype, hwrite, hsignature, hhash, hput]
    rfl
  refine ⟨{ stored with report.recordsPersisted := report.recordsPersisted + 1 }, ?_, hrows⟩
  unfold persistOne
  rw [hpersist]
  rfl

/-- The round imports the record. -/
theorem reconcileWith_peer (hlength : ∀ data, (host.sha256 data).length = 32) (now : Time) :
    (reconcileWith host now start (peer host .null) none none).2.memoryRecords.rows =
      [row host now] := by
  have hsummary : SyncService.summarise host start none none = summariseHashes host [] := rfl
  have hmissing : ∀ round : GossipRound, round.db = start →
      collectMissingHashes (peer host .null) round [0] none = .ok [forgedHash host] := by
    intro round hround
    have hlocal : SyncService.bucketHashes round.db 0 none = [] := by
      rw [hround]
      rfl
    unfold collectMissingHashes
    rw [List.foldlM_cons, fetchBucketHashes_peer, hlocal]
    simp [request, bind, Except.bind, pure, Except.pure]
  have hbatch : ∀ report, ∃ round, persistBatch host now (peer host .null)
      { db := start, report } 0 = .ok round ∧ round.db.memoryRecords.rows = [row host now] := by
    intro report
    have hknown : ∀ report, extendKnown { db := start, report } [decoded host none] =
        { db := start, known := { workflowIds := [UUID.ofNat 1] }, report } := by
      intro report
      have hparse : UUID.parse? (decoded host none).workflowId = some (UUID.ofNat 1) :=
        UUID.parse?_str _
      have hexists : start.hasWorkflow (UUID.ofNat 1) = true := by decide
      have hfetch : start.fetchByHash (some (decoded host none).contentHash) = none := rfl
      unfold extendKnown
      simp [hparse, hexists, hfetch]
    obtain ⟨round, hround, hrows⟩ := persistOne_decoded host hlength now
      { report with recordsFetched := report.recordsFetched + 1 }
    refine ⟨round, ?_, hrows⟩
    unfold persistBatch
    rw [fetchRecords_peer]
    simp only [request, bind, Except.bind]
    have hnull : (Json.null).orNone = none := rfl
    rw [hnull]
    show List.foldlM (persistOne host now) (extendKnown _ [decoded host none])
      [decoded host none] = _
    rw [List.length_singleton, hknown, List.foldlM_cons, hround]
    rfl
  have hbody : ∃ round, reconcileBody host now start (peer host .null) none none = .ok round ∧
      round.db.memoryRecords.rows = [row host now] := by
    unfold reconcileBody
    simp only [hsummary, fetchSummary_peer, request, bind, Except.bind, if_neg (root_ne host),
      divergesFrom_peer]
    rw [if_neg (by decide), hmissing _ rfl]
    have hchunks : List.range (chunks [forgedHash host] fetchBatchSize).length = [0] := by
      rw [chunks, List.length_map, List.length_range, List.length_singleton]
      decide
    obtain ⟨round, hround, hrows⟩ := hbatch
      { bucketsCompared := (summariseHashes host []).buckets.length
        bucketsDivergent := 1
        hashesMissingLocally := 1 }
    refine ⟨round, ?_, hrows⟩
    simp only [hchunks, List.foldlM_cons, List.foldlM_nil, List.length_singleton, hround, bind,
      Except.bind, pure, Except.pure]
  obtain ⟨round, hround, hrows⟩ := hbody
  unfold reconcileWith
  rw [hround]
  exact hrows

/-- A host with constant digests and one signature, which it verifies. -/
def constant : Host where
  sha256 _ := List.replicate 32 0
  sign _ _ := [0]
  verify _ signature _ := signature == [0]
  repr _ := ""
  parseFloat? _ := none
  parseInt? _ := none
  isoformat _ := ""
  fromIsoformat? _ := none

end ImportExample

end GossipService

end MassClaw
