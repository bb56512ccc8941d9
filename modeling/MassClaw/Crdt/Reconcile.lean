import MassClaw.Crdt.Delivery

/-!
# A round between two nodes

A client whose summary and a server whose summary are of their own hashes: the
round ends without an error, the rows of the client are kept, each new row is a
row of the server as the client writes it, and afterwards the client has every
hash of the server.  The summary of the server may be an older one, as long as
every hash that the client misses was there already.
-/

namespace MassClaw

/-! ## Batches -/

section Chunks

variable {α : Type} {items : List α} {size : Nat}

theorem mem_chunks {chunk : List α} (h : chunk ∈ chunks items size) :
    chunk.length ≤ size ∧ ∀ item ∈ chunk, item ∈ items := by
  obtain ⟨i, -, rfl⟩ := List.mem_map.1 h
  refine ⟨List.length_take_le _ _, fun item hitem => ?_⟩
  exact List.mem_of_mem_drop (List.mem_of_mem_take hitem)

/-- Every item is in one of the chunks. -/
theorem exists_chunk (hsize : 0 < size) {item : α} (h : item ∈ items) :
    ∃ i < (chunks items size).length, item ∈ (chunks items size).getD i [] := by
  obtain ⟨k, hk, hitem⟩ := List.mem_iff_getElem.1 h
  have hdiv : k / size * size ≤ k := Nat.div_mul_le_self k size
  have hmod : k < k / size * size + size := by
    have hsum := Nat.div_add_mod k size
    have hlt := Nat.mod_lt k hsize
    rw [Nat.mul_comm] at hsum
    omega
  have hindex : k / size < (items.length + size - 1) / size := by
    rw [Nat.lt_iff_add_one_le, Nat.le_div_iff_mul_le hsize, Nat.add_mul]
    omega
  refine ⟨k / size, ?_, ?_⟩
  · rw [chunks, List.length_map, List.length_range]
    exact hindex
  · rw [chunks, List.getD_eq_getElem?_getD, List.getElem?_map, List.getElem?_range hindex]
    show item ∈ (items.drop (k / size * size)).take size
    refine List.mem_iff_getElem.2 ⟨k - k / size * size, ?_, ?_⟩
    · rw [List.length_take, List.length_drop]
      omega
    · rw [List.getElem_take, List.getElem_drop]
      rw [← hitem]
      congr 1
      omega

end Chunks

variable {host : Host} (now : Time) (order : RowOrder) {client server : Db}

namespace GossipService

/-- What a round asks of a node: its active hashed rows are portable. -/
def Serves (host : Host) (db : Db) : Prop :=
  ∀ row ∈ db.memoryRecords.rows, row.recordState = .active → row.contentHash.isSome →
    row.Portable host

/-- The agents of the active hashed rows exist in another database. -/
def AgentsKnown (db other : Db) : Prop :=
  ∀ row ∈ db.memoryRecords.rows, row.recordState = .active → row.contentHash.isSome →
    other.hasAgent row.sourceAgentId = true

theorem Serves.bucket (h : Serves host server) (hlength : ∀ data, (host.sha256 data).length = 32)
    {hash : String} (hlists : server.Lists hash) : (bucketForHash? hash).isSome := by
  obtain ⟨row, hrow, hhash, hactive⟩ := hlists
  exact (h row hrow hactive (by rw [hhash]; rfl)).bucket hlength hhash

theorem ne_empty_of_bucket {hash : String} (h : (bucketForHash? hash).isSome) : hash ≠ "" := by
  intro hempty
  rw [hempty] at h
  cases h

/-- A node summarises the hashes that it lists. -/
theorem Serves.mem_iterHashes (h : Serves host server)
    (hlength : ∀ data, (host.sha256 data).length = 32) {hash : String} :
    hash ∈ SyncService.iterHashes server none ↔ server.Lists hash := by
  unfold SyncService.iterHashes
  rw [List.mem_filterMap]
  constructor
  · intro hmem
    obtain ⟨row, hrow, hhash⟩ := hmem
    obtain ⟨hin, hactive⟩ := List.mem_filter.1 hrow
    simp only [Option.all_none, and_true, decide_eq_true_eq] at hactive
    exact ⟨row, hin, (Option.filter_eq_some_iff.1 hhash).1, hactive⟩
  · intro hlists
    have hne := ne_empty_of_bucket (h.bucket hlength hlists)
    obtain ⟨row, hrow, hhash, hactive⟩ := hlists
    refine ⟨row, List.mem_filter.2 ⟨hrow, by simp [hactive]⟩, ?_⟩
    rw [hhash, Option.filter_some]
    simp [hne]

/-- The rows of a batch, on the wire and back. -/
private theorem decoded_rows (host : Host) (rows : List MemoryRecord)
    (h : ∀ row ∈ rows, row.workflowId.isSome ∧ row.contentHash.any (· ≠ "") = true) :
    ∃ responses records, rows.mapM (memoryResponse host) = some responses ∧
      responses.mapM (coerceRecord host) = .ok records ∧
      (∀ record ∈ records, ∃ sent ∈ rows, IsSent sent record) ∧
      ∀ sent ∈ rows, ∃ record ∈ records, IsSent sent record := by
  induction rows with
  | nil => exact ⟨[], [], rfl, rfl, by simp, by simp⟩
  | cons row rest ih =>
    obtain ⟨responses, records, hresponses, hrecords, hsent, hall⟩ :=
      ih (fun other hother => h other (List.mem_cons_of_mem row hother))
    obtain ⟨hsome, hany⟩ := h row List.mem_cons_self
    obtain ⟨workflowId, hworkflow⟩ := Option.isSome_iff_exists.1 hsome
    obtain ⟨hash, hhash, hne⟩ := (Option.any_eq_true ..).1 hany
    have hne' : hash ≠ "" := by simpa using hne
    obtain ⟨response, hresponse⟩ : ∃ response, memoryResponse host row = some response := by
      rw [memoryResponse, hworkflow]
      exact ⟨_, rfl⟩
    have hrecord := coerceRecord_memoryResponse hresponse hworkflow hhash hne'
    refine ⟨response :: responses, PeerRecord.ofRow row workflowId hash :: records, ?_, ?_, ?_, ?_⟩
    · rw [List.mapM_cons, hresponse, hresponses]
      rfl
    · rw [List.mapM_cons, hrecord, hrecords]
      rfl
    · intro record hmem
      rcases List.mem_cons.1 hmem with rfl | hold
      · exact ⟨row, List.mem_cons_self, workflowId, hash, hworkflow, hhash, rfl⟩
      · obtain ⟨sent, hin, his⟩ := hsent record hold
        exact ⟨sent, List.mem_cons_of_mem row hin, his⟩
    · intro sent hmem
      rcases List.mem_cons.1 hmem with rfl | hold
      · exact ⟨_, List.mem_cons_self, workflowId, hash, hworkflow, hhash, rfl⟩
      · obtain ⟨record, hin, his⟩ := hall sent hold
        exact ⟨record, List.mem_cons_of_mem _ hin, his⟩

/-- A batch is answered with the rows of its hashes. -/
theorem fetchRecords_asPeer (summary : MerkleSummary) {batches : List (List String)} {batch : Nat}
    (hserver : Serves host server) (hlength : ∀ data, (host.sha256 data).length = 32)
    (hsize : (batches.getD batch []).length ≤ maxFetchHashes)
    (hlisted : ∀ hash ∈ batches.getD batch [], server.Lists hash) :
    ∃ records, (server.asPeer host order summary batches).fetchRecords host batch = .ok records ∧
      (∀ record ∈ records, ∃ sent ∈ server.memoryRecords.rows,
        sent.recordState = .active ∧ IsSent sent record) ∧
      ∀ hash ∈ batches.getD batch [], ∃ record ∈ records, record.contentHash = hash := by
  have hmem : ∀ row, row ∈ SyncService.fetchRecords server order (batches.getD batch []) ↔
      row ∈ server.memoryRecords.rows ∧ (row.contentHash.any (· ∈ batches.getD batch []) = true ∧
        row.recordState ≠ .tombstoned) := by
    intro row
    unfold SyncService.fetchRecords
    rw [(order.perm _).mem_iff, List.mem_filter, decide_eq_true_eq]
  -- a hash is stored once, so the row of a listed hash is the active one
  have hactive : ∀ row ∈ SyncService.fetchRecords server order (batches.getD batch []),
      row ∈ server.memoryRecords.rows ∧ row.recordState = .active ∧
        ∃ hash, row.contentHash = some hash := by
    intro row hrow
    obtain ⟨hin, hany, -⟩ := (hmem row).1 hrow
    obtain ⟨hash, hhash, hbatch⟩ := (Option.any_eq_true ..).1 hany
    obtain ⟨listed, hlistedIn, hsame, hstate⟩ := hlisted hash (by simpa using hbatch)
    have hunique : listed = row := Table.eq_of_unique hlistedIn hin hsame hhash
    rw [← hunique]
    exact ⟨hlistedIn, hstate, hash, hsame⟩
  have hrows : ∀ row ∈ SyncService.fetchRecords server order (batches.getD batch []),
      row.workflowId.isSome ∧ row.contentHash.any (· ≠ "") = true := by
    intro row hrow
    obtain ⟨hin, hstate, hash, hhash⟩ := hactive row hrow
    have hportable := hserver row hin hstate (by rw [hhash]; rfl)
    have hne := ne_empty_of_bucket (hportable.bucket hlength hhash)
    refine ⟨hportable.workflow, ?_⟩
    rw [hhash]
    simpa using hne
  obtain ⟨responses, records, hresponses, hrecords, hsent, hall⟩ := decoded_rows host _ hrows
  refine ⟨records, ?_, ?_, ?_⟩
  · have hraw : ((server.asPeer host order summary batches).records batch).rawRecords =
        .ok responses := by
      show (fetchRecordsByHash host server order (batches.getD batch [])).rawRecords = _
      unfold fetchRecordsByHash
      rw [if_neg (by omega)]
      dsimp only
      rw [hresponses]
      show Except.ok ((responses.map Json.dict).filterMap _) = _
      rw [List.filterMap_map]
      exact congrArg Except.ok List.filterMap_some
    unfold Peer.fetchRecords
    rw [hraw]
    exact hrecords
  · intro record hrecord
    obtain ⟨sent, hin, his⟩ := hsent record hrecord
    exact ⟨sent, (hactive sent hin).1, (hactive sent hin).2.1, his⟩
  · intro hash hbatch
    obtain ⟨row, hrow, hhash, hstate⟩ := hlisted hash hbatch
    have hserved : row ∈ SyncService.fetchRecords server order (batches.getD batch []) := by
      refine (hmem row).2 ⟨hrow, ?_, by rw [hstate]; decide⟩
      rw [hhash]
      simpa using hbatch
    obtain ⟨record, hin, workflowId, other, -, hother, rfl⟩ := hall row hserved
    rw [hhash] at hother
    cases hother
    exact ⟨_, hin, rfl⟩

/-! ## The batches of a round -/

/-- The records of one batch. -/
theorem foldlM_persistOne (hserver : Serves host server) (hagents : AgentsKnown server client)
    (records : List PeerRecord)
    (hsent : ∀ record ∈ records, ∃ sent ∈ server.memoryRecords.rows,
      sent.recordState = .active ∧ IsSent sent record)
    (round : GossipRound) (h : Importing client server round) :
    ∃ round', records.foldlM (persistOne host now) round = .ok round' ∧
      Importing client server round' ∧ Extends round round' ∧
      ∀ record ∈ records, round'.db.Holds record.contentHash := by
  induction records generalizing round with
  | nil => exact ⟨round, rfl, h, fun _ hholds => hholds, by simp⟩
  | cons record rest ih =>
    obtain ⟨sent, hin, hstate, his⟩ := hsent record List.mem_cons_self
    have hsome : sent.contentHash.isSome := by
      obtain ⟨_, _, -, hhash, -⟩ := his
      rw [hhash]
      rfl
    obtain ⟨middle, hfirst, hmiddle, hextends, hholds⟩ := persistOne_ofRow now h hin
      (hserver sent hin hstate hsome) (hagents sent hin hstate hsome) his
    obtain ⟨last, hrest, hlast, hextends', hall⟩ :=
      ih (fun other hother => hsent other (List.mem_cons_of_mem record hother)) middle hmiddle
    refine ⟨last, ?_, hlast, hextends.trans hextends', ?_⟩
    · rw [List.foldlM_cons, hfirst]
      exact hrest
    · intro other hother
      rcases List.mem_cons.1 hother with rfl | hmem
      · exact hextends' _ hholds
      · exact hall other hmem

/-- What is looked up for a batch is there. -/
theorem Importing.extendKnown {round : GossipRound} (h : Importing client server round)
    (records : List PeerRecord) : Importing client server (extendKnown round records) := by
  refine ⟨h.kept, h.received, h.agents, ?_, ?_, h.noError⟩
  · intro hash hhash
    rcases List.mem_append.1 hhash with hold | hnew
    · exact h.knownHashes hash hold
    · have hfound := (List.mem_filter.1 hnew).2
      simp only [decide_eq_true_eq] at hfound
      exact Db.isSome_fetchByHash.1 hfound.2
  · intro id hid
    rcases List.mem_append.1 hid with hold | hnew
    · exact h.knownWorkflows id hold
    · have hfound := (List.mem_filter.1 hnew).2
      simp only [decide_eq_true_eq] at hfound
      exact hfound.2

/-- One batch. -/
theorem persistBatch_asPeer (summary : MerkleSummary) {batches : List (List String)} {batch : Nat}
    (hserver : Serves host server) (hlength : ∀ data, (host.sha256 data).length = 32)
    (hagents : AgentsKnown server client)
    (hsize : (batches.getD batch []).length ≤ maxFetchHashes)
    (hlisted : ∀ hash ∈ batches.getD batch [], server.Lists hash) (round : GossipRound)
    (h : Importing client server round) :
    ∃ round', persistBatch host now (server.asPeer host order summary batches) round batch =
        .ok round' ∧
      Importing client server round' ∧ Extends round round' ∧
      ∀ hash ∈ batches.getD batch [], round'.db.Holds hash := by
  obtain ⟨records, hfetch, hsent, hall⟩ :=
    fetchRecords_asPeer order summary hserver hlength hsize hlisted
  have hfetched : Importing client server { round with
      report.recordsFetched := round.report.recordsFetched + records.length } :=
    h.report h.noError
  have hstart := hfetched.extendKnown records
  obtain ⟨round', hfold, himporting, hextends, hholds⟩ :=
    foldlM_persistOne now hserver hagents records hsent _ hstart
  refine ⟨round', ?_, himporting, hextends, fun hash hbatch => ?_⟩
  · unfold persistBatch
    rw [hfetch]
    exact hfold
  · obtain ⟨record, hrecord, rfl⟩ := hall hash hbatch
    exact hholds record hrecord

/-- All batches. -/
theorem foldlM_persistBatch (summary : MerkleSummary) {batches : List (List String)}
    (hserver : Serves host server) (hlength : ∀ data, (host.sha256 data).length = 32)
    (hagents : AgentsKnown server client)
    (hsize : ∀ batch, (batches.getD batch []).length ≤ maxFetchHashes)
    (hlisted : ∀ batch, ∀ hash ∈ batches.getD batch [], server.Lists hash) (numbers : List Nat)
    (round : GossipRound) (h : Importing client server round) :
    ∃ round', numbers.foldlM (persistBatch host now (server.asPeer host order summary batches))
        round = .ok round' ∧
      Importing client server round' ∧ Extends round round' ∧
      ∀ batch ∈ numbers, ∀ hash ∈ batches.getD batch [], round'.db.Holds hash := by
  induction numbers generalizing round with
  | nil => exact ⟨round, rfl, h, fun _ hholds => hholds, by simp⟩
  | cons batch rest ih =>
    obtain ⟨middle, hfirst, hmiddle, hextends, hholds⟩ := persistBatch_asPeer now order
      summary hserver hlength hagents (hsize batch) (hlisted batch) round h
    obtain ⟨last, hrest, hlast, hextends', hall⟩ := ih middle hmiddle
    refine ⟨last, ?_, hlast, hextends.trans hextends', ?_⟩
    · rw [List.foldlM_cons, hfirst]
      exact hrest
    · intro other hother hash hhash
      rcases List.mem_cons.1 hother with rfl | hmem
      · exact hextends' _ (hholds hash hhash)
      · exact hall other hmem hash hhash

/-! ## The requests of a round -/

theorem fetchSummary_asPeer {summary : MerkleSummary} {batches : List (List String)}
    (h : summary.buckets.length = bucketCount) :
    (server.asPeer host order summary batches).fetchSummary host =
      .ok (summary.root, summary.buckets.map jsonOption) := by
  have hbody : (server.asPeer host order summary batches).summary.jsonObject = .ok
      [ ("root", .str summary.root)
      , ("buckets", .list (summary.buckets.map jsonOption))
      , ("record_count", .int summary.recordCount)
      , ("scope", .str "instance") ] := rfl
  unfold Peer.fetchSummary
  rw [hbody]
  simp [bind, Except.bind, pure, Except.pure, h, Json.getD, Json.toInt?, Json.number?, Json.pyStr]

/-- Two summaries diverge in the buckets whose digests differ. -/
theorem divergesFrom_eq (host : Host) (xs ys : List String) :
    (summariseHashes host xs).divergesFrom ((summariseHashes host ys).buckets.map jsonOption) =
      some ((List.range bucketCount).filter (fun i =>
        bucketDigest host (bucketOf xs i) ≠ bucketDigest host (bucketOf ys i))) := by
  have hdiffers : ∀ a b : Option String, bucketDiffers a (jsonOption b) = decide (a ≠ b) := by
    intro a b
    cases a with
    | none =>
      cases b with
      | none => simp [bucketDiffers, jsonOption]
      | some d => simp [bucketDiffers, jsonOption]
    | some c =>
      cases b with
      | none => simp [bucketDiffers, jsonOption]
      | some d =>
        rw [Bool.eq_iff_iff]
        simp [bucketDiffers, jsonOption]
  unfold MerkleSummary.divergesFrom
  rw [if_neg (by simp [length_buckets])]
  refine congrArg some (List.filter_congr (fun i hi => ?_))
  have hlt : i < bucketCount := List.mem_range.1 hi
  rw [List.getD_eq_getElem?_getD, List.getD_eq_getElem?_getD, List.getElem?_map,
    getElem?_buckets host xs hlt, getElem?_buckets host ys hlt]
  exact hdiffers _ _

theorem divergesFrom_summaries (host : Host) (xs ys : List String) :
    ∃ listed, (summariseHashes host xs).divergesFrom
        ((summariseHashes host ys).buckets.map jsonOption) = some listed ∧
      ∀ i, i ∈ listed ↔ i < bucketCount ∧
        bucketDigest host (bucketOf xs i) ≠ bucketDigest host (bucketOf ys i) := by
  refine ⟨_, divergesFrom_eq host xs ys, fun i => ?_⟩
  rw [List.mem_filter, List.mem_range, decide_eq_true_eq]

theorem fetchBucketHashes_asPeer {summary : MerkleSummary} {batches : List (List String)}
    (hserver : Serves host server) (hlength : ∀ data, (host.sha256 data).length = 32)
    (index : Nat) :
    (server.asPeer host order summary batches).fetchBucketHashes index =
      .ok (SyncService.bucketHashes server index none) := by
  have hbody : ((server.asPeer host order summary batches).bucket index).jsonObject = .ok
      [ ("bucket_index", .int index)
      , ("scope", .str "instance")
      , ("hashes", .list ((SyncService.bucketHashes server index none).map .str)) ] := rfl
  have hprefix : ∀ hash ∈ SyncService.bucketHashes server index none,
      hash.toList.head? = some 'z' := by
    intro hash hmem
    obtain ⟨row, hrow, hhash, hactive⟩ :=
      (hserver.mem_iterHashes hlength).1 (mem_bucketOf.1 hmem).1
    have haddress := (hserver row hrow hactive (by rw [hhash]; rfl)).addressed
    rw [hhash] at haddress
    obtain ⟨rest, hrest⟩ := CanonicalBody.contentHash_prefix host haddress.symm
    rw [hrest]
    rfl
  have htexts : ((SyncService.bucketHashes server index none).map Json.str).filterMap
      Json.asString? = SyncService.bucketHashes server index none := by
    rw [List.filterMap_map]
    exact List.filterMap_some
  unfold Peer.fetchBucketHashes
  rw [hbody]
  show Except.ok (((((SyncService.bucketHashes server index none).map Json.str)).filterMap
    Json.asString?).filter _) = _
  rw [htexts, List.filter_eq_self.2 (fun hash hmem => by simpa using hprefix hash hmem)]

/-- The client collects the hashes of the listed buckets that it lacks. -/
theorem collectMissingHashes_asPeer {summary : MerkleSummary} {batches : List (List String)}
    (hserver : Serves host server) (hlength : ∀ data, (host.sha256 data).length = 32)
    (round : GossipRound) (indices : List Nat) :
    collectMissingHashes (server.asPeer host order summary batches) round indices none =
      .ok (indices.flatMap (fun index => (SyncService.bucketHashes server index none).filter
        (fun hash => hash ∉ SyncService.bucketHashes round.db index none))) := by
  have haux : ∀ (rest : List Nat) (found : List String),
      rest.foldlM (fun missing index => do
        let peerHashes ← request round
          ((server.asPeer host order summary batches).fetchBucketHashes index)
        let localHashes := SyncService.bucketHashes round.db index none
        return missing ++ peerHashes.filter (fun hash => hash ∉ localHashes)) found =
      (.ok (found ++ rest.flatMap (fun index =>
        (SyncService.bucketHashes server index none).filter
          (fun hash => hash ∉ SyncService.bucketHashes round.db index none))) :
        Except Stopped (List String)) := by
    intro rest
    induction rest with
    | nil =>
      intro found
      simp [pure, Except.pure]
    | cons index rest ih =>
      intro found
      rw [List.foldlM_cons, fetchBucketHashes_asPeer order hserver hlength]
      simp only [request, bind, Except.bind, pure, Except.pure] at ih ⊢
      rw [ih, List.flatMap_cons, List.append_assoc]
  exact haux indices []

/-! ## The round -/

/-- The client has kept its rows and got what the server has. -/
structure Merged (client server db : Db) : Prop where
  kept : ∀ row ∈ client.memoryRecords.rows, row ∈ db.memoryRecords.rows
  received : ∀ row ∈ db.memoryRecords.rows, row ∈ client.memoryRecords.rows ∨
    ∃ sent ∈ server.memoryRecords.rows, sent.recordState = .active ∧ sent.contentHash.isSome ∧
      row.carried = sent.carried
  complete : ∀ hash, server.Lists hash → db.Holds hash
  agents : db.agents = client.agents

/-- Whatever the client misses is among the hashes that it collects. -/
theorem mem_missingFrom (hclient : Serves host client) (hserver : Serves host server)
    (hlength : ∀ data, (host.sha256 data).length = 32) {seen : List String} {listed : List Nat}
    (hseen : ∀ hash, server.Lists hash → ¬client.Lists hash → hash ∈ seen)
    (hfree : CollisionFree host
      (summaryInputs host (SyncService.iterHashes client none) ++ summaryInputs host seen))
    (hlisted : ∀ i, i ∈ listed ↔ i < bucketCount ∧
      bucketDigest host (bucketOf (SyncService.iterHashes client none) i) ≠
        bucketDigest host (bucketOf seen i)) {hash : String}
    (hlists : server.Lists hash) (hnot : ¬client.Lists hash) :
    hash ∈ listed.flatMap (fun index => (SyncService.bucketHashes server index none).filter
      (fun hash => hash ∉ SyncService.bucketHashes client index none)) := by
  have hseen' : hashSet (SyncService.iterHashes server none) \
      hashSet (SyncService.iterHashes client none) ⊆ hashSet seen :=
    fun key hkey => hseen key ((hserver.mem_iterHashes hlength).1 hkey.1)
      (fun hheld => hkey.2 ((hclient.mem_iterHashes hlength).2 hheld))
  have hequal : ∀ i, i ∉ {i | i ∈ listed} →
      Buckets.part bucketForHash? (hashSet (SyncService.iterHashes client none)) i =
        Buckets.part bucketForHash? (hashSet seen) i := by
    intro i hi
    rw [part_eq_iff]
    by_cases hlt : i < bucketCount
    · refine bucketDigest_inj hfree hlt ?_
      by_contra hne
      exact hi ((hlisted i).2 ⟨hlt, hne⟩)
    · exact bucketOf_congr (fun key hkey => absurd (bucketForHash?_lt hkey) hlt)
  have hmissing : Buckets.missing bucketForHash? {i | i ∈ listed}
      (hashSet (SyncService.iterHashes client none))
      (hashSet (SyncService.iterHashes server none)) =
        hashSet (SyncService.iterHashes server none) \
          hashSet (SyncService.iterHashes client none) :=
    Buckets.missing_eq (fun key hkey => hserver.bucket hlength
      ((hserver.mem_iterHashes hlength).1 hkey)) hseen' hequal
  have hmem : hash ∈ Buckets.missing bucketForHash? {i | i ∈ listed}
      (hashSet (SyncService.iterHashes client none))
      (hashSet (SyncService.iterHashes server none)) := by
    rw [hmissing]
    exact ⟨(hserver.mem_iterHashes hlength).2 hlists,
      fun hin => hnot ((hclient.mem_iterHashes hlength).1 hin)⟩
  obtain ⟨i, hi, hin, hout⟩ := hmem
  refine List.mem_flatMap.2 ⟨i, hi, List.mem_filter.2 ⟨mem_bucketOf.2 hin, ?_⟩⟩
  rw [decide_eq_true_eq]
  exact fun hbucket => hout (mem_bucketOf.1 hbucket)

/-- A round between two nodes ends without an error and is complete. -/
theorem reconcileNodes_merged (hclient : Serves host client) (hserver : Serves host server)
    (hlength : ∀ data, (host.sha256 data).length = 32) (hagents : AgentsKnown server client)
    {clientCached serverCached : Option MerkleSummary} {seen : List String}
    (hlocal : SyncService.summarise host client clientCached none =
      summariseHashes host (SyncService.iterHashes client none))
    (hremote : SyncService.summarise host server serverCached none = summariseHashes host seen)
    (hseen : ∀ hash, server.Lists hash → ¬client.Lists hash → hash ∈ seen)
    (hfree : CollisionFree host
      (summaryInputs host (SyncService.iterHashes client none) ++ summaryInputs host seen)) :
    (reconcileNodes host now order client server clientCached serverCached).1.error = none ∧
      Merged client server
        (reconcileNodes host now order client server clientCached serverCached).2 := by
  obtain ⟨listed, hdiverges, hlisted⟩ := divergesFrom_summaries host
    (SyncService.iterHashes client none) seen
  have hcollected : ∀ hash, server.Lists hash → ¬client.Lists hash →
      hash ∈ listed.flatMap (fun index => (SyncService.bucketHashes server index none).filter
        (fun hash => hash ∉ SyncService.bucketHashes client index none)) :=
    fun hash hlists hnot => mem_missingFrom hclient hserver hlength hseen hfree hlisted hlists hnot
  have hstart : ∀ report : GossipRoundReport, report.error = none →
      Importing client server { db := client, report } := fun report hreport =>
    ⟨fun _ hrow => hrow, fun _ hrow => Or.inl hrow, rfl, by simp, by simp, hreport⟩
  have hmerged : ∀ round, Importing client server round →
      (∀ hash, server.Lists hash → round.db.Holds hash) → Merged client server round.db :=
    fun round himporting hall => ⟨himporting.kept, himporting.received, hall, himporting.agents⟩
  let missing := missingFrom client server
    (summariseHashes host (SyncService.iterHashes client none)) (summariseHashes host seen)
  have hmissing : missing = listed.flatMap (fun index =>
      (SyncService.bucketHashes server index none).filter
        (fun hash => hash ∉ SyncService.bucketHashes client index none)) := by
    show missingFrom _ _ _ _ = _
    unfold missingFrom
    rw [hdiverges]
    rfl
  have hbody : ∃ round, reconcileBody host now client
      (server.asPeer host order (summariseHashes host seen) (chunks missing fetchBatchSize))
      clientCached none = .ok round ∧ round.report.error = none ∧
      Merged client server round.db := by
    unfold reconcileBody
    simp only [hlocal, fetchSummary_asPeer order (length_buckets host seen), request, bind,
      Except.bind]
    split
    · rename_i hroot
      refine ⟨_, rfl, rfl, hmerged _ (hstart _ rfl) (fun hash hlists => ?_)⟩
      have hhere : client.Lists hash := by
        by_contra hnot
        obtain ⟨index, hbucket⟩ := Option.isSome_iff_exists.1 (hserver.bucket hlength hlists)
        have hswapped : CollisionFree host (summaryInputs host seen ++
            summaryInputs host (SyncService.iterHashes client none)) :=
          hfree.mono (fun data hdata => List.mem_append.2 (List.mem_append.1 hdata).symm)
        have hin := root_inj hlength hswapped hroot.symm (hseen hash hlists hnot) hbucket
        exact hnot ((hclient.mem_iterHashes hlength).1 hin)
      exact hhere.holds
    · simp only [hdiverges]
      split
      · rename_i hempty
        refine ⟨_, rfl, rfl, hmerged _ (hstart _ rfl) (fun hash hlists => ?_)⟩
        have hhere : client.Lists hash := by
          by_contra hnot
          have hin := hcollected hash hlists hnot
          rw [List.isEmpty_iff.1 hempty] at hin
          cases hin
        exact hhere.holds
      · simp only [collectMissingHashes_asPeer order hserver hlength, ← hmissing]
        have hsize : ∀ batch, ((chunks missing fetchBatchSize).getD batch []).length ≤
            maxFetchHashes := by
          intro batch
          rw [List.getD_eq_getElem?_getD]
          cases hchunk : (chunks missing fetchBatchSize)[batch]? with
          | none => exact Nat.zero_le _
          | some chunk => exact (mem_chunks (List.mem_of_getElem? hchunk)).1
        have hlistedAll : ∀ batch, ∀ hash ∈ (chunks missing fetchBatchSize).getD batch [],
            server.Lists hash := by
          intro batch hash hin
          rw [List.getD_eq_getElem?_getD] at hin
          cases hchunk : (chunks missing fetchBatchSize)[batch]? with
          | none =>
            rw [hchunk] at hin
            cases hin
          | some chunk =>
            rw [hchunk] at hin
            have hmem := (mem_chunks (List.mem_of_getElem? hchunk)).2 hash hin
            rw [hmissing] at hmem
            obtain ⟨index, -, hfiltered⟩ := List.mem_flatMap.1 hmem
            exact (hserver.mem_iterHashes hlength).1
              (mem_bucketOf.1 (List.mem_filter.1 hfiltered).1).1
        let counted : GossipRoundReport :=
          { bucketsCompared :=
              (summariseHashes host (SyncService.iterHashes client none)).buckets.length
            bucketsDivergent := listed.length
            hashesMissingLocally := missing.length }
        obtain ⟨round, hround, himporting, hextends, hall⟩ := foldlM_persistBatch now order
          (summariseHashes host seen) hserver hlength hagents hsize hlistedAll
          (List.range (chunks missing fetchBatchSize).length) _ (hstart counted rfl)
        refine ⟨round, hround, himporting.noError, hmerged round himporting ?_⟩
        intro hash hlists
        by_cases hhere : client.Lists hash
        · exact hextends hash hhere.holds
        · have hin := hcollected hash hlists hhere
          rw [← hmissing] at hin
          obtain ⟨i, hi, hchunk⟩ := exists_chunk (by decide : 0 < fetchBatchSize) hin
          exact hall i (List.mem_range.2 hi) hash hchunk
  obtain ⟨round, hround, herror, hdone⟩ := hbody
  unfold reconcileNodes reconcileWith
  simp only [hlocal, hremote]
  rw [hround]
  exact ⟨herror, hdone⟩

end GossipService

end MassClaw
