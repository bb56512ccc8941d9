import MassClaw.Crdt.Merkle
import MassClaw.Crdt.RoundTrip

/-!
# The delivery of a row

A row that is active, addressed and signed by its author, and whose columns
hold what their types admit, is imported by a peer without an error: the record
that the client decodes is stored, or it is there already.  The invariant of a
round says that the rows of the client are kept and that every new row has the
columns of a row of the server.
-/

namespace MassClaw

/-! ## What a row carries -/

/-- The row without the columns that the node which writes it sets itself. -/
def MemoryRecord.carried (row : MemoryRecord) : MemoryRecord :=
  { row with
    memoryId := 0, version := 1, parentVersionId := none, expiresAt := none, createdAt := 0 }

/-- The columns that travel decide the signed body. -/
theorem MemoryRecord.canonicalBody_of_carried {row other : MemoryRecord}
    (h : row.carried = other.carried) : row.canonicalBody = other.canonicalBody := by
  cases row
  cases other
  cases h
  rfl

theorem MemoryRecord.sourceAgentId_of_carried {row other : MemoryRecord}
    (h : row.carried = other.carried) : row.sourceAgentId = other.sourceAgentId := by
  cases row
  cases other
  cases h
  rfl

theorem MemoryRecord.contentHash_of_carried {row other : MemoryRecord}
    (h : row.carried = other.carried) : row.contentHash = other.contentHash := by
  cases row
  cases other
  cases h
  rfl

/-- What the types of the columns guarantee of a stored row. -/
structure MemoryRecord.FitsColumns (row : MemoryRecord) : Prop where
  authorDid : ∀ did, row.authorDid = some did → columnText? 512 (.str did) = some did
  parentHashes : ∀ parent ∈ row.parentHashes, columnText? 128 (.str parent) = some parent
  signature : ∀ text, row.signature = some text → columnText? 256 (.str text) = some text
  contentHash : ∀ hash, row.contentHash = some hash → columnText? 128 (.str hash) = some hash
  content : '\x00' ∉ row.content.toList
  metadata : (Json.dict row.metadata).storable = true
  keys : (Assoc.keys row.metadata).Nodup

variable {host : Host}

private theorem columnText?_idem {length : Nat} {value : Json} {text : String}
    (h : columnText? length value = some text) : columnText? length (.str text) = some text := by
  have hvalue := columnText?_eq_some h
  rw [← hvalue]
  exact h

private theorem columnOption?_fits {length : Nat} {value : Option Json} {column : Option String}
    (h : columnOption? length value = some column) :
    ∀ text, column = some text → columnText? length (.str text) = some text := by
  intro text htext
  subst htext
  cases value with
  | none => cases h
  | some value =>
    obtain ⟨other, hother, heq⟩ := Option.map_eq_some_iff.1 h
    cases heq
    exact columnText?_idem hother

private theorem mapM_fits {length : Nat} {values : List Json} {texts : List String}
    (h : values.mapM (columnText? length) = some texts) :
    ∀ text ∈ texts, columnText? length (.str text) = some text := by
  induction values generalizing texts with
  | nil =>
    cases h
    simp
  | cons value rest ih =>
    simp only [List.mapM_cons, Option.bind_eq_bind, Option.bind_eq_some_iff, Option.pure_def,
      Option.some.injEq] at h
    obtain ⟨text, htext, texts', htexts, rfl⟩ := h
    intro other hother
    rcases List.mem_cons.1 hother with rfl | hmem
    · exact columnText?_idem htext
    · exact ih htexts other hmem

/-- Every row that the store makes fits its columns. -/
theorem MemoryWrite.row?_fits {write : MemoryWrite} {contentHash : Option String}
    {signature : Option Json} {now : Time} {row : MemoryRecord}
    (h : write.row? host contentHash signature now = some row) : row.FitsColumns := by
  simp only [MemoryWrite.row?, Option.bind_eq_bind, Option.bind_eq_some_iff, Option.pure_def,
    Option.some.injEq] at h
  obtain ⟨authorDid, hauthor, parents, hparents, text, htext, hash, hhash, _, hguard, rfl⟩ := h
  unfold guard at hguard
  split at hguard
  · rename_i hstored
    exact ⟨columnOption?_fits hauthor, mapM_fits hparents, columnOption?_fits htext,
      columnOption?_fits hhash, hstored.1, hstored.2, Assoc.nodup_ofList _⟩
  · cases hguard

/-- A row that a peer accepts: active, addressed, signed by its author, and as
its columns store it. -/
structure MemoryRecord.Portable (host : Host) (row : MemoryRecord) : Prop where
  active : row.recordState = .active
  addressed : row.contentHash = row.canonicalBody.contentHash host
  verified : ∃ did, row.authorDid = some did ∧ row.VerifiesUnder host did
  workflow : row.workflowId.isSome
  columns : row.FitsColumns

/-- The columns that travel decide whether a row is portable. -/
theorem MemoryRecord.Portable.congr {row other : MemoryRecord} (h : row.Portable host)
    (hcarried : row.carried = other.carried) : other.Portable host := by
  cases row
  cases other
  cases hcarried
  have hcolumns := h.columns
  exact ⟨h.active, h.addressed, h.verified, h.workflow,
    ⟨hcolumns.authorDid, hcolumns.parentHashes, hcolumns.signature, hcolumns.contentHash,
      hcolumns.content, hcolumns.metadata, hcolumns.keys⟩⟩

/-- The hash of a portable row falls into a bucket. -/
theorem MemoryRecord.Portable.bucket {row : MemoryRecord} {hash : String}
    (h : row.Portable host) (hlength : ∀ data, (host.sha256 data).length = 32)
    (hhash : row.contentHash = some hash) : (bucketForHash? hash).isSome := by
  have haddress := h.addressed
  rw [hhash] at haddress
  obtain ⟨bytes, -, rfl⟩ := Option.map_eq_some_iff.1 haddress.symm
  have hne : host.sha256 bytes ≠ [] := List.ne_nil_of_length_pos (by rw [hlength]; omega)
  rw [bucketForHash?, decodeMultibase?_encodeMultibase, Option.bind_some, Option.isSome_map]
  exact List.isSome_head?.2 hne

theorem MemoryRecord.Portable.author_ne {row : MemoryRecord} (h : row.Portable host) :
    row.authorDid ≠ some "" := by
  obtain ⟨did, hdid, _, _, _, _, _, _, hkey, -⟩ := h.verified
  intro hempty
  rw [hdid] at hempty
  cases hempty
  cases hkey

/-- A row that the store makes of a verified active write is portable, when
`str` and JSON spell its metadata keys alike. -/
theorem portable_of_row {write : MemoryWrite} {precomputedHash contentHash : Option String}
    {supplied : Json} {signature : Option Json} {now : Time} {row : MemoryRecord}
    (hrow : write.row? host contentHash signature now = some row) (hkeys : write.PlainKeys)
    (hactive : write.recordState = .active)
    (hresolve : CRDTStore.resolveHashAndSignature host write.canonicalBody none precomputedHash
      (some supplied) = .ok (contentHash, signature)) : row.Portable host := by
  have hcolumns := MemoryWrite.row?_eq_some hrow
  have hbytes := hcolumns.toSignableBytes_eq hkeys
  refine ⟨hcolumns.recordState.trans hactive, ?_, (hcolumns.verifiesUnder hkeys hresolve).2, ?_,
    MemoryWrite.row?_fits hrow⟩
  · rcases CRDTStore.resolve_contentHash hresolve with ⟨hhash, -⟩ | ⟨-, -, hnone⟩
    · rw [hcolumns.contentHash, hhash, CanonicalBody.contentHash, CanonicalBody.contentHash,
        hbytes]
    · cases hnone
  · rw [hcolumns.workflowId]
    rfl

/-! ## The write of a delivered row -/

/-- The row that the write of a peer's row describes. -/
theorem row?_asWrite {row : MemoryRecord} {workflowId : UUID} {now : Time}
    (hcolumns : row.FitsColumns) (hauthor : row.authorDid ≠ some "")
    (hworkflow : row.workflowId = some workflowId) :
    (row.asWrite workflowId).row? host row.contentHash (row.signature.map .str) now =
      some { row.carried with createdAt := now } := by
  have hoption : ∀ {length : Nat} {value : Option String},
      (∀ text, value = some text → columnText? length (.str text) = some text) →
        columnOption? length (value.map .str) = some value := by
    intro length value hfits
    cases value with
    | none => rfl
    | some text =>
      rw [Option.map_some, columnOption?, hfits text rfl]
      rfl
  have hdid : (row.asWrite workflowId).authorDid = row.authorDid.map .str := by
    have hbody := congrArg CanonicalBody.authorDid (canonicalBody_asWrite hworkflow hauthor)
    exact hbody
  have hparents : ∀ parents : List String,
      (∀ parent ∈ parents, columnText? 128 (.str parent) = some parent) →
        (parents.map Json.str).mapM (columnText? 128) = some parents := by
    intro parents hfits
    induction parents with
    | nil => rfl
    | cons parent rest ih =>
      simp [List.mapM_cons, hfits parent List.mem_cons_self,
        ih (fun other hother => hfits other (List.mem_cons_of_mem _ hother))]
  have hmetadata : Assoc.ofList ((row.metadata.map (fun entry => (DictKey.str entry.1, entry.2))).map
      (fun entry => (entry.1.jsonName host.repr, entry.2))) = row.metadata := by
    rw [List.map_map]
    have hnames : row.metadata.map ((fun entry : DictKey × Json =>
        (entry.1.jsonName host.repr, entry.2)) ∘ fun entry => (DictKey.str entry.1, entry.2)) =
        row.metadata := List.map_id _
    rw [hnames]
    exact Assoc.ofList_of_nodup hcolumns.keys
  unfold MemoryWrite.row?
  rw [hdid, hoption hcolumns.authorDid, hoption hcolumns.signature, hoption hcolumns.contentHash]
  have hlist : (row.asWrite workflowId).parentHashes.mapM (columnText? 128) =
      some row.parentHashes := hparents _ hcolumns.parentHashes
  have hentries : Assoc.ofList ((row.asWrite workflowId).metadata.map
      (fun entry => (entry.1.jsonName host.repr, entry.2))) = row.metadata := hmetadata
  have hstored : '\x00' ∉ (row.asWrite workflowId).content.toList ∧
      (Json.dict row.metadata).storable = true := ⟨hcolumns.content, hcolumns.metadata⟩
  simp only [hlist, hentries, Option.bind_eq_bind, Option.bind_some, guard, if_pos hstored,
    Option.pure_def]
  cases row
  cases hworkflow
  rfl

/-- A row with that hash is stored. -/
def Db.Holds (db : Db) (hash : String) : Prop :=
  ∃ row ∈ db.memoryRecords.rows, row.contentHash = some hash

/-- An active row with that hash is stored. -/
def Db.Lists (db : Db) (hash : String) : Prop :=
  ∃ row ∈ db.memoryRecords.rows, row.contentHash = some hash ∧ row.recordState = .active

theorem Db.Lists.holds {db : Db} {hash : String} (h : db.Lists hash) : db.Holds hash := by
  obtain ⟨row, hrow, hhash, -⟩ := h
  exact ⟨row, hrow, hhash⟩

theorem Db.isSome_fetchByHash {db : Db} {hash : String} :
    (db.fetchByHash (some hash)).isSome ↔ db.Holds hash := by
  rw [Db.fetchByHash, Option.bind_some, List.find?_isSome]
  simp [Db.Holds]

/-- An insertion whose keys exist and whose hash is new succeeds. -/
theorem Db.insertMemoryRecord_ok {db : Db} {record : MemoryRecord}
    (hworkflow : record.workflowId.all db.hasWorkflow = true)
    (hagent : db.hasAgent record.sourceAgentId = true)
    (hnew : ∀ hash, record.contentHash = some hash → ¬db.Holds hash) :
    ∃ table, db.insertMemoryRecord record =
        .ok ({ record with memoryId := db.memoryRecords.nextId },
          { db with memoryRecords := table }) ∧
      table.rows = db.memoryRecords.rows ++
        [{ record with memoryId := db.memoryRecords.nextId }] := by
  have haccepts : db.memoryRecords.Accepts record := by
    intro hash hhash hmem
    obtain ⟨row, hrow, hsame⟩ := List.mem_filterMap.1 hmem
    exact hnew hash hhash ⟨row, hrow, hsame⟩
  refine ⟨db.memoryRecords.push record haccepts, ?_, rfl⟩
  unfold Db.insertMemoryRecord
  rw [if_pos (by rw [hworkflow, hagent]; rfl), Table.insert?, dif_pos haccepts]
  rfl

/-- The store takes a portable row that is not there. -/
theorem put_asWrite (now : Time) {db : Db} {row : MemoryRecord} {workflowId : UUID}
    {hash : String} (hportable : row.Portable host) (hworkflow : row.workflowId = some workflowId)
    (hhash : row.contentHash = some hash) (hexists : db.hasWorkflow workflowId = true)
    (hagent : db.hasAgent row.sourceAgentId = true) :
    ∃ result db', CRDTStore.put host db now (row.asWrite workflowId) none (some hash)
        (PeerRecord.ofRow row workflowId hash).signature = .ok (result, db') ∧
      ((db' = db ∧ db.Holds hash) ∨
        ∃ new table, db' = { db with memoryRecords := table } ∧
          table.rows = db.memoryRecords.rows ++ [new] ∧ new.carried = row.carried) := by
  obtain ⟨did, hdid, hverifies⟩ := hportable.verified
  have hresolve := (rebuiltFrom_ofRow hworkflow hhash hportable.author_ne).accepted did hdid
    hverifies hportable.addressed
  have hresolved : CRDTStore.resolveHashAndSignature host (row.asWrite workflowId).canonicalBody
      none (some hash) (PeerRecord.ofRow row workflowId hash).signature =
      .ok (row.contentHash, row.signature.map .str) := hresolve
  unfold CRDTStore.put
  rw [hresolved]
  simp only [bind, Except.bind, hhash]
  cases hfound : db.fetchByHash (some hash) with
  | some existing =>
    have hholds : db.Holds hash := Db.isSome_fetchByHash.1 (by rw [hfound]; rfl)
    exact ⟨existing, db, rfl, Or.inl ⟨rfl, hholds⟩⟩
  | none =>
    have hnot : ¬db.Holds hash := by
      intro hholds
      rw [← Db.isSome_fetchByHash, hfound] at hholds
      cases hholds
    have hrow : (row.asWrite workflowId).row? host (some hash) (row.signature.map .str) now =
        some { row.carried with createdAt := now } := by
      rw [← hhash]
      exact row?_asWrite hportable.columns hportable.author_ne hworkflow
    have hkey : row.workflowId.all db.hasWorkflow = true := by
      rw [hworkflow]
      exact hexists
    have hnew : ∀ other, row.contentHash = some other → ¬db.Holds other := by
      intro other hother
      rw [hhash] at hother
      cases hother
      exact hnot
    have hinsertion : ∃ table, db.insertMemoryRecord { row.carried with createdAt := now } =
        .ok ({ row.carried with createdAt := now, memoryId := db.memoryRecords.nextId },
          { db with memoryRecords := table }) ∧
        table.rows = db.memoryRecords.rows ++
          [{ row.carried with createdAt := now, memoryId := db.memoryRecords.nextId }] :=
      Db.insertMemoryRecord_ok hkey hagent hnew
    obtain ⟨table, hinsert, hrows⟩ := hinsertion
    simp only [hrow, hinsert]
    exact ⟨_, _, rfl, Or.inr ⟨_, table, rfl, hrows, rfl⟩⟩

/-! ## One record of a round -/

namespace GossipService

/-- What a round has done to the client so far: its rows are kept, a new row
has the columns of a row of the server, and what the round takes for known is
stored. -/
structure Importing (client server : Db) (round : GossipRound) : Prop where
  kept : ∀ row ∈ client.memoryRecords.rows, row ∈ round.db.memoryRecords.rows
  received : ∀ row ∈ round.db.memoryRecords.rows, row ∈ client.memoryRecords.rows ∨
    ∃ sent ∈ server.memoryRecords.rows, sent.recordState = .active ∧ sent.contentHash.isSome ∧
      row.carried = sent.carried
  agents : round.db.agents = client.agents
  knownHashes : ∀ hash ∈ round.known.contentHashes, round.db.Holds hash
  knownWorkflows : ∀ id ∈ round.known.workflowIds, round.db.hasWorkflow id = true
  noError : round.report.error = none

/-- A later point of the round has every hash of an earlier one. -/
def Extends (round round' : GossipRound) : Prop :=
  ∀ hash, round.db.Holds hash → round'.db.Holds hash

theorem Extends.trans {a b c : GossipRound} (hab : Extends a b) (hbc : Extends b c) :
    Extends a c := fun hash h => hbc hash (hab hash h)

/-- The record is what the client decodes from the response of the row. -/
def IsSent (sent : MemoryRecord) (record : PeerRecord) : Prop :=
  ∃ workflowId hash, sent.workflowId = some workflowId ∧ sent.contentHash = some hash ∧
    record = PeerRecord.ofRow sent workflowId hash

variable (now : Time) {client server : Db} {round : GossipRound}

/-- The counters of the report do not matter. -/
theorem Importing.report (h : Importing client server round) {report : GossipRoundReport}
    (hreport : report.error = none) : Importing client server { round with report } :=
  ⟨h.kept, h.received, h.agents, h.knownHashes, h.knownWorkflows, hreport⟩

/-- The store step, when the workflow exists. -/
theorem storePeerRecord_ofRow {sent : MemoryRecord} {workflowId : UUID} {hash : String}
    (h : Importing client server round) (hserver : sent ∈ server.memoryRecords.rows)
    (hportable : sent.Portable host) (hagent : client.hasAgent sent.sourceAgentId = true)
    (hworkflow : sent.workflowId = some workflowId) (hhash : sent.contentHash = some hash)
    (hexists : round.db.hasWorkflow workflowId = true) :
    ∃ persisted round', storePeerRecord host now (PeerRecord.ofRow sent workflowId hash)
        workflowId round = .ok (persisted, round') ∧
      Importing client server round' ∧ Extends round round' ∧ round'.db.Holds hash := by
  by_cases hknown : hash ∈ round.known.contentHashes
  · refine ⟨false, skipDuplicate round, ?_, h.report h.noError, fun _ hholds => hholds,
      h.knownHashes hash hknown⟩
    have hmem : (PeerRecord.ofRow sent workflowId hash).contentHash ∈ round.known.contentHashes :=
      hknown
    unfold storePeerRecord
    rw [if_pos hmem]
  · have hagent' : round.db.hasAgent sent.sourceAgentId = true := by
      have hsame : round.db.hasAgent sent.sourceAgentId = client.hasAgent sent.sourceAgentId := by
        unfold Db.hasAgent
        rw [h.agents]
      rw [hsame]
      exact hagent
    obtain ⟨result, db', hput, hcases⟩ := put_asWrite now hportable hworkflow hhash hexists
      hagent'
    have hstore : storePeerRecord host now (PeerRecord.ofRow sent workflowId hash)
        (sent.asWrite workflowId).workflowId round =
        afterPut (PeerRecord.ofRow sent workflowId hash) round
          (CRDTStore.put host round.db now (sent.asWrite workflowId) none (some hash)
            (PeerRecord.ofRow sent workflowId hash).signature) :=
      storePeerRecord_eq (importWrite?_ofRow sent workflowId hash) hknown
    rw [hput] at hstore
    refine ⟨true, _, hstore, ?_⟩
    rcases hcases with ⟨rfl, hholds⟩ | ⟨new, table, rfl, hrows, hcarried⟩
    · refine ⟨⟨h.kept, h.received, h.agents, ?_, h.knownWorkflows, h.noError⟩,
        fun _ hother => hother, hholds⟩
      intro other hother
      rcases List.mem_append.1 hother with hold | hnew
      · exact h.knownHashes other hold
      · rw [List.mem_singleton.1 hnew]
        exact hholds
    · have hmono : ∀ other, round.db.Holds other →
          Db.Holds { round.db with memoryRecords := table } other := by
        intro other hother
        obtain ⟨row, hrow, hsame⟩ := hother
        refine ⟨row, ?_, hsame⟩
        rw [hrows]
        exact List.mem_append_left _ hrow
      have hholds : Db.Holds { round.db with memoryRecords := table } hash := by
        refine ⟨new, ?_, ?_⟩
        · rw [hrows]
          exact List.mem_append_right _ (List.mem_singleton_self new)
        · have hcontent := congrArg MemoryRecord.contentHash hcarried
          exact hcontent.trans hhash
      refine ⟨⟨?_, ?_, h.agents, ?_, h.knownWorkflows, h.noError⟩, hmono, hholds⟩
      · intro row hrow
        show row ∈ table.rows
        rw [hrows]
        exact List.mem_append_left _ (h.kept row hrow)
      · intro row hrow
        have hmem : row ∈ table.rows := hrow
        rw [hrows] at hmem
        rcases List.mem_append.1 hmem with hold | hnew
        · exact h.received row hold
        · rw [List.mem_singleton.1 hnew]
          exact Or.inr ⟨sent, hserver, hportable.active, by rw [hhash]; rfl, hcarried⟩
      · intro other hother
        rcases List.mem_append.1 hother with hold | hnew
        · exact hmono other (h.knownHashes other hold)
        · rw [List.mem_singleton.1 hnew]
          exact hholds

/-- A shadow workflow for a delivered row can be written. -/
theorem autoShadowWorkflow_ofRow (db : Db) (workflowId : UUID) {sent : MemoryRecord}
    {hash : String} (hportable : sent.Portable host) (hhash : sent.contentHash = some hash) :
    ∃ db', autoShadowWorkflow db workflowId (PeerRecord.ofRow sent workflowId hash) = some db' ∧
      db'.memoryRecords = db.memoryRecords ∧ db'.agents = db.agents ∧
      db'.hasWorkflow workflowId = true ∧
      ∀ id, db.hasWorkflow id = true → db'.hasWorkflow id = true := by
  unfold autoShadowWorkflow
  by_cases hexists : db.hasWorkflow workflowId
  · rw [if_pos hexists]
    exact ⟨db, rfl, rfl, rfl, hexists, fun _ h => h⟩
  · have hcolumn := hportable.columns.contentHash hash hhash
    have hplain : '\x00' ∉ hash.toList := by
      unfold columnText? at hcolumn
      dsimp only at hcolumn
      split at hcolumn
      · rename_i hfits
        exact hfits.2
      · cases hcolumn
    have hprompt : '\x00' ∉ (shadowWorkflow workflowId
        (PeerRecord.ofRow sent workflowId hash)).prompt.toList := by
      have hprefix : '\x00' ∉ hash.toList.take 12 := fun hmem => hplain (List.mem_of_mem_take hmem)
      show '\x00' ∉ ("shadow workflow for federated record " ++ hash.take 12).toList
      simpa using hprefix
    rw [if_neg hexists]
    dsimp only
    rw [if_neg hprompt]
    refine ⟨_, rfl, rfl, rfl, ?_, fun id hid => ?_⟩
    · simp [Db.hasWorkflow, Db.workflow?, shadowWorkflow]
    · simp only [Db.hasWorkflow, Db.workflow?, List.find?_append] at hid ⊢
      simp only [Option.isSome_or, hid, Bool.true_or]

/-- One record of a batch: it is stored afterwards, and nothing is lost. -/
theorem persistOne_ofRow {sent : MemoryRecord} {record : PeerRecord}
    (h : Importing client server round) (hserver : sent ∈ server.memoryRecords.rows)
    (hportable : sent.Portable host) (hagent : client.hasAgent sent.sourceAgentId = true)
    (hsent : IsSent sent record) :
    ∃ round', persistOne host now round record = .ok round' ∧ Importing client server round' ∧
      Extends round round' ∧ round'.db.Holds record.contentHash := by
  obtain ⟨workflowId, hash, hworkflow, hhash, rfl⟩ := hsent
  have hpersist : ∃ persisted round', persistPeerRecord host now
      (PeerRecord.ofRow sent workflowId hash) round = .ok (persisted, round') ∧
      Importing client server round' ∧ Extends round round' ∧ round'.db.Holds hash := by
    have hne : (PeerRecord.ofRow sent workflowId hash).workflowId ≠ "" := str_ne_empty workflowId
    have hparse : UUID.parse? (PeerRecord.ofRow sent workflowId hash).workflowId =
        some workflowId := UUID.parse?_str workflowId
    unfold persistPeerRecord
    rw [if_neg hne, hparse]
    dsimp only
    by_cases hknown : workflowId ∈ round.known.workflowIds
    · rw [if_pos hknown]
      exact storePeerRecord_ofRow now h hserver hportable hagent hworkflow hhash
        (h.knownWorkflows workflowId hknown)
    · obtain ⟨db', hshadow, hrows, hagents, hexists, hworkflows⟩ :=
        autoShadowWorkflow_ofRow round.db workflowId hportable hhash
      rw [if_neg hknown, hshadow]
      have hholds : ∀ other, db'.Holds other ↔ round.db.Holds other := by
        intro other
        unfold Db.Holds
        rw [hrows]
      have hstart : Importing client server { round with
          db := db'
          known.workflowIds := round.known.workflowIds ++ [workflowId] } := by
        refine ⟨?_, ?_, ?_, ?_, ?_, h.noError⟩
        · rw [hrows]
          exact h.kept
        · rw [hrows]
          exact h.received
        · exact hagents.trans h.agents
        · intro other hother
          exact (hholds other).2 (h.knownHashes other hother)
        · intro id hid
          rcases List.mem_append.1 hid with hold | hnew
          · exact hworkflows id (h.knownWorkflows id hold)
          · rw [List.mem_singleton.1 hnew]
            exact hexists
      obtain ⟨persisted, round', hstored, himporting, hextends, hheld⟩ :=
        storePeerRecord_ofRow now hstart hserver hportable hagent hworkflow hhash hexists
      exact ⟨persisted, round', hstored, himporting,
        fun other hother => hextends other ((hholds other).2 hother), hheld⟩
  obtain ⟨persisted, round', hpersisted, himporting, hextends, hheld⟩ := hpersist
  unfold persistOne
  rw [hpersisted]
  cases persisted with
  | false => exact ⟨round', rfl, himporting, hextends, hheld⟩
  | true => exact ⟨_, rfl, himporting.report himporting.noError, hextends, hheld⟩

end GossipService

end MassClaw
