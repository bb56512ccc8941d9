import MassClaw.Crdt.Contract
import MassClaw.Crdt.Network
import MassClaw.Identity.DidKey
import MassClaw.Scheduler.CheckpointRoundTrip
import MassClaw.Workflows.Restore

/-!
# A checkpoint on another node

`CheckpointStore.save` writes a checkpoint as a signed record, and gossip carries
it along.  A checkpoint that one node has saved is loaded, as it was saved, on
every node that a chain of rounds leads to, and the workflow can be restored
there from the DAG that was checkpointed.
-/

namespace MassClaw

open Spreading (Reaches)

/-! ## A row that a key pair has signed -/

namespace CRDTStore

variable {host : Host} {db db' : Db} {now : Time} {write : MemoryWrite} {pair : KeyPair}
  {row : MemoryRecord}

/-- A row that `put` makes of an active write of the author's key pair is
portable, when `str` and JSON spell its metadata keys alike. -/
theorem portable_of_keypair {precomputedHash contentHash : Option String}
    {supplied signature : Option Json}
    (hrow : write.row? host contentHash signature now = some row) (hkeys : write.PlainKeys)
    (hactive : write.recordState = .active) (hgenuine : pair.Genuine host)
    (hbelongs : pair.BelongsTo write.authorDid)
    (hresolve : resolveHashAndSignature host write.canonicalBody (some pair) precomputedHash
      supplied = .ok (contentHash, signature)) : row.Portable host := by
  have hcolumns := MemoryWrite.row?_eq_some hrow
  obtain ⟨bytes, hbytes, hhash, hsigned⟩ := resolve_signed (Or.inl rfl) hresolve
  have hrowBytes := (hcolumns.toSignableBytes_eq hkeys).trans hbytes
  obtain ⟨did, hauthor, hkey⟩ := hbelongs
  have hdid : row.authorDid = some did := by
    have hfield := hcolumns.authorDid
    rw [hauthor] at hfield
    obtain ⟨text, htext, hjson⟩ := Option.map_eq_some_iff.1 hfield.symm
    cases hjson
    exact htext
  have hstored : row.signature = some (encodeMultibase (host.sign bytes pair.privateSeed)) := by
    have hfield := hcolumns.signature
    rw [hsigned pair rfl] at hfield
    obtain ⟨text, htext, hjson⟩ := Option.map_eq_some_iff.1 hfield.symm
    cases hjson
    exact htext
  refine ⟨hcolumns.recordState.trans hactive, ?_, ⟨did, hdid, ?_⟩, ?_, MemoryWrite.row?_fits hrow⟩
  · rw [hcolumns.contentHash, hhash, CanonicalBody.contentHash, CanonicalBody.contentHash, hbytes,
      hrowBytes]
  · exact ⟨_, _, pair.publicBytes, bytes, hstored, decodeMultibase?_encodeMultibase _, hkey,
      hrowBytes, (hgenuine bytes _).2 rfl⟩
  · rw [hcolumns.workflowId]
    rfl

/-- `put` of a hash that is not there appends the row of the write. -/
theorem put_new {keypair : Option KeyPair} {precomputedHash : Option String}
    {supplied : Option Json}
    (h : put host db now write keypair precomputedHash supplied = .ok (row, db'))
    (hnew : ∀ hash, row.contentHash = some hash → ¬db.Holds hash) :
    ∃ contentHash signature record,
      resolveHashAndSignature host write.canonicalBody keypair precomputedHash supplied =
        .ok (contentHash, signature) ∧
      write.row? host contentHash signature now = some record ∧
      row = { record with memoryId := db.memoryRecords.nextId } ∧
      db'.memoryRecords.rows = db.memoryRecords.rows ++ [row] ∧
      db' = { db with memoryRecords := db'.memoryRecords } := by
  unfold put at h
  obtain ⟨⟨contentHash, signature⟩, hresolve, h⟩ := Outcome.bind_eq_ok h
  refine ⟨contentHash, signature, ?_⟩
  cases hfound : db.fetchByHash contentHash with
  | some existing =>
    simp only [hfound] at h
    cases h
    obtain ⟨hash, rfl, hfirst⟩ := Option.bind_eq_some_iff.1 hfound
    have hhash : row.contentHash = some hash := by simpa using List.find?_some hfirst
    exact absurd ⟨row, List.mem_of_find?_eq_some hfirst, hhash⟩ (hnew hash hhash)
  | none =>
    simp only [hfound] at h
    cases hrow : write.row? host contentHash signature now with
    | none =>
      simp only [hrow] at h
      cases h
    | some record =>
      simp only [hrow] at h
      obtain ⟨hid, hrows, hdb⟩ := Db.insertMemoryRecord_eq_ok (Outcome.mapError_eq_ok.1 h)
      exact ⟨record, hresolve, rfl, hid, hrows, hdb⟩

/-- `put` inserts the row of a write whose hash is not there. -/
theorem put_of_resolve {keypair : Option KeyPair} {precomputedHash contentHash : Option String}
    {supplied signature : Option Json} {record : MemoryRecord}
    (hresolve : resolveHashAndSignature host write.canonicalBody keypair precomputedHash supplied =
      .ok (contentHash, signature)) (hfound : db.fetchByHash contentHash = none)
    (hrecord : write.row? host contentHash signature now = some record)
    (hinsert : db.insertMemoryRecord record = .ok (row, db')) :
    put host db now write keypair precomputedHash supplied = .ok (row, db') := by
  unfold put
  rw [hresolve]
  simp only [bind, Except.bind, hfound, hrecord, hinsert]
  rfl

end CRDTStore

/-! ## Saving and loading -/

namespace CheckpointStore

/-- What `save` asks the store to write. -/
def writeOf (host : Host) (authorDid : String) (checkpoint : WorkflowCheckpoint) : MemoryWrite where
  workflowId := checkpoint.workflowId
  memoryType := .metaType
  content :=
    if checkpoint.reason ≠ "" then checkpoint.reason
    else s!"workflow checkpoint @ {host.isoformat checkpoint.createdAt}"
  confidence := .finite 1
  metadata := (metadataFor host checkpoint).map (fun entry => (.str entry.1, entry.2))
  authorDid := some (.str authorDid)

/-- `save`, of a store with the key pair. -/
def save (host : Host) (db : Db) (now : Time) (keypair : KeyPair)
    (checkpoint : WorkflowCheckpoint) : Except StoreError (WorkflowCheckpoint × Db) := do
  let authorDid ← (buildDidKey keypair.publicBytes).mapError .malformedDid
  let (record, db) ←
    CRDTStore.put host db now (writeOf host authorDid checkpoint) (some keypair) none none
  return ({ checkpoint with contentHash := record.contentHash }, db)

variable {host : Host} {now : Time} {db db' : Db} {checkpoint saved : WorkflowCheckpoint}

theorem save_of_put {keypair : KeyPair} {authorDid : String} {row : MemoryRecord}
    (hauthor : buildDidKey keypair.publicBytes = .ok authorDid)
    (hput : CRDTStore.put host db now (writeOf host authorDid checkpoint) (some keypair) none none =
      .ok (row, db')) {contentHash : Option String} (hhash : row.contentHash = contentHash) :
    save host db now keypair checkpoint =
      .ok ({ checkpoint with contentHash := contentHash }, db') := by
  subst hhash
  unfold save
  rw [hauthor]
  simp only [Except.mapError, bind, Except.bind, hput]
  rfl

/-- A checkpoint that is saved for the first time is a new portable row, which
no agent has written. -/
theorem save_new {keypair : KeyPair} (hgenuine : keypair.Genuine host)
    (h : save host db now keypair checkpoint = .ok (saved, db'))
    (hnew : ∀ hash, saved.contentHash = some hash → ¬db.Holds hash) :
    ∃ row : MemoryRecord, saved = { checkpoint with contentHash := row.contentHash } ∧
      row.contentHash.isSome ∧ row.Portable host ∧ row.sourceAgentId = none ∧
      row.memoryType = .metaType ∧ row.metadata = metadataFor host checkpoint ∧
      db'.memoryRecords.rows = db.memoryRecords.rows ++ [row] ∧
      db' = { db with memoryRecords := db'.memoryRecords } := by
  unfold save at h
  obtain ⟨authorDid, hauthor, h⟩ := Outcome.bind_eq_ok h
  obtain ⟨⟨row, stored⟩, hput, h⟩ := Outcome.bind_eq_ok h
  cases h
  obtain ⟨contentHash, signature, record, hresolve, hrecord, rfl, hrows, hdb⟩ :=
    CRDTStore.put_new hput hnew
  have hcolumns := MemoryWrite.row?_eq_some hrecord
  obtain ⟨bytes, hbytes, hhash, -⟩ := CRDTStore.resolve_signed (Or.inl rfl) hresolve
  have hplain : (writeOf host authorDid checkpoint).PlainKeys := by
    intro entry hentry
    obtain ⟨text, -, rfl⟩ := List.mem_map.1 hentry
    exact id
  have hbelongs : keypair.BelongsTo (writeOf host authorDid checkpoint).authorDid :=
    ⟨authorDid, rfl, publicKeyForDid_buildDidKey (Outcome.mapError_eq_ok.1 hauthor)⟩
  have hportable : record.Portable host :=
    CRDTStore.portable_of_keypair hrecord hplain rfl hgenuine hbelongs hresolve
  refine ⟨_, rfl, ?_, hportable.congr rfl, hcolumns.sourceAgentId, hcolumns.memoryType, ?_, hrows,
    hdb⟩
  · show record.contentHash.isSome = true
    rw [hcolumns.contentHash, hhash, CanonicalBody.contentHash, hbytes]
    rfl
  · show record.metadata = _
    have hnames : (writeOf host authorDid checkpoint).metadata.map
        (fun entry => (entry.1.jsonName host.repr, entry.2)) = metadataFor host checkpoint := rfl
    rw [hcolumns.metadata, hnames]
    exact Assoc.ofList_of_nodup
      (show ["checkpoint", "checkpoint_workflow_id", "checkpoint_reason",
        "checkpoint_payload"].Nodup by decide)

section Copies

variable {contentHash : String} {row copy : MemoryRecord}

/-- What is loaded is decided by the columns that travel of the row with the
hash. -/
def loaded (host : Host) (now : Time) (row : MemoryRecord) :
    Except CheckpointLoadError (Option WorkflowCheckpoint) :=
  if isCheckpointRecord row then (decodeRecord host now row).map some else .ok none

theorem loadByHash_of_mem (hrow : row ∈ db.memoryRecords.rows)
    (hhash : row.contentHash = some contentHash) :
    loadByHash host now db contentHash = loaded host now row := by
  have hfound : db.fetchByHash (some contentHash) = some row := by
    cases hfirst : db.fetchByHash (some contentHash) with
    | none =>
      have hnone := List.find?_eq_none.1 hfirst row hrow
      exact absurd (decide_eq_true hhash) hnone
    | some found =>
      have hsame : found.contentHash = some contentHash := by simpa using List.find?_some hfirst
      rw [Table.eq_of_unique (List.mem_of_find?_eq_some hfirst) hrow hsame hhash]
  rw [loadByHash, hfound]
  rfl

theorem loaded_of_carried (h : copy.carried = row.carried) :
    loaded host now copy = loaded host now row := by
  cases copy
  cases row
  cases h
  rfl

/-- The row of a saved checkpoint loads as the checkpoint, when the host reads
the time that it wrote. -/
theorem loaded_of_saved {snapshot : List (String × Json)}
    (hclock : host.fromIsoformat? (host.isoformat checkpoint.createdAt) =
      some checkpoint.createdAt)
    (htype : row.memoryType = .metaType) (hmetadata : row.metadata = metadataFor host checkpoint)
    (hsnapshot : checkpoint.dagSnapshot = .dict snapshot) (hversion : checkpoint.version ≠ 0) :
    loaded host now row = .ok (some { checkpoint with contentHash := row.contentHash }) := by
  have hmarked : isCheckpointRecord row = true := by
    rw [isCheckpointRecord, MemoryRecord.hasMarker, hmetadata, htype]
    rfl
  rw [loaded, if_pos hmarked, decodeRecord_metadataFor hmetadata hsnapshot hversion, hclock]
  rfl

end Copies

end CheckpointStore

namespace WorkflowResumer

/-- A loaded checkpoint of a DAG that was accepted and changed is restored: the
workflow runs from the snapshot, and the snapshot is the DAG. -/
theorem restore_fromDag {input : ResumeInput} {db : Db} {checkpoint : WorkflowCheckpoint}
    {dag : DAG} (hsnapshot : checkpoint.dagSnapshot = dag.toDict)
    (hdag : Transition.Reachable DAG.Accepted DAG.Change dag) :
    checkpoint.restoreDag = .ok dag ∧
      ∃ outcome db' workflow, restore input db checkpoint = .ok (outcome, db') ∧
        db'.workflow? checkpoint.workflowId = some workflow ∧ workflow.status = .running ∧
        workflow.dagSnapshot = some dag.toDict := by
  have hrebuilt : DAG.fromDict checkpoint.dagSnapshot = .ok dag := by
    rw [hsnapshot, DAG.fromDict_toDict, (DAG.rebuildable_of_reachable hdag).new_of_rebuildable]
    rfl
  refine ⟨by rw [WorkflowCheckpoint.restoreDag, hrebuilt], ?_⟩
  cases hrestore : restore input db checkpoint with
  | error error =>
    rw [restore, hrebuilt] at hrestore
    cases hrestore
  | ok restored =>
    obtain ⟨workflow, hfound, hrunning, hstored⟩ := workflow?_restore hrestore
    exact ⟨restored.1, restored.2, workflow, rfl, hfound, hrunning,
      hstored.trans (by rw [hsnapshot])⟩

end WorkflowResumer

/-! ## The network -/

namespace Network

open GossipService

variable {ι : Type} [DecidableEq ι] {host : Host} {net : Network ι} {i : ι} {db' : Db}

/-- The network stays healthy when a node stores a portable row of no agent. -/
theorem Healthy.stored {row : MemoryRecord} (h : net.Healthy host) (hportable : row.Portable host)
    (hagent : row.sourceAgentId = none)
    (hrows : db'.memoryRecords.rows = (net i).memoryRecords.rows ++ [row])
    (hagents : db'.agents = (net i).agents) : Healthy host (Function.update net i db') := by
  have hcases : ∀ k, ∀ other ∈ (Function.update net i db' k).memoryRecords.rows,
      other ∈ (net k).memoryRecords.rows ∨ other = row := by
    intro k other hother
    by_cases hk : k = i
    · subst hk
      rw [Function.update_self, hrows] at hother
      exact (List.mem_append.1 hother).imp_right List.mem_singleton.1
    · rw [Function.update_of_ne hk] at hother
      exact Or.inl hother
  have hknown : ∀ k agent, (net k).hasAgent agent = true →
      (Function.update net i db' k).hasAgent agent = true := by
    intro k agent hagent
    by_cases hk : k = i
    · subst hk
      rw [Function.update_self]
      unfold Db.hasAgent at hagent ⊢
      rw [hagents]
      exact hagent
    · rw [Function.update_of_ne hk]
      exact hagent
  refine ⟨fun k other hother hactive hhash => ?_, fun k other hother hhash => ?_,
    fun k k' other hother hactive hhash => hknown k' _ ?_⟩
  · rcases hcases k other hother with hold | rfl
    · exact h.serves k other hold hactive hhash
    · exact hportable
  · rcases hcases k other hother with hold | rfl
    · exact h.active k other hold hhash
    · exact hportable.active
  · rcases hcases k other hother with hold | rfl
    · exact h.agents k k' other hold hactive hhash
    · rw [hagent]
      rfl

/-- A node loads only what a node loads from which a chain of rounds leads to
it. -/
theorem loaded_origin {rounds : List (NodeRound ι)}
    (hlength : ∀ data, (host.sha256 data).length = 32) (h : net.Healthy host)
    (hrounds : AllComparable host net rounds) {j : ι} {now : Time} {contentHash : String}
    {checkpoint : WorkflowCheckpoint}
    (hloaded : CheckpointStore.loadByHash host now (Transition.after (tick host) net rounds j)
      contentHash = .ok (some checkpoint)) :
    ∃ i, Reaches (rounds.map NodeRound.link) i j ∧
      CheckpointStore.loadByHash host now (net i) contentHash = .ok (some checkpoint) := by
  obtain ⟨row, hrow, hhash, -, -⟩ := CheckpointStore.loadByHash_eq_some hloaded
  obtain ⟨i, hreaches, origin, horigin, hcarried⟩ := origin_of_after hlength h hrounds hrow
  refine ⟨i, hreaches, ?_⟩
  rw [CheckpointStore.loadByHash_of_mem horigin
    ((MemoryRecord.contentHash_of_carried hcarried).symm.trans hhash),
    CheckpointStore.loaded_of_carried hcarried.symm, ← hloaded,
    CheckpointStore.loadByHash_of_mem hrow hhash]

namespace TravelExample

open UnionExample WorkflowCheckpoint.RoundTripExample
open CRDTStore.ContractExample (pair pair_genuine start)

/-- A host that tells inputs apart by their ends, and knows the beginning of the
epoch. -/
def clocked : Host :=
  { tails with isoformat := epochHost.isoformat, fromIsoformat? := epochHost.fromIsoformat? }

/-- The paused run, with its first node failed and an alternative added. -/
def paused : WorkflowCheckpoint :=
  .fromDag 0 (UUID.ofNat 1) changed "paused" (some "a") [] none

def write : MemoryWrite := CheckpointStore.writeOf clocked author paused

/-- The hash of the checkpoint. -/
def pausedHash : String := "zLcn5ZmLzSE9bs8nURHuHELJaYqEBaJb7rKqXFBYdbvL"

theorem contentHash_write : write.canonicalBody.contentHash clocked = some pausedHash := by
  unfold CanonicalBody.contentHash CanonicalBody.toSignableBytes
  rw [canonicalize_eq_flatMap]
  decide +kernel

theorem genuine : pair.Genuine clocked := pair_genuine

theorem resolve_write : CRDTStore.resolveHashAndSignature clocked write.canonicalBody (some pair)
    none none = .ok (some pausedHash, some (.str signature)) := by
  obtain ⟨bytes, hbytes, hhash⟩ := Option.map_eq_some_iff.1 contentHash_write
  have hsignature : encodeMultibase (clocked.sign bytes pair.privateSeed) = signature := by
    show encodeMultibase pair.privateSeed = signature
    decide +kernel
  unfold CRDTStore.resolveHashAndSignature
  simp only [hbytes, hhash, hsignature]
  rfl

theorem row?_write : ∃ record, write.row? clocked (some pausedHash) (some (.str signature)) 0 =
    some record :=
  Option.isSome_iff_exists.1 (by decide +kernel)

/-- The first node saves the checkpoint. -/
theorem save_paused : ∃ db', CheckpointStore.save clocked start 0 pair paused =
    .ok ({ paused with contentHash := some pausedHash }, db') := by
  have hauthor : buildDidKey pair.publicBytes = .ok author := by decide +kernel
  obtain ⟨record, hrecord⟩ := row?_write
  have hcolumns := MemoryWrite.row?_eq_some hrecord
  have hworkflow : record.workflowId.all start.hasWorkflow = true := by
    rw [hcolumns.workflowId]
    rfl
  have hagent : start.hasAgent record.sourceAgentId = true := by
    rw [hcolumns.sourceAgentId]
    rfl
  obtain ⟨table, hinsert, -⟩ := Db.insertMemoryRecord_ok hworkflow hagent
    (fun hash _ hheld => hheld.elim (fun row h => absurd h.1 List.not_mem_nil))
  have hput := CRDTStore.put_of_resolve resolve_write rfl hrecord hinsert
  exact ⟨_, CheckpointStore.save_of_put hauthor hput hcolumns.contentHash⟩

theorem not_holds_start (hash : String) : ¬start.Holds hash :=
  fun ⟨_, hrow, _⟩ => absurd hrow List.not_mem_nil

/-- The two nodes before the checkpoint. -/
def nodes : Network Bool := fun _ => start

theorem healthy_nodes : nodes.Healthy clocked where
  serves := fun _ _ hrow => absurd hrow List.not_mem_nil
  active := fun _ _ hrow => absurd hrow List.not_mem_nil
  agents := fun _ _ _ hrow => absurd hrow List.not_mem_nil

/-- The second node visits the one that has saved the checkpoint. -/
def visit : NodeRound Bool := { client := false, server := true, now := 0, order := asStored }

section Saved

variable {db' : Db} (hsave : CheckpointStore.save clocked start 0 pair paused =
  .ok ({ paused with contentHash := some pausedHash }, db'))

include hsave

/-- The only row is that of the checkpoint. -/
theorem rows_saved : ∃ row : MemoryRecord, db'.memoryRecords.rows = [row] ∧
    row.contentHash = some pausedHash ∧ row.Portable clocked := by
  obtain ⟨row, hsaved, -, hportable, -, -, -, hrows, -⟩ :=
    CheckpointStore.save_new genuine hsave (fun hash _ => not_holds_start hash)
  exact ⟨row, hrows, (congrArg WorkflowCheckpoint.contentHash hsaved).symm, hportable⟩

theorem oneRecordPerHash : OneRecordPerHash (Function.update nodes true db') := by
  obtain ⟨row, hrows, -, -⟩ := rows_saved hsave
  have honly : ∀ k, ∀ other ∈ (Function.update nodes true db' k).memoryRecords.rows,
      other = row := by
    intro k other hother
    cases k with
    | false =>
      rw [Function.update_of_ne Bool.false_ne_true] at hother
      exact absurd hother List.not_mem_nil
    | true =>
      rw [Function.update_self, hrows] at hother
      exact List.mem_singleton.1 hother
  intro k k' first hfirst second hsecond _ _
  rw [honly k first hfirst, honly k' second hsecond]

theorem comparable : AllComparable clocked (Function.update nodes true db') [visit] := by
  obtain ⟨row, hrows, hhash, hportable⟩ := rows_saved hsave
  intro step hstep
  rw [List.mem_singleton.1 hstep]
  refine ⟨Or.inl rfl, Or.inl rfl, ?_⟩
  have hserver : SyncService.iterHashes (Function.update nodes true db' visit.server) none =
      [pausedHash] := by
    rw [show visit.server = true from rfl, Function.update_self, SyncService.iterHashes, hrows]
    have hkept : row.contentHash.filter (fun hash => decide (hash ≠ "")) = some pausedHash := by
      rw [hhash]
      rfl
    simp only [List.filter_cons, hportable.active, Option.all_none, and_self, decide_true, if_true,
      List.filter_nil]
    exact List.filterMap_cons_some hkept
  have hclient :
      SyncService.iterHashes (Function.update nodes true db' visit.client) none = [] := by
    rw [show visit.client = false from rfl, Function.update_of_ne Bool.false_ne_true]
    rfl
  rw [hserver, hclient]
  have hempty : filledBuckets [] = [] := by decide +kernel
  have hfilled : filledBuckets [pausedHash] = [[pausedHash]] := by decide +kernel
  unfold summaryInputs
  rw [rootBody_eq, rootBody_eq, hempty, hfilled]
  unfold CollisionFree
  decide +kernel

end Saved

end TravelExample

end Network

end MassClaw
