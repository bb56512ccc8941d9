import MassClaw.Crdt.Reconcile
import MassClaw.Crdt.WireForm

/-!
# Two rounds between two nodes

When the hashed rows of two nodes are active, addressed, signed by their
authors and of agents that both nodes know, a round in each direction leaves
both nodes with the union of their rows, each hash once, and so with equal
roots.  The summaries of the first round may still be cached in the second:
what they leave out is what the second client has already.
-/

namespace MassClaw

variable {host : Host}

namespace GossipService

/-- The bytes that the hashed rows of a node were signed over. -/
def signedInputs (host : Host) (db : Db) : List Bytes :=
  db.memoryRecords.rows.filterMap (fun row =>
    if row.contentHash.isSome then row.canonicalBody.toSignableBytes host else none)

/-- What two nodes hash when they reconcile: the bodies of their rows, and the
summaries of each of them and of both together. -/
def hashedInputs (host : Host) (a b : Db) : List Bytes :=
  signedInputs host a ++ signedInputs host b ++
    summaryInputs host (SyncService.iterHashes a none) ++
    summaryInputs host (SyncService.iterHashes b none) ++
    summaryInputs host (SyncService.iterHashes a none ++ SyncService.iterHashes b none)

/-- Every hashed row is active. -/
def AllActive (db : Db) : Prop :=
  ∀ row ∈ db.memoryRecords.rows, row.contentHash.isSome → row.recordState = .active

/-- Two nodes whose records each of them can import. -/
structure Reconcilable (host : Host) (a b : Db) : Prop where
  left : Serves host a
  right : Serves host b
  leftActive : AllActive a
  rightActive : AllActive b
  leftAgents : AgentsKnown a a ∧ AgentsKnown a b
  rightAgents : AgentsKnown b a ∧ AgentsKnown b b
  collisionFree : CollisionFree host (hashedInputs host a b)

/-- What the cache of a node can hold after a round that started without a
cached summary: nothing, or the summary of that time. -/
def LeftInCache (host : Host) (db : Db) (cached : Option MerkleSummary) : Prop :=
  cached = none ∨ cached = some (summariseHashes host (SyncService.iterHashes db none))

/-- The node has its own rows and those of the other, and each hash once.  A
row of the other node is there as a row with its hash and its signed bytes. -/
structure HoldsUnion (host : Host) (own other db : Db) : Prop where
  kept : ∀ row ∈ own.memoryRecords.rows, row ∈ db.memoryRecords.rows
  received : ∀ row ∈ db.memoryRecords.rows, row ∈ own.memoryRecords.rows ∨
    ∃ sent ∈ other.memoryRecords.rows, sent.contentHash.isSome ∧ row.carried = sent.carried
  complete : ∀ sent ∈ other.memoryRecords.rows, sent.contentHash.isSome →
    ∃ row ∈ db.memoryRecords.rows, row.contentHash = sent.contentHash ∧
      row.canonicalBody.toSignableBytes host = sent.canonicalBody.toSignableBytes host
  once : (db.memoryRecords.rows.filterMap MemoryRecord.contentHash).Nodup

variable {a b : Db}

/-- A portable row has signed bytes. -/
theorem portable_bytes {row : MemoryRecord} (h : row.Portable host) :
    ∃ bytes, row.canonicalBody.toSignableBytes host = some bytes ∧
      row.contentHash = some (encodeMultibase (host.sha256 bytes)) := by
  obtain ⟨_, _, _, _, _, bytes, _, _, _, hbytes, _⟩ := h.verified
  refine ⟨bytes, hbytes, ?_⟩
  rw [h.addressed, CanonicalBody.contentHash, hbytes]
  rfl

/-- Where every hashed row is active, every stored hash is listed. -/
theorem AllActive.lists_iff {db : Db} (h : AllActive db) {hash : String} :
    db.Lists hash ↔ db.Holds hash := by
  constructor
  · intro hlists
    exact hlists.holds
  · intro hholds
    obtain ⟨row, hrow, hhash⟩ := hholds
    exact ⟨row, hrow, hhash, h row hrow (by rw [hhash]; rfl)⟩

theorem mem_signedInputs {db : Db} {row : MemoryRecord} {bytes : Bytes}
    (hrow : row ∈ db.memoryRecords.rows) (hhash : row.contentHash.isSome)
    (hbytes : row.canonicalBody.toSignableBytes host = some bytes) :
    bytes ∈ signedInputs host db := by
  refine List.mem_filterMap.2 ⟨row, hrow, ?_⟩
  rw [if_pos hhash]
  exact hbytes

/-- Rows of one hash have the same signed bytes. -/
theorem bytes_eq_of_hash (h : Reconcilable host a b) {row sent : MemoryRecord}
    (hrow : row ∈ a.memoryRecords.rows) (hsent : sent ∈ b.memoryRecords.rows)
    (hhash : sent.contentHash.isSome) (hsame : row.contentHash = sent.contentHash) :
    row.canonicalBody.toSignableBytes host = sent.canonicalBody.toSignableBytes host := by
  have hrowHash : row.contentHash.isSome := by
    rw [hsame]
    exact hhash
  obtain ⟨x, hx, hxhash⟩ := portable_bytes
    (h.left row hrow (h.leftActive row hrow hrowHash) hrowHash)
  obtain ⟨y, hy, hyhash⟩ := portable_bytes
    (h.right sent hsent (h.rightActive sent hsent hhash) hhash)
  rw [hxhash, hyhash] at hsame
  have hdigest := encodeMultibase_inj.1 (Option.some.inj hsame)
  have hx' := mem_signedInputs hrow hrowHash hx
  have hy' := mem_signedInputs hsent hhash hy
  have hbytes := h.collisionFree x (by simp [hashedInputs, hx']) y (by simp [hashedInputs, hy'])
    hdigest
  rw [hx, hy, hbytes]

theorem Reconcilable.symm (h : Reconcilable host a b) : Reconcilable host b a := by
  refine ⟨h.right, h.left, h.rightActive, h.leftActive, h.rightAgents.symm, h.leftAgents.symm,
    h.collisionFree.mono ?_⟩
  have hboth : summaryInputs host (SyncService.iterHashes b none ++ SyncService.iterHashes a none) =
      summaryInputs host (SyncService.iterHashes a none ++ SyncService.iterHashes b none) :=
    summaryInputs_congr (fun hash => by simp [or_comm])
  intro data hdata
  simp only [hashedInputs, List.mem_append, hboth] at hdata ⊢
  tauto

/-- The client can be asked in turn: what it has received it can serve. -/
theorem serves_of_merged {db : Db} (h : Reconcilable host a b) (hmerged : Merged a b db) :
    Serves host db ∧ AllActive db ∧ AgentsKnown db b := by
  refine ⟨fun row hrow hactive hhash => ?_, fun row hrow hhash => ?_,
    fun row hrow hactive hhash => ?_⟩
  · rcases hmerged.received row hrow with hown | ⟨sent, hsent, hstate, hsome, hcarried⟩
    · exact h.left row hown hactive hhash
    · exact (h.right sent hsent hstate hsome).congr hcarried.symm
  · rcases hmerged.received row hrow with hown | ⟨sent, hsent, hstate, hsome, hcarried⟩
    · exact h.leftActive row hown hhash
    · exact ((h.right sent hsent hstate hsome).congr hcarried.symm).active
  · rcases hmerged.received row hrow with hown | ⟨sent, hsent, hstate, hsome, hcarried⟩
    · exact h.leftAgents.2 row hown hactive hhash
    · rw [MemoryRecord.sourceAgentId_of_carried hcarried]
      exact h.rightAgents.2 sent hsent hstate hsome

/-- A complete round leaves the union. -/
theorem Merged.holdsUnion {db : Db} (h : Reconcilable host a b) (hmerged : Merged a b db) :
    HoldsUnion host a b db := by
  refine ⟨hmerged.kept, fun row hrow => ?_, fun sent hsent hhash => ?_,
    db.memoryRecords.nodupUnique⟩
  · rcases hmerged.received row hrow with hown | ⟨sent, hsent, -, hsome, hcarried⟩
    · exact Or.inl hown
    · exact Or.inr ⟨sent, hsent, hsome, hcarried⟩
  obtain ⟨hash, hsome⟩ := Option.isSome_iff_exists.1 hhash
  obtain ⟨row, hrow, hsame⟩ := hmerged.complete hash
    ⟨sent, hsent, hsome, h.rightActive sent hsent hhash⟩
  refine ⟨row, hrow, hsame.trans hsome.symm, ?_⟩
  rcases hmerged.received row hrow with hown | ⟨origin, horigin, -, -, hcarried⟩
  · exact bytes_eq_of_hash h hown hsent hhash (hsame.trans hsome.symm)
  · have horiginHash : origin.contentHash = some hash :=
      (MemoryRecord.contentHash_of_carried hcarried).symm.trans hsame
    have hunique : origin = sent := Table.eq_of_unique horigin hsent horiginHash hsome
    rw [MemoryRecord.canonicalBody_of_carried hcarried, hunique]

/-- The client lists what one of the two nodes listed. -/
theorem Merged.lists_iff {db : Db} (h : Reconcilable host a b) (hmerged : Merged a b db)
    {hash : String} : db.Lists hash ↔ a.Lists hash ∨ b.Lists hash := by
  have hactive := (serves_of_merged h hmerged).2.1
  constructor
  · intro hlists
    obtain ⟨row, hrow, hhash, hstate⟩ := hlists
    rcases hmerged.received row hrow with hown | ⟨sent, hsent, hsentActive, -, hcarried⟩
    · exact Or.inl ⟨row, hown, hhash, hstate⟩
    · exact Or.inr ⟨sent, hsent,
        (MemoryRecord.contentHash_of_carried hcarried).symm.trans hhash, hsentActive⟩
  · intro hlists
    rcases hlists with ⟨row, hrow, hhash, hstate⟩ | hserved
    · exact ⟨row, hmerged.kept row hrow, hhash, hstate⟩
    · exact hactive.lists_iff.2 (hmerged.complete hash hserved)

/-- One round in each direction, unscoped, from nodes without cached summaries:
no round reports an error, both nodes end with the union of their records, each
hash once, and their Merkle roots are equal. -/
theorem reconcile_union (host : Host) (hlength : ∀ data, (host.sha256 data).length = 32)
    (a b : Db) (h : Reconcilable host a b) (now later : Time) (order order' : RowOrder)
    (clientCached serverCached : Option MerkleSummary) (hclient : LeftInCache host b clientCached)
    (hserver : LeftInCache host a serverCached) :
    let first := reconcileNodes host now order a b none none
    let second := reconcileNodes host later order' b first.2 clientCached serverCached
    first.1.error = none ∧ second.1.error = none ∧
      HoldsUnion host a b first.2 ∧ HoldsUnion host b a second.2 ∧
      (SyncService.summarise host first.2 none none).root =
        (SyncService.summarise host second.2 none none).root := by
  intro first second
  obtain ⟨herror, hfirst⟩ : first.1.error = none ∧ Merged a b first.2 := by
    refine reconcileNodes_merged now order h.left h.right hlength h.rightAgents.1 rfl rfl
      (fun hash hlists _ => (h.right.mem_iterHashes hlength).2 hlists)
      (h.collisionFree.mono (fun data hdata => ?_))
    simp only [hashedInputs, List.mem_append] at hdata ⊢
    tauto
  obtain ⟨hserves, -, hagents⟩ := serves_of_merged h hfirst
  -- the summary of `a` in the second round: of the old rows, or of all of them
  have hsummary : ∃ seen, SyncService.summarise host first.2 serverCached none =
      summariseHashes host seen ∧ (seen = SyncService.iterHashes a none ∨
        seen = SyncService.iterHashes a none ++ SyncService.iterHashes b none) := by
    rcases hserver with hnone | hsome
    · refine ⟨_, ?_, Or.inr rfl⟩
      rw [hnone]
      refine summariseHashes_congr (fun hash => ?_)
      rw [hserves.mem_iterHashes hlength, hfirst.lists_iff h, List.mem_append,
        h.left.mem_iterHashes hlength, h.right.mem_iterHashes hlength]
    · refine ⟨_, ?_, Or.inl rfl⟩
      rw [hsome]
      rfl
  obtain ⟨seen, hremote, hseen⟩ := hsummary
  have hlocal : SyncService.summarise host b clientCached none =
      summariseHashes host (SyncService.iterHashes b none) := by
    rcases hclient with hnone | hsome
    · rw [hnone]
      rfl
    · rw [hsome]
      rfl
  have hcovers : ∀ hash, first.2.Lists hash → ¬b.Lists hash → hash ∈ seen := by
    intro hash hlists hnot
    have hown : hash ∈ SyncService.iterHashes a none := by
      rcases (hfirst.lists_iff h).1 hlists with hown | hother
      · exact (h.left.mem_iterHashes hlength).2 hown
      · exact absurd hother hnot
    rcases hseen with rfl | rfl
    · exact hown
    · exact List.mem_append_left _ hown
  obtain ⟨herror', hsecond⟩ : second.1.error = none ∧ Merged b first.2 second.2 := by
    refine reconcileNodes_merged later order' h.right hserves hlength hagents hlocal hremote
      hcovers (h.collisionFree.mono (fun data hdata => ?_))
    rcases hseen with rfl | rfl
    · simp only [hashedInputs, List.mem_append] at hdata ⊢
      tauto
    · simp only [hashedInputs, List.mem_append] at hdata ⊢
      tauto
  -- what comes from the first node after its round comes from its own rows
  have hback : Merged b a second.2 := by
    refine ⟨hsecond.kept, fun row hrow => ?_, fun hash hlists => ?_, hsecond.agents⟩
    · rcases hsecond.received row hrow with hown | ⟨sent, hsent, hstate, hsome, hcarried⟩
      · exact Or.inl hown
      · rcases hfirst.received sent hsent with horigin | ⟨origin, horigin, -, -, hcarried'⟩
        · exact Or.inr ⟨sent, horigin, hstate, hsome, hcarried⟩
        · obtain ⟨hash, hhash⟩ := Option.isSome_iff_exists.1 hsome
          have hrowHash := (MemoryRecord.contentHash_of_carried hcarried).trans hhash
          have horiginHash := (MemoryRecord.contentHash_of_carried hcarried').symm.trans hhash
          have hunique : row = origin :=
            Table.eq_of_unique hrow (hsecond.kept origin horigin) hrowHash horiginHash
          rw [hunique]
          exact Or.inl horigin
    · exact hsecond.complete hash ((hfirst.lists_iff h).2 (Or.inl hlists))
  have hserves' := (serves_of_merged h.symm hback).1
  refine ⟨herror, herror', hfirst.holdsUnion h, hback.holdsUnion h.symm, ?_⟩
  have hsets : ∀ hash, hash ∈ SyncService.iterHashes first.2 none ↔
      hash ∈ SyncService.iterHashes second.2 none := by
    intro hash
    rw [hserves.mem_iterHashes hlength, hserves'.mem_iterHashes hlength, hfirst.lists_iff h,
      hback.lists_iff h.symm, or_comm]
  exact congrArg MerkleSummary.root (summariseHashes_congr hsets)

/-! ## Two nodes with one fact each -/

namespace UnionExample

/-- A host whose digest is the length of the data and its last 30 bytes. -/
def tails : Host :=
  { Host.lengths with
    sha256 := fun data => UInt8.ofNat data.length :: UInt8.ofNat (data.length / 256) ::
      (data.reverse ++ List.replicate 30 0).take 30 }

theorem length_tails (data : Bytes) : (tails.sha256 data).length = 32 := by
  simp [tails]

/-- The key of the author. -/
def key : Bytes := List.replicate 32 0

/-- The signature of the author, on every message. -/
def signature : String := "z11111111111111111111111111111111"

/-- The `did:key` of the author. -/
def author : String := "did:key:z6MkeTG3bFFSLYVU7VqhgZxqr6YzpaGrQtFMh1uvqGy1vDnP"

/-- A signed fact of the author. -/
def fact (content contentHash : String) : MemoryRecord where
  workflowId := some (UUID.ofNat 1)
  sourceAgentId := none
  memoryType := .fact
  content := content
  metadata := []
  confidence := .finite 1
  authorDid := some author
  signature := some signature
  contentHash := some contentHash
  createdAt := 0

/-- A node with one row. -/
def node (row : MemoryRecord) : Db where
  workflows :=
    [{ workflowId := UUID.ofNat 1, prompt := "audit", status := .running, budgetLimit := 1000000
       budgetUsed := 0, dagSnapshot := none, result := none, startedAt := none
       completedAt := none }]
  agents := []
  tasks := []
  memoryRecords := Table.empty.push row (fun _ _ => List.not_mem_nil)
  walletEvents := Table.empty

/-- The hash of the one fact. -/
def leftHash : String := "zHZHj76P6jUaFhXpCuGjztdazXXh16tJgQdRje8oMXk1r"

/-- The hash of the other fact. -/
def rightHash : String := "zHdC8kb7BdK4y7DwBQn1SnZLDnYFmoqQazVjd9L7MFYgC"

def left : Db := node (fact "left" leftHash)

def right : Db := node (fact "other" rightHash)

/-- The order in which the rows are stored. -/
def asStored : RowOrder := ⟨fun rows => rows, fun rows => List.Perm.refl rows⟩

/-- The canonical text of a fact. -/
def factText (content : String) : List Char :=
  Canonical.bodyText (fact content "").canonicalBody (Canonical.escapeString author) "1".toList
    "\x7b\x7d".toList "[]".toList

theorem toSignableBytes_fact (content contentHash : String) :
    (fact content contentHash).canonicalBody.toSignableBytes tails =
      some ((factText content).flatMap String.utf8EncodeChar) := by
  have hemit : ((fact content contentHash).canonicalBody.asJsonable tails).bind
      (Canonical.emit tails) = some (factText content) := by
    rw [Canonical.emit_asJsonable]
    rfl
  unfold CanonicalBody.toSignableBytes
  rw [canonicalize_eq_flatMap]
  cases hjson : (fact content contentHash).canonicalBody.asJsonable tails with
  | none =>
    rw [hjson] at hemit
    cases hemit
  | some value =>
    rw [hjson, Option.bind_some] at hemit
    rw [Option.bind_some, hemit, Option.map_some]

/-- A row that the author has signed. -/
theorem portable_signed {row : MemoryRecord} {bytes : Bytes} (hactive : row.recordState = .active)
    (hauthor : row.authorDid = some author) (hsignature : row.signature = some signature)
    (hworkflow : row.workflowId.isSome)
    (hbytes : row.canonicalBody.toSignableBytes tails = some bytes)
    (haddressed : row.contentHash = some (encodeMultibase (tails.sha256 bytes)))
    (hcolumns : row.FitsColumns) : row.Portable tails := by
  have hkey : publicKeyForDid author = .ok (some key) := by decide +kernel
  have hdecoded : decodeMultibase? signature = some key := by decide +kernel
  refine ⟨hactive, ?_, ⟨author, hauthor, signature, key, key, bytes, hsignature, hdecoded, hkey,
    hbytes, beq_self_eq_true key⟩, hworkflow, hcolumns⟩
  rw [haddressed, CanonicalBody.contentHash, hbytes]
  rfl

theorem columns_signed : columnText? 512 (.str author) = some author ∧
    columnText? 256 (.str signature) = some signature := by
  decide +kernel

theorem portable_fact (content contentHash : String)
    (haddressed : encodeMultibase
      (tails.sha256 ((factText content).flatMap String.utf8EncodeChar)) = contentHash)
    (hhash : columnText? 128 (.str contentHash) = some contentHash)
    (hcontent : '\x00' ∉ content.toList) : (fact content contentHash).Portable tails := by
  refine portable_signed rfl rfl rfl rfl (toSignableBytes_fact content contentHash)
    (by rw [haddressed]; rfl) ⟨?_, by simp [fact], ?_, ?_, hcontent, rfl, List.nodup_nil⟩
  · intro did hdid
    cases hdid
    exact columns_signed.1
  · intro text htext
    cases htext
    exact columns_signed.2
  · intro hash hsome
    cases hsome
    exact hhash

theorem portable_left : (fact "left" leftHash).Portable tails :=
  portable_fact "left" leftHash (by decide +kernel) (by decide +kernel) (by decide +kernel)

theorem portable_right : (fact "other" rightHash).Portable tails :=
  portable_fact "other" rightHash (by decide +kernel) (by decide +kernel) (by decide +kernel)

theorem signedInputs_node (content contentHash : String) :
    signedInputs tails (node (fact content contentHash)) =
      [(factText content).flatMap String.utf8EncodeChar] := by
  have hrow : (if (fact content contentHash).contentHash.isSome then
      (fact content contentHash).canonicalBody.toSignableBytes tails else none) =
      some ((factText content).flatMap String.utf8EncodeChar) := toSignableBytes_fact _ _
  show [fact content contentHash].filterMap _ = _
  exact List.filterMap_cons_some (f := fun row : MemoryRecord =>
    if row.contentHash.isSome then row.canonicalBody.toSignableBytes tails else none) hrow

/-- A node with one portable row, which names no agent. -/
theorem serves_node {row : MemoryRecord} (hportable : row.Portable tails)
    (hagent : row.sourceAgentId = none) : Serves tails (node row) ∧ AllActive (node row) ∧
      ∀ db, AgentsKnown (node row) db := by
  have hmem : ∀ other ∈ (node row).memoryRecords.rows, other.carried = row.carried := by
    intro other hother
    rw [List.mem_singleton.1 hother]
    rfl
  refine ⟨fun other hother _ _ => hportable.congr (hmem other hother).symm,
    fun other hother _ => (hportable.congr (hmem other hother).symm).active,
    fun db other hother _ _ => ?_⟩
  rw [MemoryRecord.sourceAgentId_of_carried (hmem other hother), hagent]
  rfl

theorem reconcilable : Reconcilable tails left right := by
  have hleft := serves_node portable_left rfl
  have hright := serves_node portable_right rfl
  refine ⟨hleft.1, hright.1, hleft.2.1, hright.2.1, ⟨hleft.2.2 _, hleft.2.2 _⟩,
    ⟨hright.2.2 _, hright.2.2 _⟩, ?_⟩
  have hfilledLeft : filledBuckets (SyncService.iterHashes left none) = [[leftHash]] := by
    decide +kernel
  have hfilledRight : filledBuckets (SyncService.iterHashes right none) = [[rightHash]] := by
    decide +kernel
  have hfilledBoth : filledBuckets
      (SyncService.iterHashes left none ++ SyncService.iterHashes right none) =
      [[leftHash], [rightHash]] := by
    decide +kernel
  have hsignedLeft : signedInputs tails left =
      [(factText "left").flatMap String.utf8EncodeChar] := signedInputs_node _ _
  have hsignedRight : signedInputs tails right =
      [(factText "other").flatMap String.utf8EncodeChar] := signedInputs_node _ _
  unfold hashedInputs summaryInputs
  rw [rootBody_eq, rootBody_eq, rootBody_eq, hfilledLeft, hfilledRight, hfilledBoth, hsignedLeft,
    hsignedRight]
  unfold CollisionFree
  decide +kernel

end UnionExample

open UnionExample in
/-- The two nodes exchange their facts, with the summaries of the first round
still cached in the second. -/
theorem reconcile_union_ofFacts :
    let first := reconcileNodes tails 0 asStored left right none none
    let second := reconcileNodes tails 0 asStored right first.2
      (some (summariseHashes tails (SyncService.iterHashes right none)))
      (some (summariseHashes tails (SyncService.iterHashes left none)))
    first.1.error = none ∧ second.1.error = none ∧
      HoldsUnion tails left right first.2 ∧ HoldsUnion tails right left second.2 ∧
      (SyncService.summarise tails first.2 none none).root =
        (SyncService.summarise tails second.2 none none).root :=
  reconcile_union tails length_tails left right reconcilable 0 0 asStored asStored _ _
    (Or.inr rfl) (Or.inr rfl)

end GossipService

end MassClaw
