import MassClaw.Crdt.Import
import MassClaw.Crdt.Union
import MassClaw.Memory.Lifecycle

/-!
# Tombstones and the other node

A tombstone has two effects on the node that accepts it: a record that says so,
and the new state of the target.  A round carries records only, and it adds
rows to the side that runs it without touching those that are there.  So a node
that has the target keeps it active, whatever rounds follow.
-/

namespace MassClaw

namespace GossipService

variable {host : Host}

/-- Which of two nodes runs the round. -/
inductive Direction
  | firstPulls
  | secondPulls
  deriving DecidableEq

/-- One round between two nodes. -/
structure Exchange where
  direction : Direction
  now : Time
  order : RowOrder
  clientCached : Option MerkleSummary := none
  serverCached : Option MerkleSummary := none

/-- The report of the round, and the nodes after it. -/
def Exchange.run (host : Host) (nodes : Db × Db) (exchange : Exchange) :
    GossipRoundReport × Db × Db :=
  match exchange.direction with
  | .firstPulls =>
    let round := reconcileNodes host exchange.now exchange.order nodes.1 nodes.2
      exchange.clientCached exchange.serverCached
    (round.1, round.2, nodes.2)
  | .secondPulls =>
    let round := reconcileNodes host exchange.now exchange.order nodes.2 nodes.1
      exchange.clientCached exchange.serverCached
    (round.1, nodes.1, round.2)

/-- The nodes after the rounds. -/
def afterExchanges (host : Host) (nodes : Db × Db) (exchanges : List Exchange) : Db × Db :=
  exchanges.foldl (fun nodes exchange => (exchange.run host nodes).2) nodes

/-- No round of the list reports an error. -/
def ErrorFree (host : Host) (nodes : Db × Db) : List Exchange → Prop
  | [] => True
  | exchange :: rest => (exchange.run host nodes).1.error = none ∧
      ErrorFree host (exchange.run host nodes).2 rest

/-- A round in each direction, neither of which reports an error. -/
theorem errorFree_both {a b : Db} {now : Time} {order : RowOrder}
    (hfirst : (reconcileNodes host now order a b none none).1.error = none)
    (hsecond : (reconcileNodes host now order b (reconcileNodes host now order a b none none).2
      none none).1.error = none) :
    ErrorFree host (a, b)
      [{ direction := .firstPulls, now, order }, { direction := .secondPulls, now, order }] :=
  ⟨hfirst, hsecond, trivial⟩

/-- Both nodes hold the signed record with the hash, the second as active. -/
structure HeldByBoth (nodes : Db × Db) (contentHash : String) : Prop where
  first : ∃ row ∈ nodes.1.memoryRecords.rows, row.contentHash = some contentHash ∧
    row.isSigned = true
  second : ∃ row ∈ nodes.2.memoryRecords.rows, row.contentHash = some contentHash ∧
    row.isSigned = true ∧ row.recordState = .active

/-- The second node does not serve the record as active, and the nodes agree. -/
structure Propagated (host : Host) (nodes : Db × Db) (contentHash : String) : Prop where
  withdrawn : ¬nodes.2.Lists contentHash
  sameRoot : (SyncService.summarise host nodes.1 none none).root =
    (SyncService.summarise host nodes.2 none none).root

/-- What the second node lists it goes on listing. -/
theorem Exchange.lists_run {nodes : Db × Db} {contentHash : String} (exchange : Exchange)
    (h : nodes.2.Lists contentHash) : (exchange.run host nodes).2.2.Lists contentHash := by
  unfold Exchange.run
  cases exchange.direction with
  | firstPulls => exact h
  | secondPulls =>
    obtain ⟨row, hrow, hhash, hactive⟩ := h
    exact ⟨row, rows_reconcileWith _ _ row hrow, hhash, hactive⟩

theorem lists_afterExchanges {nodes : Db × Db} {contentHash : String} (exchanges : List Exchange)
    (h : nodes.2.Lists contentHash) :
    (afterExchanges host nodes exchanges).2.Lists contentHash := by
  unfold afterExchanges
  induction exchanges generalizing nodes with
  | nil => exact h
  | cons exchange rest ih =>
    rw [List.foldl_cons]
    exact ih (exchange.lists_run h)

/-- After one of two nodes that hold a record has accepted a tombstone for it,
no rounds between them make the other node withdraw it. -/
theorem not_propagated (host : Host) (a b : Db) (now : Time) (request : TombstoneRequest)
    (hheld : HeldByBoth (a, b) request.targetHash) :
    ∀ result, MemoryService.tombstoneMemory host a now request = .ok result →
      ∀ exchanges, ¬Propagated host (afterExchanges host (result.2, b) exchanges)
        request.targetHash := by
  intro result _ exchanges hpropagated
  obtain ⟨row, hrow, hhash, -, hactive⟩ := hheld.second
  exact hpropagated.withdrawn (lists_afterExchanges exchanges ⟨row, hrow, hhash, hactive⟩)

/-! ## Two nodes with the same fact -/

namespace PropagationExample

open UnionExample

/-- The hash of the tombstone. -/
def tombstoneHash : String := "z8oqcMr6ZVMi6pcZn8dk3MzFqnf88XKf455Y9ZyA9oHGx"

/-- The author asks for a tombstone of the fact. -/
def withdrawal : TombstoneRequest where
  targetHash := leftHash
  authorDid := author
  signature := signature
  contentHash := tombstoneHash

/-- The tombstone as a row. -/
def tombstoneRow : MemoryRecord where
  workflowId := some (UUID.ofNat 1)
  sourceAgentId := none
  memoryType := .metaType
  content := ""
  metadata := buildTombstoneMetadata leftHash none
  confidence := .finite 1
  authorDid := some author
  parentHashes := [leftHash]
  signature := some signature
  contentHash := some tombstoneHash
  createdAt := 0

theorem portable_tombstoneRow : tombstoneRow.Portable tails := by
  have haddressed : tombstoneRow.canonicalBody.contentHash tails = some tombstoneHash := by
    unfold CanonicalBody.contentHash CanonicalBody.toSignableBytes
    rw [canonicalize_eq_flatMap]
    decide +kernel
  obtain ⟨bytes, hbytes, hhash⟩ := Option.map_eq_some_iff.1 haddressed
  refine portable_signed rfl rfl rfl rfl hbytes (by rw [hhash]; rfl)
    ⟨?_, ?_, ?_, ?_, by decide, by decide +kernel, by decide +kernel⟩
  · intro did hdid
    cases hdid
    exact columns_signed.1
  · intro parent hparent
    rw [List.mem_singleton.1 hparent]
    decide +kernel
  · intro text htext
    cases htext
    exact columns_signed.2
  · intro hash hsome
    cases hsome
    decide +kernel

theorem heldByBoth : HeldByBoth (left, left) withdrawal.targetHash :=
  ⟨⟨_, List.mem_singleton_self _, rfl, rfl⟩, ⟨_, List.mem_singleton_self _, rfl, rfl, rfl⟩⟩

/-- A node that has the fact as tombstoned and the tombstone, and nothing else
that is active. -/
structure Withdrawn (db : Db) : Prop where
  fact : ∃ row ∈ db.memoryRecords.rows, row.contentHash = some leftHash ∧
    row.recordState = .tombstoned
  tombstone : ∃ row ∈ db.memoryRecords.rows, row.carried = tombstoneRow.carried
  others : ∀ row ∈ db.memoryRecords.rows, row.recordState = .tombstoned ∨
    row.carried = tombstoneRow.carried

namespace Withdrawn

variable {db : Db}

theorem carried (h : Withdrawn db) {row : MemoryRecord} (hrow : row ∈ db.memoryRecords.rows)
    (hactive : row.recordState = .active) : row.carried = tombstoneRow.carried := by
  rcases h.others row hrow with hdead | hcarried
  · rw [hdead] at hactive
    cases hactive
  · exact hcarried

theorem serves (h : Withdrawn db) : Serves tails db := fun _ hrow hactive _ =>
  portable_tombstoneRow.congr (h.carried hrow hactive).symm

theorem agentsKnown (h : Withdrawn db) (other : Db) : AgentsKnown db other := by
  intro row hrow hactive _
  rw [MemoryRecord.sourceAgentId_of_carried (h.carried hrow hactive)]
  rfl

theorem summaryInputs_eq (h : Withdrawn db) :
    summaryInputs tails (SyncService.iterHashes db none) =
      summaryInputs tails [tombstoneHash] := by
  refine summaryInputs_congr (fun hash => ?_)
  rw [h.serves.mem_iterHashes length_tails, List.mem_singleton]
  constructor
  · intro hlisted
    obtain ⟨row, hrow, hhash, hactive⟩ := hlisted
    have hsame := MemoryRecord.contentHash_of_carried (h.carried hrow hactive)
    exact Option.some.inj (hhash.symm.trans hsame)
  · intro heq
    obtain ⟨row, hrow, hcarried⟩ := h.tombstone
    rw [heq]
    exact ⟨row, hrow, MemoryRecord.contentHash_of_carried hcarried,
      (portable_tombstoneRow.congr hcarried.symm).active⟩

/-- A round brings it nothing: it has the fact already. -/
theorem merged (h : Withdrawn db) {db' : Db} (hmerged : Merged db left db') : Withdrawn db' := by
  obtain ⟨dead, hdead, hdeadHash, hstate⟩ := h.fact
  obtain ⟨row, hrow, hcarried⟩ := h.tombstone
  refine ⟨⟨dead, hmerged.kept dead hdead, hdeadHash, hstate⟩,
    ⟨row, hmerged.kept row hrow, hcarried⟩, fun other hother => ?_⟩
  rcases hmerged.received other hother with hold | ⟨sent, hsent, -, -, hsame⟩
  · exact h.others other hold
  · have hsentHash : sent.contentHash = some leftHash := by
      rw [List.mem_singleton.1 hsent]
      rfl
    have hunique : other = dead := Table.eq_of_unique hother (hmerged.kept dead hdead)
      ((MemoryRecord.contentHash_of_carried hsame).trans hsentHash) hdeadHash
    rw [hunique]
    exact Or.inl hstate

end Withdrawn

/-- The request is accepted: the fact is tombstoned, and the tombstone is there. -/
theorem accepted : ∃ result, MemoryService.tombstoneMemory tails left 0 withdrawal = .ok result ∧
    Withdrawn result.2 := by
  have hwrite : tombstoneRow.asWrite (UUID.ofNat 1) =
      MemoryService.tombstoneWrite withdrawal (fact "left" leftHash) (UUID.ofNat 1) := rfl
  have hsent : (PeerRecord.ofRow tombstoneRow (UUID.ofNat 1) tombstoneHash).signature =
      some (.str signature) := rfl
  have hworkflow : tombstoneRow.workflowId = some (UUID.ofNat 1) := rfl
  have hhash : tombstoneRow.contentHash = some tombstoneHash := rfl
  have hexists : left.hasWorkflow (UUID.ofNat 1) = true := by decide
  have hagent : left.hasAgent tombstoneRow.sourceAgentId = true := rfl
  have hdelivered := put_asWrite 0 portable_tombstoneRow hworkflow hhash hexists hagent
  rw [hwrite, hsent] at hdelivered
  obtain ⟨tombstone, written, hput, hcases⟩ := hdelivered
  have hload : MemoryService.loadByHash left withdrawal.targetHash =
      some (fact "left" leftHash) := rfl
  have hassert : assertCanTombstone withdrawal.authorDid (fact "left" leftHash).authorDid
      (fact "left" leftHash).recordState = .ok () := by
    unfold assertCanTombstone
    rw [if_neg (by decide)]
    exact if_pos rfl
  have hhome : (fact "left" leftHash).workflowId = some (UUID.ofNat 1) := rfl
  have hresult := MemoryService.tombstoneMemory_ok hload hassert hhome hput
  refine ⟨_, hresult, ?_⟩
  rcases hcases with ⟨-, hheld⟩ | ⟨new, table, rfl, hrows, hcarried⟩
  · obtain ⟨row, hrow, hhash⟩ := hheld
    rw [List.mem_singleton.1 hrow] at hhash
    exact absurd hhash (by decide +kernel)
  · have hother : new.memoryId ≠ 0 := by
      have hids := table.nodupIds
      rw [hrows] at hids
      intro hzero
      have hnodup : [0, new.memoryId].Nodup := hids
      rw [hzero] at hnodup
      exact absurd hnodup (by decide)
    have hrows' : (Db.assignRecordState { left with memoryRecords := table }
        (fun row => row.memoryId = (fact "left" leftHash).memoryId) .tombstoned).memoryRecords.rows =
        [{ fact "left" leftHash with recordState := .tombstoned }, new] := by
      show table.rows.map (fun row => if decide (row.memoryId = 0) then
        { row with recordState := .tombstoned } else row) = _
      rw [hrows]
      show [_, if decide (new.memoryId = 0) then { new with recordState := .tombstoned } else new] = _
      rw [decide_eq_false hother]
      rfl
    refine ⟨⟨_, by rw [hrows']; exact List.mem_cons_self, rfl, rfl⟩,
      ⟨new, by rw [hrows']; exact List.mem_cons_of_mem _ (List.mem_singleton_self new),
        hcarried⟩, fun row hrow => ?_⟩
    rw [hrows'] at hrow
    rcases List.mem_cons.1 hrow with rfl | hnew
    · exact Or.inl rfl
    · rw [List.mem_singleton.1 hnew]
      exact Or.inr hcarried

theorem collisionFree : CollisionFree tails
    (summaryInputs tails [tombstoneHash] ++ summaryInputs tails [leftHash]) := by
  have hfilled : filledBuckets [tombstoneHash] = [[tombstoneHash]] := by decide +kernel
  have hfilledLeft : filledBuckets [leftHash] = [[leftHash]] := by decide +kernel
  unfold summaryInputs
  rw [rootBody_eq, rootBody_eq, hfilled, hfilledLeft]
  unfold CollisionFree
  decide +kernel

/-- The two nodes exchange their rows without an error. -/
theorem errorFree {a : Db} (h : Withdrawn a) : ErrorFree tails (a, left)
    [{ direction := .firstPulls, now := 0, order := asStored },
      { direction := .secondPulls, now := 0, order := asStored }] := by
  have hleft : Serves tails left := (serves_node portable_left rfl).1
  have hleftAgents : ∀ db, AgentsKnown left db := (serves_node portable_left rfl).2.2
  have hhashes : SyncService.iterHashes left none = [leftHash] := rfl
  have hlists : ∀ {db : Db}, Serves tails db → ∀ hash, db.Lists hash →
      hash ∈ SyncService.iterHashes db none :=
    fun hserves hash hlisted => (hserves.mem_iterHashes length_tails).2 hlisted
  have hfirst : (reconcileNodes tails 0 asStored a left none none).1.error = none ∧
      Merged a left (reconcileNodes tails 0 asStored a left none none).2 := by
    refine reconcileNodes_merged 0 asStored h.serves hleft length_tails (hleftAgents a)
      (SyncService.summarise_none tails a none) (SyncService.summarise_none tails left none)
      (fun hash hserved _ => hlists hleft hash hserved) ?_
    rw [h.summaryInputs_eq, hhashes]
    exact collisionFree
  have hafter := h.merged hfirst.2
  have hsecond := reconcileNodes_merged 0 asStored hleft hafter.serves length_tails
      (hafter.agentsKnown left) (SyncService.summarise_none tails left none) (SyncService.summarise_none tails _ none)
      (fun hash hserved _ => hlists hafter.serves hash hserved)
      (by
        rw [hafter.summaryInputs_eq, hhashes]
        exact collisionFree.mono (fun data hdata =>
          List.mem_append.2 (List.mem_append.1 hdata).symm))
  exact errorFree_both hfirst.1 hsecond.1

end PropagationExample

open UnionExample PropagationExample in
/-- The first of two nodes with the fact accepts the tombstone. -/
theorem not_propagated_left :
    ∃ result, MemoryService.tombstoneMemory tails left 0 withdrawal = .ok result ∧
      ∀ exchanges, ¬Propagated tails (afterExchanges tails (result.2, left) exchanges)
        withdrawal.targetHash := by
  obtain ⟨result, hresult, -⟩ := accepted
  exact ⟨result, hresult, not_propagated tails left left 0 withdrawal heldByBoth result hresult⟩

open UnionExample PropagationExample in
/-- After a round in each direction, without an error, the second node still
serves the fact as active. -/
theorem propagated_fails :
    ¬∀ (host : Host) (a b : Db) (now : Time) (request : TombstoneRequest),
      (∀ data, (host.sha256 data).length = 32) → HeldByBoth (a, b) request.targetHash →
      ∀ result, MemoryService.tombstoneMemory host a now request = .ok result →
        ∀ exchanges : List Exchange, ErrorFree host (result.2, b) exchanges →
          (∃ exchange ∈ exchanges, exchange.direction = .firstPulls) →
          (∃ exchange ∈ exchanges, exchange.direction = .secondPulls) →
            Propagated host (afterExchanges host (result.2, b) exchanges) request.targetHash := by
  intro h
  obtain ⟨result, hresult, hwithdrawn⟩ := accepted
  have hpropagated := h tails left left 0 withdrawal length_tails heldByBoth result hresult _
    (errorFree hwithdrawn) ⟨_, List.mem_cons_self, rfl⟩
    ⟨_, List.mem_cons_of_mem _ (List.mem_singleton_self _), rfl⟩
  obtain ⟨row, hrow, hhash, -, hactive⟩ := heldByBoth.second
  exact hpropagated.withdrawn (lists_afterExchanges _ ⟨row, hrow, hhash, hactive⟩)

end GossipService

end MassClaw
