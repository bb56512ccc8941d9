import MassClaw.Crdt.Union
import MassClaw.Lib.Spreading

/-!
# A network of nodes, `app/workers/crdt_gossip.py`

The worker of a node visits other nodes, one round after the other.  Rounds of
any nodes, in any order, spread the records along the chains of rounds
(`MassClaw.Lib.Spreading`): a node lists exactly the hashes of the nodes from
which a chain leads to it.  Once every link of the network has had its turn as
often as the network is wide, all nodes agree, and further rounds find them in
sync.
-/

namespace MassClaw

open Spreading (Pull Reaches Within)

/-- The nodes and their databases. -/
abbrev Network (ι : Type) := ι → Db

/-- A round of the worker of one node with another node. -/
structure NodeRound (ι : Type) where
  client : ι
  server : ι
  now : Time
  order : RowOrder
  clientCached : Option MerkleSummary := none
  serverCached : Option MerkleSummary := none

/-- Who takes over from whom. -/
def NodeRound.link {ι : Type} (round : NodeRound ι) : Pull ι := ⟨round.client, round.server⟩

namespace Network

open GossipService

variable {ι : Type} (host : Host)

/-- The round's report and the client's database afterwards. -/
def reconcile (net : Network ι) (round : NodeRound ι) : GossipRoundReport × Db :=
  reconcileNodes host round.now round.order (net round.client) (net round.server)
    round.clientCached round.serverCached

/-- The network after a round. -/
def tick [DecidableEq ι] (net : Network ι) (round : NodeRound ι) : Network ι :=
  Function.update net round.client (net.reconcile host round).2

/-- The hashes that a node lists. -/
def listed (net : Network ι) (i : ι) : Set String := {hash | (net i).Lists hash}

/-- The columns that travel, of the rows of a node. -/
def contents (net : Network ι) (i : ι) : Set MemoryRecord :=
  {row | ∃ own ∈ (net i).memoryRecords.rows, own.carried = row}

/-- Every node can be asked, and every node knows the agents of every row. -/
structure Healthy (net : Network ι) : Prop where
  serves : ∀ i, Serves host (net i)
  active : ∀ i, AllActive (net i)
  agents : ∀ i j, AgentsKnown (net i) (net j)

/-- The cache of a node holds nothing or its present summary. -/
def Current (db : Db) (cached : Option MerkleSummary) : Prop :=
  cached = none ∨ cached = some (summariseHashes host (SyncService.iterHashes db none))

/-- A round with present summaries, which SHA-256 tells apart. -/
structure Comparable (net : Network ι) (round : NodeRound ι) : Prop where
  client : Current host (net round.client) round.clientCached
  server : Current host (net round.server) round.serverCached
  collisionFree : CollisionFree host
    (summaryInputs host (SyncService.iterHashes (net round.client) none) ++
      summaryInputs host (SyncService.iterHashes (net round.server) none))

variable {host} {net : Network ι} {round : NodeRound ι}

theorem Current.summarise {db : Db} {cached : Option MerkleSummary} (h : Current host db cached) :
    SyncService.summarise host db cached none =
      summariseHashes host (SyncService.iterHashes db none) := by
  rcases h with rfl | rfl
  · rfl
  · rfl

/-! ## One round -/

section Step

variable (h : net.Healthy host) (hround : net.Comparable host round)
  (hlength : ∀ data, (host.sha256 data).length = 32)

include h hround hlength

/-- The round is complete. -/
theorem reconcile_merged : (net.reconcile host round).1.error = none ∧
    Merged (net round.client) (net round.server) (net.reconcile host round).2 :=
  reconcileNodes_merged round.now round.order (h.serves _) (h.serves _) hlength (h.agents _ _)
    hround.client.summarise hround.server.summarise
    (fun _ hlists _ => ((h.serves _).mem_iterHashes hlength).2 hlists) hround.collisionFree

variable [DecidableEq ι]

/-- A row that a round leaves in a node was there, or it is a copy of an active
row of the server. -/
theorem origin_of_tick {j : ι} {row : MemoryRecord}
    (hrow : row ∈ (net.tick host round j).memoryRecords.rows) :
    row ∈ (net j).memoryRecords.rows ∨ j = round.client ∧
      ∃ sent ∈ (net round.server).memoryRecords.rows, sent.recordState = .active ∧
        sent.contentHash.isSome ∧ row.carried = sent.carried := by
  have hmerged := (reconcile_merged h hround hlength).2
  by_cases hj : j = round.client
  · subst hj
    rw [tick, Function.update_self] at hrow
    exact (hmerged.received row hrow).imp_right (fun hsent => ⟨rfl, hsent⟩)
  · rw [tick, Function.update_of_ne hj] at hrow
    exact Or.inl hrow

theorem kept_of_tick {j : ι} {row : MemoryRecord} (hrow : row ∈ (net j).memoryRecords.rows) :
    row ∈ (net.tick host round j).memoryRecords.rows := by
  by_cases hj : j = round.client
  · subst hj
    rw [tick, Function.update_self]
    exact (reconcile_merged h hround hlength).2.kept row hrow
  · rw [tick, Function.update_of_ne hj]
    exact hrow

theorem agents_tick (j : ι) : (net.tick host round j).agents = (net j).agents := by
  by_cases hj : j = round.client
  · subst hj
    rw [tick, Function.update_self]
    exact (reconcile_merged h hround hlength).2.agents
  · rw [tick, Function.update_of_ne hj]

/-- The network stays one in which every node can be asked. -/
theorem Healthy.tick : (net.tick host round).Healthy host := by
  refine ⟨fun i row hrow hactive hhash => ?_, fun i row hrow hhash => ?_,
    fun i j row hrow hactive hhash => ?_⟩
  · rcases origin_of_tick h hround hlength hrow with hown | ⟨-, sent, hsent, hstate, hsome, hcarried⟩
    · exact h.serves i row hown hactive hhash
    · exact (h.serves _ sent hsent hstate hsome).congr hcarried.symm
  · rcases origin_of_tick h hround hlength hrow with hown | ⟨-, sent, hsent, hstate, hsome, hcarried⟩
    · exact h.active i row hown hhash
    · exact ((h.serves _ sent hsent hstate hsome).congr hcarried.symm).active
  · have hknown : (net j).hasAgent row.sourceAgentId = true := by
      rcases origin_of_tick h hround hlength hrow with
        hown | ⟨-, sent, hsent, hstate, hsome, hcarried⟩
      · exact h.agents i j row hown hactive hhash
      · rw [MemoryRecord.sourceAgentId_of_carried hcarried]
        exact h.agents _ j sent hsent hstate hsome
    unfold Db.hasAgent at hknown ⊢
    rw [agents_tick h hround hlength j]
    exact hknown

/-- The client lists what it has listed, and what the server lists. -/
theorem listed_tick (j : ι) :
    (net.tick host round).listed j = Spreading.pull net.listed round.link j := by
  have hhealthy := Healthy.tick h hround hlength
  ext hash
  constructor
  · rintro ⟨row, hrow, hhash, hstate⟩
    rcases origin_of_tick h hround hlength hrow with
      hown | ⟨hclient, sent, hsent, hsentState, -, hcarried⟩
    · exact Or.inl ⟨row, hown, hhash, hstate⟩
    · exact Or.inr ⟨hclient, sent, hsent,
        (MemoryRecord.contentHash_of_carried hcarried).symm.trans hhash, hsentState⟩
  · rintro (⟨row, hrow, hhash, hstate⟩ | ⟨hclient, hserver⟩)
    · exact ⟨row, kept_of_tick h hround hlength hrow, hhash, hstate⟩
    · refine ((hhealthy.active j).lists_iff).2 ?_
      rw [show j = round.client from hclient, Network.tick, Function.update_self]
      exact (reconcile_merged h hround hlength).2.complete hash hserver

/-- What travels of a row of the client was there, or comes from the server. -/
theorem contents_tick (j : ι) :
    (net.tick host round).contents j ⊆ Spreading.pull net.contents round.link j := by
  rintro _ ⟨row, hrow, rfl⟩
  rcases origin_of_tick h hround hlength hrow with hown | ⟨hclient, sent, hsent, -, -, hcarried⟩
  · exact Or.inl ⟨row, hown, rfl⟩
  · exact Or.inr ⟨hclient, sent, hsent, hcarried.symm⟩

end Step

/-! ## Any number of rounds -/

section Run

variable [DecidableEq ι] {rounds : List (NodeRound ι)}

/-- Every round of the run compares present summaries, which SHA-256 tells
apart. -/
def AllComparable (host : Host) (net : Network ι) (rounds : List (NodeRound ι)) : Prop :=
  ∀ step ∈ Transition.steps (tick host) net rounds, step.1.Comparable host step.2

theorem Healthy.steps (hlength : ∀ data, (host.sha256 data).length = 32) (h : net.Healthy host)
    (hrounds : AllComparable host net rounds) :
    ∀ step ∈ Transition.steps (Network.tick host) net rounds, step.1.Healthy host :=
  Transition.steps_invariant_of (I := fun net => net.Healthy host)
    (fun _ _ hround hnet => Healthy.tick hnet hround hlength) hrounds h

/-- The hashes of a node are those of the nodes from which a chain leads to it. -/
theorem lists_after_iff (hlength : ∀ data, (host.sha256 data).length = 32) (h : net.Healthy host)
    (hrounds : AllComparable host net rounds) (j : ι) (hash : String) :
    (Transition.after (tick host) net rounds j).Lists hash ↔
      ∃ i, Reaches (rounds.map NodeRound.link) i j ∧ (net i).Lists hash :=
  Spreading.mem_after_iff listed (fun step hstep j =>
    listed_tick (h.steps hlength hrounds step hstep) (hrounds step hstep) hlength j)

/-- A row of a node is a copy of a row of a node from which a chain leads to it. -/
theorem origin_of_after (hlength : ∀ data, (host.sha256 data).length = 32) (h : net.Healthy host)
    (hrounds : AllComparable host net rounds) {j : ι} {row : MemoryRecord}
    (hrow : row ∈ (Transition.after (tick host) net rounds j).memoryRecords.rows) :
    ∃ i, Reaches (rounds.map NodeRound.link) i j ∧
      ∃ origin ∈ (net i).memoryRecords.rows, row.carried = origin.carried := by
  have hhealthy := h.steps hlength hrounds
  obtain ⟨i, hreaches, origin, horigin, hcarried⟩ := Spreading.known_of_after contents
    (fun step hstep j => contents_tick (hhealthy step hstep) (hrounds step hstep) hlength j)
    ⟨row, hrow, rfl⟩
  exact ⟨i, hreaches, origin, horigin, hcarried.symm⟩

/-- A content hash names one record. -/
def OneRecordPerHash (net : Network ι) : Prop :=
  ∀ i j, ∀ row ∈ (net i).memoryRecords.rows, ∀ other ∈ (net j).memoryRecords.rows,
    row.contentHash.isSome → row.contentHash = other.contentHash → row.carried = other.carried

/-- A hashed row has a copy on every node that a chain leads to. -/
theorem copy_of_reaches (hlength : ∀ data, (host.sha256 data).length = 32) (h : net.Healthy host)
    (hrounds : AllComparable host net rounds) (hunique : net.OneRecordPerHash) {i j : ι}
    (hreaches : Reaches (rounds.map NodeRound.link) i j) {row : MemoryRecord}
    (hrow : row ∈ (net i).memoryRecords.rows) (hhash : row.contentHash.isSome) :
    ∃ copy ∈ (Transition.after (tick host) net rounds j).memoryRecords.rows,
      copy.carried = row.carried := by
  obtain ⟨hash, hsome⟩ := Option.isSome_iff_exists.1 hhash
  have hlists : (Transition.after (tick host) net rounds j).Lists hash :=
    (lists_after_iff hlength h hrounds j hash).2
      ⟨i, hreaches, row, hrow, hsome, h.active i row hrow hhash⟩
  obtain ⟨copy, hcopy, hcopyHash, -⟩ := hlists
  obtain ⟨i', -, origin, horigin, hcarried⟩ := origin_of_after hlength h hrounds hcopy
  refine ⟨copy, hcopy, hcarried.trans ?_⟩
  have hsame : origin.contentHash = row.contentHash := by
    rw [← MemoryRecord.contentHash_of_carried hcarried, hcopyHash, hsome]
  exact (hunique i i' row hrow origin horigin hhash hsame.symm).symm

end Run

/-! ## Agreement -/

/-- Nodes that list the same hashes have the same summary. -/
theorem summariseHashes_eq (hlength : ∀ data, (host.sha256 data).length = 32)
    (h : net.Healthy host) {i j : ι} (hsame : net.listed i = net.listed j) :
    summariseHashes host (SyncService.iterHashes (net i) none) =
      summariseHashes host (SyncService.iterHashes (net j) none) := by
  refine summariseHashes_congr (fun hash => ?_)
  rw [(h.serves i).mem_iterHashes hlength, (h.serves j).mem_iterHashes hlength]
  exact Set.ext_iff.1 hsame hash

/-- A round between nodes with the same summary ends when it has compared the
roots. -/
theorem reconcile_of_agreed (hclient : Current host (net round.client) round.clientCached)
    (hserver : Current host (net round.server) round.serverCached)
    (hsame : summariseHashes host (SyncService.iterHashes (net round.client) none) =
      summariseHashes host (SyncService.iterHashes (net round.server) none)) :
    (net.reconcile host round).1.error = none ∧ (net.reconcile host round).1.inSyncBefore = true ∧
      (net.reconcile host round).1.recordsFetched = 0 ∧
      (net.reconcile host round).2 = net round.client := by
  unfold reconcile reconcileNodes reconcileWith reconcileBody
  simp only [hclient.summarise, hserver.summarise, hsame,
    fetchSummary_asPeer round.order (length_buckets host _), request, bind, Except.bind]
  rw [if_pos trivial]
  exact ⟨rfl, rfl, rfl, rfl⟩

namespace PairExample

open UnionExample

/-- Two nodes with one fact each. -/
def pair : Network Bool := fun node => if node then right else left

/-- A round of the one node with the other. -/
def visit (client : Bool) : NodeRound Bool :=
  { client, server := !client, now := 0, order := asStored }

theorem healthy : pair.Healthy tails := by
  have hleft := serves_node portable_left rfl
  have hright := serves_node portable_right rfl
  refine ⟨fun i => ?_, fun i => ?_, fun i j => ?_⟩
  · cases i with
    | false => exact hleft.1
    | true => exact hright.1
  · cases i with
    | false => exact hleft.2.1
    | true => exact hright.2.1
  · cases i with
    | false => exact hleft.2.2 _
    | true => exact hright.2.2 _

theorem comparable_first : pair.Comparable tails (visit false) := by
  refine ⟨Or.inl rfl, Or.inl rfl, reconcilable.collisionFree.mono (fun data hdata => ?_)⟩
  simp only [hashedInputs, List.mem_append] at hdata ⊢
  exact hdata.elim (fun h => Or.inl (Or.inl (Or.inr h))) (fun h => Or.inl (Or.inr h))

/-- The second node asks when the first one has asked. -/
theorem comparable_second : (pair.tick tails (visit false)).Comparable tails (visit true) := by
  refine ⟨Or.inl rfl, Or.inl rfl, reconcilable.collisionFree.mono (fun data hdata => ?_)⟩
  have hserver : summaryInputs tails
      (SyncService.iterHashes (pair.tick tails (visit false) false) none) =
      summaryInputs tails
        (SyncService.iterHashes left none ++ SyncService.iterHashes right none) := by
    have hafter := Healthy.tick healthy comparable_first length_tails
    refine summaryInputs_congr (fun hash => ?_)
    have hleft : hash ∈ SyncService.iterHashes left none ↔ left.Lists hash :=
      (healthy.serves false).mem_iterHashes length_tails
    have hright : hash ∈ SyncService.iterHashes right none ↔ right.Lists hash :=
      (healthy.serves true).mem_iterHashes length_tails
    rw [(hafter.serves false).mem_iterHashes length_tails, List.mem_append, hleft, hright]
    have hlisted := Set.ext_iff.1
      (listed_tick healthy comparable_first length_tails false) hash
    exact hlisted.trans (or_congr_right (and_iff_right rfl))
  have hclient : pair.tick tails (visit false) true = right := rfl
  rw [show (visit true).client = true from rfl, show (visit true).server = false from rfl, hclient,
    hserver] at hdata
  simp only [hashedInputs, List.mem_append] at hdata ⊢
  exact hdata.elim (fun h => Or.inl (Or.inr h)) Or.inr

theorem comparable : AllComparable tails pair [visit false, visit true] := by
  intro step hstep
  rcases List.mem_cons.1 hstep with rfl | hsecond
  · exact comparable_first
  · rw [List.mem_singleton.1 hsecond]
    exact comparable_second

theorem wide (i j : Bool) : Within (fun i j : Bool => i ≠ j) 1 i j := by
  by_cases hij : i = j
  · rw [hij]
    exact .here 1 j
  · exact .step hij (.here 0 j)

end PairExample

end Network

end MassClaw
