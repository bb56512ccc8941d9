import MassClaw.Crdt.Network
import MassClaw.Safety.NodeDecision

/-!
# Approvals on other nodes

An approval twin is a row like any other, so gossip carries it along.  A
decision that was taken on one node is found on every node that a chain of
rounds leads to, by its request and by the node of the workflow that asked for
it; no such node lists the request as pending.  Whatever a node finds was
recorded on a node from which a chain leads to it.
-/

namespace MassClaw

open Spreading (Reaches)

namespace FederatedApprovalStore

/-! ## Copies of a twin -/

section Copies

variable {host : Host} {defaults : MemoryRecord → Defaults} {row copy : MemoryRecord}

theorem isScanned_of_carried (h : copy.carried = row.carried) : isScanned copy = isScanned row := by
  cases row
  cases copy
  cases h
  rfl

theorem decodeRecord_of_carried (h : copy.carried = row.carried) :
    decodeRecord host defaults copy = decodeRecord host defaults row := by
  cases row
  cases copy
  cases h
  rfl

theorem mem_twins_of_row {records : MemoryTable} {twin : ApprovalTwin} (hrow : row ∈ records.rows)
    (hscanned : isScanned row = true) (hdecoded : decodeRecord host defaults row = some twin) :
    twin ∈ twins host defaults records :=
  List.mem_filterMap.2 ⟨row,
    List.mem_filter.2 ⟨(Selection.mem_newestFirst _).2 hrow, hscanned⟩, hdecoded⟩

end Copies

/-! ## Lookups -/

section Lookups

variable {twins : List ApprovalTwin} {requestId workflowId nodeId : String} {twin : ApprovalTwin}

/-- A request with a terminal twin is found as decided. -/
theorem findByRequestId_of_decided (order : SetOrder) (htwin : twin ∈ twins)
    (hdecides : decidesRequest requestId twin = true) :
    ∃ request, findByRequestId order twins requestId = some request ∧
      request.status ≠ "pending" := by
  rw [findByRequestId, get?_findManyByRequestId, if_pos (List.mem_singleton_self _)]
  cases hfound : twins.find? (decidesRequest requestId) with
  | none => exact absurd hdecides (List.find?_eq_none.1 hfound twin htwin)
  | some first =>
    have hfirst := List.find?_some hfound
    rw [decidesRequest, Bool.and_eq_true, decide_eq_true_eq, decide_eq_true_eq] at hfirst
    exact ⟨first.request, rfl, hfirst.2⟩

/-- What is found for a request is one of the twins. -/
theorem exists_twin_of_findByRequestId {order : SetOrder} {request : ApprovalRequest}
    (h : findByRequestId order twins requestId = some request) :
    ∃ twin ∈ twins, twin.request = request := by
  rw [findByRequestId, get?_findManyByRequestId, if_pos (List.mem_singleton_self _)] at h
  obtain ⟨twin, hfound, heq⟩ := Option.map_eq_some_iff.1 h
  rcases Option.or_eq_some_iff.1 hfound with hdecides | ⟨-, hasks⟩
  · exact ⟨twin, List.mem_of_find?_eq_some hdecides, heq⟩
  · exact ⟨twin, List.mem_of_find?_eq_some hasks, heq⟩

/-- A node of a workflow whose request has a decision is found as decided. -/
theorem findDecisionForNode_of_decided (order : SetOrder) {asked : ApprovalTwin}
    (hasked : asked ∈ twins) (hasks : asksNode workflowId nodeId asked = true)
    (htwin : twin ∈ twins)
    (hdecides : decidesIn workflowId asked.request.requestId twin = true) :
    ∃ decision, findDecisionForNode order twins workflowId nodeId = some decision := by
  cases hnamed : twins.find? (decidesNode workflowId nodeId) with
  | some named => exact ⟨named.request, findDecisionForNode_of_named order hnamed⟩
  | none =>
    cases hfound : findDecisionForNode order twins workflowId nodeId with
    | some decision => exact ⟨decision, rfl⟩
    | none =>
      have hjoined : decidesRequestOf twins workflowId nodeId twin = true :=
        joined_of_decidesIn hdecides
          (List.mem_map.2 ⟨asked, List.mem_filter.2 ⟨hasked, hasks⟩, rfl⟩)
      rw [(findDecisionForNode_of_joined order hnamed).2 hfound twin htwin] at hjoined
      cases hjoined

end Lookups

end FederatedApprovalStore

namespace Network

open GossipService FederatedApprovalStore

variable {ι : Type} [DecidableEq ι]

/-- A node holds the twin in a row with a content hash. -/
def HoldsTwin (host : Host) (defaults : MemoryRecord → Defaults) (net : Network ι) (i : ι)
    (twin : ApprovalTwin) : Prop :=
  ∃ row ∈ (net i).memoryRecords.rows, row.contentHash.isSome ∧ isScanned row = true ∧
    decodeRecord host defaults row = some twin

variable {host : Host} {defaults : MemoryRecord → Defaults} {net : Network ι}
  {rounds : List (NodeRound ι)} {i j : ι} {twin : ApprovalTwin}

/-- A twin is found where chains of rounds lead. -/
theorem mem_twins_of_reaches (hlength : ∀ data, (host.sha256 data).length = 32)
    (h : net.Healthy host) (hrounds : AllComparable host net rounds)
    (hunique : net.OneRecordPerHash) (hreaches : Reaches (rounds.map NodeRound.link) i j)
    (htwin : net.HoldsTwin host defaults i twin) :
    twin ∈ twins host defaults (Transition.after (tick host) net rounds j).memoryRecords := by
  obtain ⟨row, hrow, hhash, hscanned, hdecoded⟩ := htwin
  obtain ⟨copy, hcopy, hcarried⟩ := copy_of_reaches hlength h hrounds hunique hreaches hrow hhash
  exact mem_twins_of_row hcopy ((isScanned_of_carried hcarried).trans hscanned)
    ((decodeRecord_of_carried hcarried).trans hdecoded)

/-- A twin that is found was recorded where a chain of rounds comes from. -/
theorem exists_origin_of_twin (hlength : ∀ data, (host.sha256 data).length = 32)
    (h : net.Healthy host) (hrounds : AllComparable host net rounds)
    (htwin : twin ∈ twins host defaults (Transition.after (tick host) net rounds j).memoryRecords) :
    ∃ i, Reaches (rounds.map NodeRound.link) i j ∧
      twin ∈ twins host defaults (net i).memoryRecords := by
  obtain ⟨row, hrow, hscanned, hdecoded⟩ := exists_row_of_twin htwin
  obtain ⟨i, hreaches, origin, horigin, hcarried⟩ := origin_of_after hlength h hrounds hrow
  exact ⟨i, hreaches, mem_twins_of_row horigin
    ((isScanned_of_carried hcarried.symm).trans hscanned)
    ((decodeRecord_of_carried hcarried.symm).trans hdecoded)⟩

namespace SpreadExample

open UnionExample

/-- The request of a workflow node. -/
def asked : ApprovalRequest where
  requestId := "r1"
  workflowId := "w1"
  action := "deploy"
  policyRule := "approval_required"

def approved : ApprovalRequest := { asked with status := "approved", decidedBy := some "alice" }

/-- A signed twin. -/
def twinRow (request : ApprovalRequest) (nodeId : Option String) (contentHash : String) :
    MemoryRecord where
  workflowId := some (UUID.ofNat 1)
  sourceAgentId := none
  memoryType := .metaType
  content := "approval"
  metadata := metadataFor request nodeId
  confidence := .finite 1
  authorDid := some author
  signature := some signature
  contentHash := some contentHash
  createdAt := 0

def askedRow : MemoryRecord :=
  twinRow asked (some "n1") "z6zTVCcYiJMqV1whhkyB53nhEhnkefcVossR2LtUTJgda"

def approvedRow : MemoryRecord :=
  twinRow approved none "z5iHjvCm7KURvFoRC6P7b3BXtnc21FZZanPZ9nBaYcQ52"

/-- A row whose hash is that of its body. -/
theorem portable_twinRow {request : ApprovalRequest} {nodeId : Option String} {hash : String}
    (haddressed : (twinRow request nodeId hash).canonicalBody.contentHash tails = some hash)
    (hhash : columnText? 128 (.str hash) = some hash)
    (hmetadata : (Json.dict (metadataFor request nodeId)).storable = true)
    (hkeys : (Assoc.keys (metadataFor request nodeId)).Nodup) :
    (twinRow request nodeId hash).Portable tails := by
  obtain ⟨bytes, hbytes, heq⟩ := Option.map_eq_some_iff.1 haddressed
  refine portable_signed rfl rfl rfl rfl hbytes (by rw [heq]; rfl)
    ⟨?_, nofun, ?_, ?_, ?_, hmetadata, hkeys⟩
  · intro did hdid
    cases hdid
    exact columns_signed.1
  · intro text htext
    cases htext
    exact columns_signed.2
  · intro other hother
    cases hother
    exact hhash
  · show '\x00' ∉ "approval".toList
    decide

theorem portable_askedRow : askedRow.Portable tails := by
  refine portable_twinRow ?_ (by decide +kernel) (by decide +kernel) (by decide +kernel)
  unfold CanonicalBody.contentHash CanonicalBody.toSignableBytes
  rw [canonicalize_eq_flatMap]
  decide +kernel

theorem portable_approvedRow : approvedRow.Portable tails := by
  refine portable_twinRow ?_ (by decide +kernel) (by decide +kernel) (by decide +kernel)
  unfold CanonicalBody.contentHash CanonicalBody.toSignableBytes
  rw [canonicalize_eq_flatMap]
  decide +kernel

/-- The node that asks, and the node on which the approver is. -/
def pair : Network Bool := fun approver => if approver then node approvedRow else node askedRow

/-- The node that asks visits the other one. -/
def visit : NodeRound Bool := { client := false, server := true, now := 0, order := asStored }

theorem healthy : pair.Healthy tails := by
  have hasked := serves_node portable_askedRow rfl
  have happroved := serves_node portable_approvedRow rfl
  refine ⟨fun i => ?_, fun i => ?_, fun i j => ?_⟩
  · cases i with
    | false => exact hasked.1
    | true => exact happroved.1
  · cases i with
    | false => exact hasked.2.1
    | true => exact happroved.2.1
  · cases i with
    | false => exact hasked.2.2 _
    | true => exact happroved.2.2 _

theorem oneRecordPerHash : pair.OneRecordPerHash := by
  have hdiffer : askedRow.contentHash ≠ approvedRow.contentHash := by decide
  intro i j row hrow other hother _ hsame
  cases i with
  | false =>
    cases j with
    | false => rw [List.mem_singleton.1 hrow, List.mem_singleton.1 hother]
    | true =>
      rw [List.mem_singleton.1 hrow, List.mem_singleton.1 hother] at hsame
      exact absurd hsame hdiffer
  | true =>
    cases j with
    | false =>
      rw [List.mem_singleton.1 hrow, List.mem_singleton.1 hother] at hsame
      exact absurd hsame.symm hdiffer
    | true => rw [List.mem_singleton.1 hrow, List.mem_singleton.1 hother]

theorem comparable : AllComparable tails pair [visit] := by
  intro step hstep
  rw [List.mem_singleton.1 hstep]
  refine ⟨Or.inl rfl, Or.inl rfl, ?_⟩
  have hasked : filledBuckets (SyncService.iterHashes (node askedRow) none) =
      [["z6zTVCcYiJMqV1whhkyB53nhEhnkefcVossR2LtUTJgda"]] := by
    decide +kernel
  have happroved : filledBuckets (SyncService.iterHashes (node approvedRow) none) =
      [["z5iHjvCm7KURvFoRC6P7b3BXtnc21FZZanPZ9nBaYcQ52"]] := by
    decide +kernel
  show CollisionFree tails
    (summaryInputs tails (SyncService.iterHashes (node askedRow) none) ++
      summaryInputs tails (SyncService.iterHashes (node approvedRow) none))
  unfold summaryInputs
  rw [rootBody_eq, rootBody_eq, hasked, happroved]
  unfold CollisionFree
  decide +kernel

end SpreadExample

end Network

end MassClaw
