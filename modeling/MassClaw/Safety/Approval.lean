import MassClaw.Core.Json

/-!
# Approval requests and their twins

`app/safety/approval.py` keeps an approval request in Redis;
`app/safety/federated_approval.py` writes a signed twin of every request and
of every decision to the memory store.  A scheduler that resumes a workflow
asks the twins whether a node has been decided.

A status is the text the record carries.  The code writes pending, approved,
denied and expired; a record of a peer can carry anything.
-/

namespace MassClaw

/-- `ApprovalRequest`. -/
structure ApprovalRequest where
  requestId : String
  workflowId : String
  taskId : Option String := none
  action : String
  context : List (String × Json) := []
  policyRule : String
  status : String := "pending"
  decidedBy : Option String := none
  checkpointHash : Option String := none
  /-- The timestamps, as ISO texts. -/
  requestedAt : String := ""
  decidedAt : Option String := none
  expiresAt : String := ""

/-- A memory record that decodes to an approval, with `_record_node_id`. -/
structure ApprovalTwin where
  request : ApprovalRequest
  nodeId : Option String := none

/-- The order in which a Python `set` of texts is iterated. -/
structure SetOrder where
  enumerate : List String → List String
  mem_enumerate : ∀ items item, item ∈ enumerate items ↔ item ∈ items

namespace FederatedApprovalStore

/-- The two collections of the first pass of `find_decision_for_node`. -/
structure Matches where
  requestIds : List String := []
  decisions : List ApprovalRequest := []

/-- `decisions_by_request.get(request_id)`; of two decisions the one that was
entered first stays. -/
def Matches.decision? (found : Matches) (requestId : String) : Option ApprovalRequest :=
  found.decisions.find? (fun decision => decision.requestId = requestId)

/-- The first pass over the scanned twins, newest first.  A decision that
names the node itself is returned at once. -/
def firstPass (workflowId nodeId : String) :
    List ApprovalTwin → Matches → ApprovalRequest ⊕ Matches
  | [], found => .inr found
  | twin :: rest, found =>
    if twin.request.workflowId ≠ workflowId then firstPass workflowId nodeId rest found
    else if twin.request.status = "pending" then
      if twin.nodeId = some nodeId then
        firstPass workflowId nodeId rest
          { found with requestIds := found.requestIds ++ [twin.request.requestId] }
      else firstPass workflowId nodeId rest found
    else if twin.nodeId = some nodeId then .inl twin.request
    else
      firstPass workflowId nodeId rest
        { found with decisions := found.decisions ++ [twin.request] }

/-- `find_decision_for_node`. -/
def findDecisionForNode (order : SetOrder) (twins : List ApprovalTwin)
    (workflowId nodeId : String) : Option ApprovalRequest :=
  match firstPass workflowId nodeId twins {} with
  | .inl decision => some decision
  | .inr found => (order.enumerate found.requestIds).findSome? found.decision?

/-! ## What a decision was made for -/

/-- The decision is recorded for a request of the workflow and the node: its
twin names the node, or shares its request id with a pending twin that does. -/
def Decides (twins : List ApprovalTwin) (workflowId nodeId : String)
    (decision : ApprovalRequest) : Prop :=
  decision.workflowId = workflowId ∧ decision.status ≠ "pending" ∧
    ∃ twin ∈ twins, twin.request = decision ∧
      (twin.nodeId = some nodeId ∨
        ∃ request ∈ twins, request.request.workflowId = workflowId ∧
          request.request.status = "pending" ∧ request.nodeId = some nodeId ∧
          request.request.requestId = decision.requestId)

/-- What the collections of the first pass hold. -/
private structure MatchesInv (twins : List ApprovalTwin) (workflowId nodeId : String)
    (found : Matches) : Prop where
  requested : ∀ requestId ∈ found.requestIds, ∃ request ∈ twins,
    request.request.workflowId = workflowId ∧ request.request.status = "pending" ∧
      request.nodeId = some nodeId ∧ request.request.requestId = requestId
  decided : ∀ decision ∈ found.decisions,
    decision.workflowId = workflowId ∧ decision.status ≠ "pending" ∧
      ∃ twin ∈ twins, twin.request = decision

/-- What the first pass returns. -/
private def PassInv (twins : List ApprovalTwin) (workflowId nodeId : String) :
    ApprovalRequest ⊕ Matches → Prop
  | .inl decision => Decides twins workflowId nodeId decision
  | .inr found => MatchesInv twins workflowId nodeId found

private theorem firstPass_inv {twins : List ApprovalTwin} {workflowId nodeId : String} :
    ∀ (rest : List ApprovalTwin) (found : Matches), (∀ twin ∈ rest, twin ∈ twins) →
      MatchesInv twins workflowId nodeId found →
      PassInv twins workflowId nodeId (firstPass workflowId nodeId rest found) := by
  intro rest
  induction rest with
  | nil => exact fun found _ hfound => hfound
  | cons twin rest ih =>
    intro found hsub hfound
    have htwin := hsub twin List.mem_cons_self
    have hrest : ∀ other ∈ rest, other ∈ twins :=
      fun other hother => hsub other (List.mem_cons_of_mem _ hother)
    unfold firstPass
    split
    · exact ih found hrest hfound
    · rename_i hworkflow
      rw [not_not] at hworkflow
      split
      · rename_i hpending
        split
        · rename_i hnode
          refine ih _ hrest ⟨?_, hfound.decided⟩
          intro requestId hrequest
          rcases List.mem_append.1 hrequest with hold | hnew
          · exact hfound.requested requestId hold
          · rw [List.mem_singleton.1 hnew]
            exact ⟨twin, htwin, hworkflow, hpending, hnode, rfl⟩
        · exact ih found hrest hfound
      · rename_i hdecided
        split
        · rename_i hnode
          exact ⟨hworkflow, hdecided, twin, htwin, rfl, Or.inl hnode⟩
        · refine ih _ hrest ⟨hfound.requested, ?_⟩
          intro decision hdecision
          rcases List.mem_append.1 hdecision with hold | hnew
          · exact hfound.decided decision hold
          · rw [List.mem_singleton.1 hnew]
            exact ⟨hworkflow, hdecided, twin, htwin, rfl⟩

/-- A decision that is found was made for the node, whatever the order of the
set of request ids. -/
theorem decides_of_findDecisionForNode {order : SetOrder} {twins : List ApprovalTwin}
    {workflowId nodeId : String} {decision : ApprovalRequest}
    (h : findDecisionForNode order twins workflowId nodeId = some decision) :
    Decides twins workflowId nodeId decision := by
  have hpass := @firstPass_inv twins workflowId nodeId twins {}
    (fun _ htwin => htwin) ⟨by simp, by simp⟩
  unfold findDecisionForNode at h
  cases hresult : firstPass workflowId nodeId twins {} with
  | inl found =>
    rw [hresult] at h hpass
    cases h
    exact hpass
  | inr found =>
    rw [hresult] at h hpass
    obtain ⟨requestId, hrequest, hfind⟩ := List.exists_of_findSome?_eq_some h
    rw [order.mem_enumerate] at hrequest
    have hmem : decision ∈ found.decisions := List.mem_of_find?_eq_some hfind
    have hid : decision.requestId = requestId := by
      simpa using List.find?_some hfind
    obtain ⟨hworkflow, hdecided, twin, htwin, heq⟩ := hpass.decided decision hmem
    obtain ⟨request, hmem', hw, hp, hn, hr⟩ := hpass.requested requestId hrequest
    exact ⟨hworkflow, hdecided, twin, htwin, heq,
      Or.inr ⟨request, hmem', hw, hp, hn, hr.trans hid.symm⟩⟩

end FederatedApprovalStore

end MassClaw
