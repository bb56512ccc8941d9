import Mathlib.Data.List.Find
import MassClaw.Safety.Convergence

/-!
# The latest decision for a node

A gate that pauses again makes a second request for its node, so a node can
have several decided requests.  `find_decision_for_node` returns the newest
decision record that names the node; without one it takes the requests of the
node in the order of a set and returns the newest decision of the first that is
decided.  Neither looks for the decision that was made last.
-/

namespace MassClaw

namespace FederatedApprovalStore

/-- A decision that is recorded for the node, by itself or by its request. -/
def decidesPair (twins : List ApprovalTwin) (workflowId nodeId : String)
    (twin : ApprovalTwin) : Bool :=
  decidesNode workflowId nodeId twin || decidesRequestOf twins workflowId nodeId twin

/-- The decision of the request of the node that was decided last. -/
def latestDecision (twins : List ApprovalTwin) (workflowId nodeId : String) :
    Option ApprovalRequest :=
  (twins.find? (decidesPair twins workflowId nodeId)).map ApprovalTwin.request

/-- No decision competes with the one that is found.  Where a record names the
node, the newest decision of a request of the node stands behind it, or carries
the same; where none does, one request of the node has been decided at most. -/
structure Unrivalled (twins : List ApprovalTwin) (workflowId nodeId : String) : Prop where
  named : ∀ newer twin older, twins = newer ++ twin :: older →
    decidesNode workflowId nodeId twin = true →
    (∀ other ∈ newer, decidesNode workflowId nodeId other = false) →
    ∀ rival, newer.find? (decidesRequestOf twins workflowId nodeId) = some rival →
      rival.request = twin.request
  joined : (∀ twin ∈ twins, decidesNode workflowId nodeId twin = false) →
    ∀ twin ∈ twins, ∀ other ∈ twins, decidesRequestOf twins workflowId nodeId twin = true →
      decidesRequestOf twins workflowId nodeId other = true →
      twin.request.requestId = other.request.requestId

/-- A decision of the request in the workflow. -/
def decidesIn (workflowId requestId : String) (twin : ApprovalTwin) : Bool :=
  (twin.request.workflowId = workflowId && twin.request.status ≠ "pending") &&
    twin.request.requestId = requestId

/-- The ids of the requests that are made for the node. -/
def requestsOf (twins : List ApprovalTwin) (workflowId nodeId : String) : List String :=
  (twins.filter (asksNode workflowId nodeId)).map (fun twin => twin.request.requestId)

section Node

variable {twins : List ApprovalTwin} {workflowId nodeId : String}

/-! ## What is found -/

/-- A record that names the node is returned whatever the order. -/
theorem findDecisionForNode_of_named (order : SetOrder) {twin : ApprovalTwin}
    (h : twins.find? (decidesNode workflowId nodeId) = some twin) :
    findDecisionForNode order twins workflowId nodeId = some twin.request := by
  rw [findDecisionForNode, firstPass_eq, h]

/-- Without one, the requests of the node are tried in the order of the set. -/
theorem findDecisionForNode_of_unnamed (order : SetOrder)
    (h : twins.find? (decidesNode workflowId nodeId) = none) :
    findDecisionForNode order twins workflowId nodeId =
      (order.enumerate (requestsOf twins workflowId nodeId)).findSome? (fun requestId =>
        (twins.find? (decidesIn workflowId requestId)).map ApprovalTwin.request) := by
  rw [findDecisionForNode, firstPass_eq, h]
  dsimp only [List.nil_append]
  apply congrArg (fun f => List.findSome? f _)
  funext requestId
  unfold Matches.decision?
  rw [List.find?_map, List.find?_filter]
  apply congrArg
  apply List.find?_congr
  intro twin _
  simp [decidesIn]

/-- A decision is joined exactly if its request is one of the node. -/
theorem decidesRequestOf_iff (twin : ApprovalTwin) :
    decidesRequestOf twins workflowId nodeId twin = true ↔
      decidesIn workflowId twin.request.requestId twin = true ∧
        twin.request.requestId ∈ requestsOf twins workflowId nodeId := by
  rw [decidesRequestOf, Bool.and_eq_true, List.any_eq_true, decidesIn, decide_eq_true rfl,
    Bool.and_true, requestsOf, List.mem_map]
  constructor
  · intro h
    obtain ⟨hdecides, asked, hasked, hasks⟩ := h
    rw [Bool.and_eq_true, decide_eq_true_eq] at hasks
    exact ⟨hdecides, asked, List.mem_filter.2 ⟨hasked, hasks.1⟩, hasks.2⟩
  · intro h
    obtain ⟨hdecides, asked, hasked, hsame⟩ := h
    obtain ⟨hasked, hasks⟩ := List.mem_filter.1 hasked
    refine ⟨hdecides, asked, hasked, ?_⟩
    rw [hasks, Bool.true_and]
    exact decide_eq_true hsame

theorem requestId_of_decidesIn {requestId : String} {twin : ApprovalTwin}
    (h : decidesIn workflowId requestId twin = true) : twin.request.requestId = requestId := by
  rw [decidesIn, Bool.and_eq_true, decide_eq_true_eq] at h
  exact h.2

/-- A decision for one of the requests of the node is joined. -/
theorem joined_of_decidesIn {requestId : String} {twin : ApprovalTwin}
    (h : decidesIn workflowId requestId twin = true)
    (hrequest : requestId ∈ requestsOf twins workflowId nodeId) :
    decidesRequestOf twins workflowId nodeId twin = true := by
  have hsame := requestId_of_decidesIn h
  subst hsame
  exact (decidesRequestOf_iff twin).2 ⟨h, hrequest⟩

/-! ## The latest decision -/

theorem latestDecision_of_unnamed
    (h : ∀ twin ∈ twins, decidesNode workflowId nodeId twin = false) :
    latestDecision twins workflowId nodeId =
      (twins.find? (decidesRequestOf twins workflowId nodeId)).map ApprovalTwin.request := by
  rw [latestDecision]
  apply congrArg
  apply List.find?_congr
  intro twin htwin
  rw [decidesPair, h twin htwin, Bool.false_or]

/-- In front of the first record that names the node only joined decisions
count. -/
theorem latestDecision_of_named {newer older : List ApprovalTwin} {twin : ApprovalTwin}
    (hsplit : twins = newer ++ twin :: older) (htwin : decidesNode workflowId nodeId twin = true)
    (hnewer : ∀ other ∈ newer, decidesNode workflowId nodeId other = false) :
    latestDecision twins workflowId nodeId =
      some (((newer.find? (decidesRequestOf twins workflowId nodeId)).getD twin).request) := by
  have hjoined : newer.find? (decidesPair twins workflowId nodeId) =
      newer.find? (decidesRequestOf twins workflowId nodeId) := by
    apply List.find?_congr
    intro other hother
    rw [decidesPair, hnewer other hother, Bool.false_or]
  have hpair : decidesPair twins workflowId nodeId twin = true := by
    rw [decidesPair, htwin, Bool.true_or]
  have hfind : twins.find? (decidesPair twins workflowId nodeId) =
      (newer.find? (decidesRequestOf twins workflowId nodeId)).or (some twin) := by
    rw [← hjoined, ← List.find?_cons_of_pos (l := older) hpair, ← List.find?_append, ← hsplit]
  rw [latestDecision, hfind]
  cases newer.find? (decidesRequestOf twins workflowId nodeId) <;> rfl

/-! ## Nothing competes -/

/-- The only decided request of the node is found by every order. -/
theorem Unrivalled.finds_latest (h : Unrivalled twins workflowId nodeId)
    (order : SetOrder) (hnone : ∀ twin ∈ twins, decidesNode workflowId nodeId twin = false) :
    findDecisionForNode order twins workflowId nodeId = latestDecision twins workflowId nodeId := by
  have hfind : twins.find? (decidesNode workflowId nodeId) = none := by
    simpa using hnone
  rw [latestDecision_of_unnamed hnone,
    findDecisionForNode_of_unnamed order hfind]
  cases hlatest : twins.find? (decidesRequestOf twins workflowId nodeId) with
  | none =>
    rw [Option.map_none, List.findSome?_eq_none_iff]
    intro requestId hrequest
    rw [order.mem_enumerate] at hrequest
    rw [Option.map_eq_none_iff, List.find?_eq_none]
    intro twin htwin hdecides
    exact List.find?_eq_none.1 hlatest twin htwin (joined_of_decidesIn hdecides hrequest)
  | some latest =>
    have hmem := List.mem_of_find?_eq_some hlatest
    have hjoined := List.find?_some hlatest
    obtain ⟨hdecides, hrequest⟩ := (decidesRequestOf_iff latest).1 hjoined
    -- Every decided request of the node is the one of the latest decision.
    have hvalue : ∀ requestId ∈ requestsOf twins workflowId nodeId, ∀ request,
        (twins.find? (decidesIn workflowId requestId)).map ApprovalTwin.request = some request →
          request = latest.request := by
      intro requestId hrequested request hfound
      obtain ⟨twin, htwin, rfl⟩ := Option.map_eq_some_iff.1 hfound
      have hsame : twin.request.requestId = latest.request.requestId :=
        h.joined hnone twin (List.mem_of_find?_eq_some htwin) latest hmem
          (joined_of_decidesIn (List.find?_some htwin) hrequested) hjoined
      rw [requestId_of_decidesIn (List.find?_some htwin)] at hsame
      subst hsame
      have hfirst : twins.find? (decidesRequestOf twins workflowId nodeId) = some twin := by
        rw [← htwin]
        apply List.find?_congr
        intro other hother
        rw [Bool.eq_iff_iff]
        constructor
        · intro hother'
          have hid := h.joined hnone other hother latest hmem hother' hjoined
          rw [← hid]
          exact ((decidesRequestOf_iff other).1 hother').1
        · intro hother'
          exact joined_of_decidesIn hother' hrequested
      rw [hlatest] at hfirst
      rw [Option.some.inj hfirst]
    cases hfound : (order.enumerate (requestsOf twins workflowId nodeId)).findSome?
        (fun requestId =>
          (twins.find? (decidesIn workflowId requestId)).map ApprovalTwin.request) with
    | none =>
      have hmissing := List.findSome?_eq_none_iff.1 hfound latest.request.requestId
        ((order.mem_enumerate _ _).2 hrequest)
      rw [Option.map_eq_none_iff, List.find?_eq_none] at hmissing
      exact absurd hdecides (hmissing latest hmem)
    | some request =>
      obtain ⟨requestId, hrequested, hrequest'⟩ := List.exists_of_findSome?_eq_some hfound
      rw [hvalue requestId ((order.mem_enumerate _ _).1 hrequested) request hrequest']
      rfl

/-- The order that starts with a decided request finds its decision. -/
theorem findDecisionForNode_startingWith {twin : ApprovalTwin} (htwin : twin ∈ twins)
    (hnone : twins.find? (decidesNode workflowId nodeId) = none)
    (hjoined : decidesRequestOf twins workflowId nodeId twin = true) :
    ∃ decision, findDecisionForNode (startingWith twin.request.requestId) twins workflowId nodeId =
        some decision ∧ decision.requestId = twin.request.requestId := by
  obtain ⟨hdecides, hrequest⟩ := (decidesRequestOf_iff twin).1 hjoined
  have hsome : (twins.find? (decidesIn workflowId twin.request.requestId)).isSome := by
    rw [List.find?_isSome]
    exact ⟨twin, htwin, hdecides⟩
  obtain ⟨first, hfirst⟩ := Option.isSome_iff_exists.1 hsome
  refine ⟨first.request, ?_, requestId_of_decidesIn (List.find?_some hfirst)⟩
  rw [findDecisionForNode_of_unnamed _ hnone]
  dsimp only [startingWith]
  rw [if_pos hrequest, List.findSome?_cons, hfirst]
  rfl

end Node

/-- The decision that is found is the latest whatever the order of the set,
exactly if no decision competes with it. -/
theorem findDecisionForNode_latest_iff (host : Host) (defaults : MemoryRecord → Defaults)
    (records : MemoryTable) (workflowId nodeId : String) :
    (∀ order, findDecisionForNode order (twins host defaults records) workflowId nodeId =
        latestDecision (twins host defaults records) workflowId nodeId) ↔
      Unrivalled (twins host defaults records) workflowId nodeId := by
  constructor
  · intro h
    constructor
    · intro newer twin older hsplit htwin hnewer rival hrival
      have hfirst : (twins host defaults records).find? (decidesNode workflowId nodeId) =
          some twin := by
        rw [List.find?_eq_some_iff_append]
        refine ⟨htwin, newer, older, hsplit, ?_⟩
        intro other hother
        rw [hnewer other hother]
        rfl
      have hfound := h (startingWith "")
      rw [findDecisionForNode_of_named _ hfirst, latestDecision_of_named hsplit htwin hnewer,
        hrival] at hfound
      exact (Option.some.inj hfound).symm
    · intro hnone twin htwin other hother hjoined hjoined'
      have hfind : (twins host defaults records).find? (decidesNode workflowId nodeId) = none := by
        simpa using hnone
      obtain ⟨decision, hdecision, hid⟩ := findDecisionForNode_startingWith htwin hfind hjoined
      obtain ⟨decision', hdecision', hid'⟩ := findDecisionForNode_startingWith hother hfind hjoined'
      rw [h] at hdecision hdecision'
      rw [hdecision] at hdecision'
      rw [← hid, ← hid', Option.some.inj hdecision']
  · intro h order
    cases hfind : (twins host defaults records).find? (decidesNode workflowId nodeId) with
    | none =>
      apply h.finds_latest order
      intro twin htwin
      simpa using List.find?_eq_none.1 hfind twin htwin
    | some twin =>
      obtain ⟨htwin, newer, older, hsplit, hnewer⟩ := List.find?_eq_some_iff_append.1 hfind
      have hnewer' : ∀ other ∈ newer, decidesNode workflowId nodeId other = false := by
        intro other hother
        simpa using hnewer other hother
      rw [findDecisionForNode_of_named order hfind, latestDecision_of_named hsplit htwin hnewer']
      cases hrival : newer.find? (decidesRequestOf (twins host defaults records) workflowId
          nodeId) with
      | none => rfl
      | some rival =>
        rw [Option.getD_some, h.named newer twin older hsplit htwin hnewer' rival hrival]

/-! ## A gate that paused twice -/

namespace PausedTwice

def first : ApprovalRequest where
  requestId := "r1"
  workflowId := "w"
  action := "tool_call"
  policyRule := "high_cost"

/-- The request of the second pause. -/
def second : ApprovalRequest := { first with requestId := "r2" }

def approved : ApprovalRequest := { first with status := "approved", decidedBy := some "alice" }

def denied : ApprovalRequest := { second with status := "denied", decidedBy := some "bob" }

/-- The twin of a request or of a decision, inserted at the given time. -/
def twinOf (request : ApprovalRequest) (nodeId : Option String) (createdAt : Time) :
    MemoryRecord where
  workflowId := none
  sourceAgentId := none
  memoryType := .metaType
  content := "approval:" ++ request.requestId ++ ":" ++ request.status
  metadata := metadataFor request nodeId
  confidence := .finite 1
  createdAt := createdAt

/-- Both requests are decided, the later pause last. -/
def store : MemoryTable :=
  (((Table.empty.push (twinOf first (some "n") 0) (by decide)).push
    (twinOf approved none 1) (by decide)).push
    (twinOf second (some "n") 2) (by decide)).push
    (twinOf denied none 3) (by decide)

theorem twins_store (host : Host) (defaults : MemoryRecord → Defaults) :
    twins host defaults store =
      [{ request := denied, nodeId := none }, { request := second, nodeId := some "n" },
        { request := approved, nodeId := none }, { request := first, nodeId := some "n" }] := by
  have hnamed : ∀ (request : ApprovalRequest) (createdAt : Time) (memoryId : RowId),
      decodeRecord host defaults { twinOf request (some "n") createdAt with memoryId } =
        some { request, nodeId := some "n" } := by
    intro request createdAt memoryId
    show (ApprovalRequest.validate? _ request.dump).map _ = _
    rw [ApprovalRequest.validate?_dump]
    rfl
  have hunnamed : ∀ (request : ApprovalRequest) (createdAt : Time) (memoryId : RowId),
      decodeRecord host defaults { twinOf request none createdAt with memoryId } =
        some { request, nodeId := none } := by
    intro request createdAt memoryId
    show (ApprovalRequest.validate? _ request.dump).map _ = _
    rw [ApprovalRequest.validate?_dump]
    rfl
  have hscan : scan store = [{ twinOf denied none 3 with memoryId := 3 },
      { twinOf second (some "n") 2 with memoryId := 2 },
      { twinOf approved none 1 with memoryId := 1 },
      { twinOf first (some "n") 0 with memoryId := 0 }] := by
    unfold scan
    rw [Selection.newestFirst_of_ascending (by decide)]
    rfl
  rw [twins, hscan, List.filterMap_cons_some (hunnamed denied 3 3),
    List.filterMap_cons_some (hnamed second 2 2), List.filterMap_cons_some (hunnamed approved 1 1),
    List.filterMap_cons_some (hnamed first 0 0)]
  rfl

end PausedTwice

open PausedTwice in
/-- A set that is iterated from the first request on hides the later denial
behind the earlier approval. -/
theorem findDecisionForNode_latest_fails :
    ¬∀ (host : Host) (defaults : MemoryRecord → Defaults) (records : MemoryTable)
      (workflowId nodeId : String) (order : SetOrder),
      findDecisionForNode order (twins host defaults records) workflowId nodeId =
        latestDecision (twins host defaults records) workflowId nodeId := by
  intro h
  have hlatest := h Host.lengths (fun _ => ⟨"", "", ""⟩) store "w" "n" (startingWith "r1")
  rw [twins_store] at hlatest
  have hstatus := congrArg (Option.map ApprovalRequest.status) hlatest
  revert hstatus
  decide

end FederatedApprovalStore

end MassClaw
