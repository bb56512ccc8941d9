import MassClaw.Safety.Convergence

/-!
# The pending view and the lookup by id

`get_pending` and `find_many_by_request_id` fold the same scan, newest twin
first.  The lookup keeps the first pending twin of a request.  The view puts
each later one in its place, so it shows the oldest pending twin and asks the
oldest whether the request has expired.
-/

namespace MassClaw

namespace FederatedApprovalStore

section View

variable (host : Host) (now : Time)

/-- The request has a pending twin and no decision, and its newest pending twin
has not expired. -/
def IsOpen (twins : List ApprovalTwin) (requestId : String) : Prop :=
  (∀ twin ∈ twins, decidesRequest requestId twin = false) ∧
    ∃ newest, twins.find? (asksRequest requestId) = some newest ∧
      newest.request.isExpired host now = false

/-- The view shows every open request once, as the lookup by ids returns it. -/
structure ShowsOpen (order : SetOrder) (twins : List ApprovalTwin)
    (view : List ApprovalRequest) : Prop where
  nodup : (view.map ApprovalRequest.requestId).Nodup
  shown : ∀ requestId, requestId ∈ view.map ApprovalRequest.requestId ↔
    IsOpen host now twins requestId
  resolved : ∀ request ∈ view, ∀ requestIds, request.requestId ∈ requestIds →
    get? (findManyByRequestId order twins requestIds) request.requestId = some request

/-- The newest and the oldest pending twin carry the same request, or both have
expired. -/
def SameEnds (twins : List ApprovalTwin) (requestId : String) : Prop :=
  ∀ newest oldest, twins.find? (asksRequest requestId) = some newest →
    twins.reverse.find? (asksRequest requestId) = some oldest →
    newest.request = oldest.request ∨
      newest.request.isExpired host now = true ∧ oldest.request.isExpired host now = true

end View

/-! ## The ends of a scan -/

section Ends

variable {host : Host} {now : Time} {order : SetOrder} {twins : List ApprovalTwin}
  {requestId : String}

theorem exists_oldest_iff : (∃ oldest, twins.reverse.find? (asksRequest requestId) = some oldest) ↔
    ∃ newest, twins.find? (asksRequest requestId) = some newest := by
  rw [← Option.isSome_iff_exists, ← Option.isSome_iff_exists, List.find?_isSome,
    List.find?_isSome]
  simp

/-- What is asked for carries the id of the request. -/
theorem requestId_of_asks {twins : List ApprovalTwin} {twin : ApprovalTwin}
    (h : twins.find? (asksRequest requestId) = some twin) : twin.request.requestId = requestId := by
  have hasks := List.find?_some h
  rw [asksRequest, Bool.and_eq_true, decide_eq_true_eq] at hasks
  exact hasks.1

/-- Each pending twin replaces the one before it. -/
theorem trackOne_of_pending {entry : Option ApprovalRequest} {twin : ApprovalTwin}
    (h : twin.request.status = "pending") :
    trackOne (entry.map (fun request => (request, false))) twin = some (twin.request, false) := by
  cases entry <;> simp [trackOne, h]

/-- Without a decision, the loop ends with the oldest pending twin. -/
theorem tracked_of_undecided (twins : List ApprovalTwin)
    (h : ∀ twin ∈ twins, decidesRequest requestId twin = false) :
    tracked twins requestId =
      ((twins.reverse.find? (asksRequest requestId)).map ApprovalTwin.request).map
        (fun request => (request, false)) := by
  induction twins using List.reverseRecOn with
  | nil => rfl
  | append_singleton earlier twin ih =>
    have hearlier := ih (fun other hother => h other (List.mem_append_left _ hother))
    have htwin := h twin (by simp)
    unfold tracked at hearlier ⊢
    rw [List.filter_append, List.foldl_append, hearlier, List.reverse_append,
      List.reverse_singleton, List.singleton_append, List.find?_cons]
    by_cases hid : twin.request.requestId = requestId
    · have hpending : twin.request.status = "pending" := by
        simpa [decidesRequest, hid] using htwin
      have hasks : asksRequest requestId twin = true := by simp [asksRequest, hid, hpending]
      rw [hasks, List.filter_singleton, decide_eq_true hid, cond_true, List.foldl_cons,
        trackOne_of_pending hpending]
      rfl
    · have hasks : asksRequest requestId twin = false := by simp [asksRequest, hid]
      rw [hasks, List.filter_singleton, decide_eq_false hid, cond_false]
      rfl

/-- The view shows the oldest pending twin of a request without a decision,
unless that twin has expired. -/
theorem mem_getPending_oldest (request : ApprovalRequest) :
    request ∈ getPending host now twins none false ↔
      (∀ twin ∈ twins, decidesRequest request.requestId twin = false) ∧
        request.isExpired host now = false ∧
        ∃ oldest, twins.reverse.find? (asksRequest request.requestId) = some oldest ∧
          oldest.request = request := by
  constructor
  · intro h
    have hundecided := undecided_of_mem_getPending h
    obtain ⟨htracked, hlive⟩ := (mem_getPending_live_iff host now twins request).1 h
    rw [tracked_of_undecided twins hundecided, Option.map_map] at htracked
    obtain ⟨oldest, holdest, heq⟩ := Option.map_eq_some_iff.1 htracked
    exact ⟨hundecided, hlive, oldest, holdest, congrArg Prod.fst heq⟩
  · intro ⟨hundecided, hlive, oldest, holdest, heq⟩
    apply (mem_getPending_live_iff host now twins request).2
    refine ⟨?_, hlive⟩
    rw [tracked_of_undecided twins hundecided, holdest, Option.map_some, heq]
    rfl

/-- The lookup returns the newest pending twin of a request without a decision. -/
theorem lookup_of_undecided (h : ∀ twin ∈ twins, decidesRequest requestId twin = false)
    {requestIds : List String} (hwanted : requestId ∈ requestIds) :
    get? (findManyByRequestId order twins requestIds) requestId =
      (twins.find? (asksRequest requestId)).map ApprovalTwin.request := by
  have hnone : twins.find? (decidesRequest requestId) = none := by
    rw [List.find?_eq_none]
    intro twin htwin
    rw [h twin htwin]
    exact Bool.false_ne_true
  rw [get?_findManyByRequestId, if_pos hwanted, hnone, Option.none_or]

/-! ## The two readers -/

/-- A request whose ends agree is shown exactly if it is open. -/
theorem mem_view_iff_of_sameEnds
    (hends : (∀ twin ∈ twins, decidesRequest requestId twin = false) →
      SameEnds host now twins requestId) :
    requestId ∈ (getPending host now twins none false).map ApprovalRequest.requestId ↔
      IsOpen host now twins requestId := by
  rw [List.mem_map]
  constructor
  · intro ⟨request, hrequest, hid⟩
    subst hid
    obtain ⟨hundecided, hlive, oldest, holdest, rfl⟩ := (mem_getPending_oldest request).1 hrequest
    obtain ⟨newest, hnewest⟩ := exists_oldest_iff.1 ⟨oldest, holdest⟩
    refine ⟨hundecided, newest, hnewest, ?_⟩
    rcases hends hundecided newest oldest hnewest holdest with heq | ⟨-, hexpired⟩
    · rw [heq]
      exact hlive
    · rw [hlive] at hexpired
      cases hexpired
  · intro ⟨hundecided, newest, hnewest, hlive⟩
    obtain ⟨oldest, holdest⟩ := exists_oldest_iff.2 ⟨newest, hnewest⟩
    have hid := requestId_of_asks holdest
    refine ⟨oldest.request, (mem_getPending_oldest oldest.request).2 ?_, hid⟩
    rw [hid]
    refine ⟨hundecided, ?_, oldest, holdest, rfl⟩
    rcases hends hundecided newest oldest hnewest holdest with heq | ⟨hexpired, -⟩
    · rw [← heq]
      exact hlive
    · rw [hlive] at hexpired
      cases hexpired

/-- A view that shows the open requests has ends that agree. -/
theorem ShowsOpen.sameEnds (h : ShowsOpen host now order twins (getPending host now twins none false))
    (hundecided : ∀ twin ∈ twins, decidesRequest requestId twin = false) :
    SameEnds host now twins requestId := by
  intro newest oldest hnewest holdest
  have hid := requestId_of_asks holdest
  by_cases hlive : oldest.request.isExpired host now = true
  · right
    refine ⟨?_, hlive⟩
    by_contra hnot
    rw [Bool.not_eq_true] at hnot
    have hshown := (h.shown requestId).2 ⟨hundecided, newest, hnewest, hnot⟩
    obtain ⟨request, hrequest, hsame⟩ := List.mem_map.1 hshown
    obtain ⟨-, hfresh, other, hother, heq⟩ := (mem_getPending_oldest request).1 hrequest
    rw [hsame, holdest] at hother
    cases hother
    rw [heq, hfresh] at hlive
    cases hlive
  · left
    rw [Bool.not_eq_true] at hlive
    have hmem : oldest.request ∈ getPending host now twins none false := by
      apply (mem_getPending_oldest oldest.request).2
      rw [hid]
      exact ⟨hundecided, hlive, oldest, holdest, rfl⟩
    have hfound := h.resolved oldest.request hmem [requestId] (by simp [hid])
    rw [hid, lookup_of_undecided hundecided (List.mem_singleton_self _), hnewest] at hfound
    exact Option.some.inj hfound

end Ends

/-- The view shows the open requests as the lookup by ids returns them, exactly
if the newest and the oldest pending twin of every request without a decision
carry the same request or have both expired. -/
theorem getPending_showsOpen_iff (host : Host) (defaults : MemoryRecord → Defaults) (now : Time)
    (order : SetOrder) (records : MemoryTable) :
    ShowsOpen host now order (twins host defaults records)
        (getPending host now (twins host defaults records) none false) ↔
      ∀ requestId,
        (∀ twin ∈ twins host defaults records, decidesRequest requestId twin = false) →
          SameEnds host now (twins host defaults records) requestId := by
  constructor
  · intro h requestId hundecided
    exact h.sameEnds hundecided
  · intro hends
    refine ⟨nodup_getPending host now _ none false,
      fun requestId => mem_view_iff_of_sameEnds (hends requestId), ?_⟩
    intro request hrequest requestIds hwanted
    obtain ⟨hundecided, hlive, oldest, holdest, rfl⟩ := (mem_getPending_oldest request).1 hrequest
    obtain ⟨newest, hnewest⟩ := exists_oldest_iff.1 ⟨oldest, holdest⟩
    rw [lookup_of_undecided hundecided hwanted, hnewest]
    rcases hends _ hundecided newest oldest hnewest holdest with heq | ⟨-, hexpired⟩
    · exact congrArg some heq
    · rw [hlive] at hexpired
      cases hexpired

/-! ## A request that was written twice -/

namespace Rewritten

def first : ApprovalRequest where
  requestId := "r"
  workflowId := "w"
  action := "tool_call"
  policyRule := "high_cost"
  expiresAt := "2026-01-01T00:00:10+00:00"

/-- The request with a later deadline. -/
def second : ApprovalRequest := { first with expiresAt := "2026-01-01T00:00:20+00:00" }

/-- The twin of a pending request, inserted at the given time. -/
def asked (request : ApprovalRequest) (contentHash : String) (createdAt : Time) : MemoryRecord where
  workflowId := none
  sourceAgentId := none
  memoryType := .metaType
  content := "approval.request:r"
  metadata := metadataFor request (some "n")
  confidence := .finite 1
  contentHash := some contentHash
  createdAt := createdAt

def store : MemoryTable :=
  (Table.empty.push (asked first "z1" 0) (by decide)).push (asked second "z2" 1) (by decide)

/-- Seconds of the first minute of 2026. -/
def seconds : Host :=
  { Host.lengths with
    fromIsoformat? := fun text =>
      if text = "2026-01-01T00:00:10+00:00" then some 10
      else if text = "2026-01-01T00:00:20+00:00" then some 20
      else none }

theorem twins_store (defaults : MemoryRecord → Defaults) :
    twins seconds defaults store =
      [{ request := second, nodeId := some "n" }, { request := first, nodeId := some "n" }] := by
  have hdecoded : ∀ (request : ApprovalRequest) (contentHash : String) (createdAt : Time)
      (memoryId : RowId), decodeRecord seconds defaults
        { asked request contentHash createdAt with memoryId } =
          some { request, nodeId := some "n" } := by
    intro request contentHash createdAt memoryId
    show (ApprovalRequest.validate? _ request.dump).map _ = _
    rw [ApprovalRequest.validate?_dump]
    rfl
  have hscan : scan store = [{ asked second "z2" 1 with memoryId := 1 },
      { asked first "z1" 0 with memoryId := 0 }] := by
    unfold scan
    rw [show store.rows = [{ asked first "z1" 0 with memoryId := 0 },
      { asked second "z2" 1 with memoryId := 1 }] from rfl,
      Selection.newestFirst_of_ascending (by
        rw [List.pairwise_pair]
        exact Int.zero_lt_one)]
    rfl
  rw [twins, hscan]
  exact List.filterMap_cons_some (hdecoded second "z2" 1 1) ▸
    congrArg _ (List.filterMap_cons_some (hdecoded first "z1" 0 0))

end Rewritten

open Rewritten in
/-- A request whose first twin has expired is not shown, though its newest twin
has not. -/
theorem getPending_showsOpen_fails :
    ¬∀ (host : Host) (defaults : MemoryRecord → Defaults) (now : Time) (order : SetOrder)
      (records : MemoryTable), ShowsOpen host now order (twins host defaults records)
        (getPending host now (twins host defaults records) none false) := by
  intro h
  have hview := (h seconds (fun _ => ⟨"", "", ""⟩) 15 (startingWith "r") store).shown "r"
  rw [twins_store] at hview
  have hopen : IsOpen seconds 15
      [{ request := second, nodeId := some "n" }, { request := first, nodeId := some "n" }] "r" :=
    ⟨by decide, { request := second, nodeId := some "n" }, rfl, by decide⟩
  have hshown := hview.2 hopen
  revert hshown
  decide

end FederatedApprovalStore

end MassClaw
