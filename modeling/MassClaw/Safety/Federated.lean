import MassClaw.Core.Models
import MassClaw.Identity.Canonicalize
import MassClaw.Lib.Assoc
import MassClaw.Lib.Selection
import MassClaw.Safety.Approval

/-!
# Approval twins in the memory table, `app/safety/federated_approval.py`

A twin is a META record with a marker in its metadata; its payload is the
approval request as JSON.  The reads scan all active twins, newest first by
`created_at`, a column that each node assigns when it inserts the row.  The
first terminal twin of a request is its decision, so nodes with the same twins
agree exactly when no two terminal twins of a request disagree.
-/

namespace MassClaw

/-! ## Decoding -/

/-- `bool(meta.get(key))`. -/
def MemoryRecord.hasMarker (record : MemoryRecord) (key : String) : Bool :=
  (Json.lookup record.metadata key).truthy

/-- `is_approval_record`. -/
def isApprovalRecord (record : MemoryRecord) : Bool :=
  record.hasMarker "approval_marker" && record.memoryType = .metaType

/-- A field of type `str`; the default stands for a missing one. -/
def textField? (payload : List (String × Json)) (key : String) (default : Option String) :
    Option String :=
  match payload.find? (fun entry => entry.1 == key) with
  | none => default
  | some (_, value) => value.asString?

/-- A field of type `str | None` with default `None`. -/
def optionalField? (payload : List (String × Json)) (key : String) : Option (Option String) :=
  match payload.find? (fun entry => entry.1 == key) with
  | none | some (_, .null) => some none
  | some (_, value) => value.asString?.map some

/-- What a process adds to a payload with missing fields: a fresh id, and the
timestamps of the moment.  The twins of this code have all fields. -/
structure Defaults where
  requestId : String
  requestedAt : String
  expiresAt : String

/-- `ApprovalRequest.model_validate`; `none` is the `ValidationError`. -/
def ApprovalRequest.validate? (defaults : Defaults) (payload : List (String × Json)) :
    Option ApprovalRequest := do
  let requestId ← textField? payload "request_id" (some defaults.requestId)
  let workflowId ← textField? payload "workflow_id" none
  let taskId ← optionalField? payload "task_id"
  let action ← textField? payload "action" none
  let context ← match payload.find? (fun entry => entry.1 == "context") with
    | none => some []
    | some (_, .dict entries) => some entries
    | some _ => none
  let policyRule ← textField? payload "policy_rule" none
  let status ← textField? payload "status" (some "pending")
  let requestedAt ← textField? payload "requested_at" (some defaults.requestedAt)
  let decidedAt ← optionalField? payload "decided_at"
  let decidedBy ← optionalField? payload "decided_by"
  let expiresAt ← textField? payload "expires_at" (some defaults.expiresAt)
  let checkpointHash ← optionalField? payload "checkpoint_hash"
  return { requestId, workflowId, taskId, action, context, policyRule, status, requestedAt,
           decidedAt, decidedBy, expiresAt, checkpointHash }

/-- `model_dump(mode="json")`. -/
def ApprovalRequest.dump (request : ApprovalRequest) : List (String × Json) :=
  let optional (value : Option String) : Json := (value.map .str).getD .null
  [ ("request_id", .str request.requestId)
  , ("workflow_id", .str request.workflowId)
  , ("task_id", optional request.taskId)
  , ("action", .str request.action)
  , ("context", .dict request.context)
  , ("policy_rule", .str request.policyRule)
  , ("status", .str request.status)
  , ("requested_at", .str request.requestedAt)
  , ("decided_at", optional request.decidedAt)
  , ("decided_by", optional request.decidedBy)
  , ("expires_at", .str request.expiresAt)
  , ("checkpoint_hash", optional request.checkpointHash) ]

/-- A dumped request validates to itself. -/
@[simp] theorem ApprovalRequest.validate?_dump (defaults : Defaults) (request : ApprovalRequest) :
    validate? defaults request.dump = some request := by
  obtain ⟨requestId, workflowId, taskId, action, context, policyRule, status, decidedBy,
    checkpointHash, requestedAt, decidedAt, expiresAt⟩ := request
  cases taskId <;> cases decidedBy <;> cases checkpointHash <;> cases decidedAt <;> rfl

/-- `is_expired`; a deadline that cannot be read has passed. -/
def ApprovalRequest.isExpired (host : Host) (now : Time) (request : ApprovalRequest) : Bool :=
  match host.fromIsoformat? request.expiresAt with
  | none => true
  | some deadline => decide (deadline ≤ now)

/-- The columns that a replica assigns by itself left out. -/
def MemoryRecord.shared (record : MemoryRecord) : MemoryRecord :=
  { record with memoryId := 0, version := 1, parentVersionId := none, expiresAt := none,
                createdAt := 0 }

namespace FederatedApprovalStore

/-- `_metadata_for`. -/
def metadataFor (request : ApprovalRequest) (nodeId : Option String) : List (String × Json) :=
  [ ("approval_marker", .bool true)
  , ("approval_request_id", .str request.requestId)
  , ("approval_status", .str request.status)
  , ("approval_payload", .dict request.dump) ] ++
    (nodeId.map (fun nodeId => ("approval_node_id", Json.str nodeId))).toList

section Reads

variable (host : Host) (defaults : MemoryRecord → Defaults)

/-- `_record_node_id`. -/
def recordNodeId (record : MemoryRecord) : Option String :=
  match Json.lookup record.metadata "approval_node_id" with
  | .null => none
  | value => some (value.pyStr host.repr)

/-- `_decode_record`, with the node id of the record. -/
def decodeRecord (record : MemoryRecord) : Option ApprovalTwin :=
  match Json.lookup record.metadata "approval_payload" with
  | .dict payload =>
    (ApprovalRequest.validate? (defaults record.shared) payload).map (fun request =>
      { request, nodeId := recordNodeId host record })
  | _ => none

/-- The records that `_scan` returns. -/
def isScanned (record : MemoryRecord) : Bool :=
  isApprovalRecord record && record.recordState = .active

/-- `_scan`: newest first. -/
def scan (records : MemoryTable) : List MemoryRecord :=
  (Selection.newestFirst MemoryRecord.createdAt records.rows).filter isScanned

/-- The scanned records that decode. -/
def twins (records : MemoryTable) : List ApprovalTwin :=
  (scan records).filterMap (decodeRecord host defaults)

end Reads

/-! ## The latest state of a request -/

/-- `dict.setdefault`. -/
def setDefault (entries : List (String × ApprovalRequest)) (request : ApprovalRequest) :
    List (String × ApprovalRequest) :=
  if request.requestId ∈ Assoc.keys entries then entries
  else entries ++ [(request.requestId, request)]

/-- The first selected request of each id, as the loop of
`find_many_by_request_id` collects them; the loop does so for the terminal and
for the pending requests at once. -/
def collect (select : ApprovalRequest → Bool) (twins : List ApprovalTwin) :
    List (String × ApprovalRequest) :=
  twins.foldl (fun entries twin =>
    if select twin.request then setDefault entries twin.request else entries) []

/-- `d.get(request_id)`. -/
def get? (entries : List (String × ApprovalRequest)) (requestId : String) :
    Option ApprovalRequest :=
  (entries.find? (fun entry => entry.1 = requestId)).map Prod.snd

/-- `find_many_by_request_id`; the keys come in the order of a set. -/
def findManyByRequestId (order : SetOrder) (twins : List ApprovalTwin) (requestIds : List String) :
    List (String × ApprovalRequest) :=
  let decisions := collect (fun request =>
    request.requestId ∈ requestIds && request.status ≠ "pending") twins
  let pendings := collect (fun request =>
    request.requestId ∈ requestIds && request.status = "pending") twins
  (order.enumerate (Assoc.keys pendings ++ Assoc.keys decisions)).filterMap (fun requestId =>
    ((get? decisions requestId).or (get? pendings requestId)).map (fun request =>
      (requestId, request)))

/-- `find_by_request_id`. -/
def findByRequestId (order : SetOrder) (twins : List ApprovalTwin) (requestId : String) :
    Option ApprovalRequest :=
  get? (findManyByRequestId order twins [requestId]) requestId

/-- The twin is a terminal twin of the request. -/
def decidesRequest (requestId : String) (twin : ApprovalTwin) : Bool :=
  twin.request.requestId = requestId && twin.request.status ≠ "pending"

/-- The twin is a pending twin of the request. -/
def asksRequest (requestId : String) (twin : ApprovalTwin) : Bool :=
  twin.request.requestId = requestId && twin.request.status = "pending"

theorem get?_setDefault (entries : List (String × ApprovalRequest)) (request : ApprovalRequest)
    (requestId : String) :
    get? (setDefault entries request) requestId =
      (get? entries requestId).or (if request.requestId = requestId then some request else none) := by
  unfold get? setDefault
  split
  · rename_i hkey
    split
    · rename_i heq
      obtain ⟨entry, hentry, hname⟩ := List.mem_map.1 hkey
      cases hfind : entries.find? (fun entry => entry.1 = requestId) with
      | none =>
        have hnot := List.find?_eq_none.1 hfind entry hentry
        simp [hname, heq] at hnot
      | some found => rfl
    · rw [Option.or_none]
  · rw [List.find?_append, Option.map_or]
    congr 1
    by_cases heq : request.requestId = requestId <;> simp [heq]

/-- What is collected under an id is the first selected request with that id. -/
theorem get?_collect (select : ApprovalRequest → Bool) (twins : List ApprovalTwin)
    (requestId : String) :
    get? (collect select twins) requestId =
      (twins.find? (fun twin => select twin.request && twin.request.requestId = requestId)).map
        ApprovalTwin.request := by
  have haux : ∀ (rest : List ApprovalTwin) (entries : List (String × ApprovalRequest)),
      get? (rest.foldl (fun entries twin =>
          if select twin.request then setDefault entries twin.request else entries) entries)
        requestId = (get? entries requestId).or
          ((rest.find? (fun twin => select twin.request && twin.request.requestId = requestId)).map
            ApprovalTwin.request) := by
    intro rest
    induction rest with
    | nil => intro entries; simp
    | cons twin rest ih =>
      intro entries
      rw [List.foldl_cons, ih, List.find?_cons]
      by_cases hselect : select twin.request = true
      · rw [if_pos hselect, get?_setDefault, Option.or_assoc]
        congr 1
        by_cases heq : twin.request.requestId = requestId <;> simp [hselect, heq]
      · simp [hselect]
  rw [collect, haux]
  rfl

/-- A comprehension over keys is found under each of its keys. -/
private theorem get?_comprehension (keys : List String) (value : String → Option ApprovalRequest)
    (requestId : String) :
    get? (keys.filterMap (fun key => (value key).map (fun request => (key, request)))) requestId =
      if requestId ∈ keys then value requestId else none := by
  induction keys with
  | nil => rfl
  | cons key rest ih =>
    unfold get? at ih ⊢
    cases hvalue : value key with
    | none =>
      rw [List.filterMap_cons_none (by rw [hvalue]; rfl), ih]
      by_cases heq : requestId = key
      · rw [heq, hvalue]
        simp
      · simp [heq]
    | some request =>
      rw [List.filterMap_cons_some (by rw [hvalue]; rfl), List.find?_cons]
      by_cases heq : requestId = key
      · subst heq
        simp [hvalue]
      · simpa [heq, Ne.symm heq] using ih

private theorem get?_eq_none {entries : List (String × ApprovalRequest)} {requestId : String}
    (h : requestId ∉ Assoc.keys entries) : get? entries requestId = none := by
  rw [get?, Option.map_eq_none_iff, List.find?_eq_none]
  intro entry hentry heq
  exact h (List.mem_map.2 ⟨entry, hentry, by simpa using heq⟩)

/-- A terminal twin beats a pending one; within each class the first wins. -/
theorem get?_findManyByRequestId (order : SetOrder) (twins : List ApprovalTwin)
    (requestIds : List String) (requestId : String) :
    get? (findManyByRequestId order twins requestIds) requestId =
      if requestId ∈ requestIds then
        ((twins.find? (decidesRequest requestId)).or (twins.find? (asksRequest requestId))).map
          ApprovalTwin.request
      else none := by
  have hselect : ∀ (decided : String → Bool),
      get? (collect (fun request => request.requestId ∈ requestIds && decided request.status) twins)
        requestId = if requestId ∈ requestIds then
          (twins.find? (fun twin => twin.request.requestId = requestId &&
            decided twin.request.status)).map ApprovalTwin.request
        else none := by
    intro decided
    rw [get?_collect]
    split
    · rename_i hwanted
      refine congrArg (fun p => Option.map _ (List.find? p twins)) (funext fun twin => ?_)
      by_cases heq : twin.request.requestId = requestId <;> simp [heq, hwanted]
    · rename_i hwanted
      rw [Option.map_eq_none_iff, List.find?_eq_none]
      intro twin _ hfound
      simp only [Bool.and_eq_true, decide_eq_true_eq] at hfound
      exact hwanted (hfound.2 ▸ hfound.1.1)
  have hvalue := hselect (fun status => status ≠ "pending")
  have hpending := hselect (fun status => status = "pending")
  unfold findManyByRequestId
  dsimp only
  rw [get?_comprehension]
  split
  · rw [hvalue, hpending]
    split
    · rw [Option.map_or]
      rfl
    · rfl
  · rename_i hnot
    rw [order.mem_enumerate, List.mem_append, not_or] at hnot
    have hnone := get?_eq_none hnot.2
    have hnone' := get?_eq_none hnot.1
    rw [hvalue] at hnone
    rw [hpending] at hnone'
    split
    · rename_i hwanted
      rw [if_pos hwanted] at hnone hnone'
      have hdecided : (twins.find? (decidesRequest requestId)).map ApprovalTwin.request = none :=
        hnone
      have hasked : (twins.find? (asksRequest requestId)).map ApprovalTwin.request = none := hnone'
      rw [Option.map_or, hdecided, hasked]
      rfl
    · rfl

/-- The statuses that a lookup can return. -/
theorem findByRequestId_eq_some {order : SetOrder} {twins : List ApprovalTwin} {requestId : String}
    {request : ApprovalRequest} (h : findByRequestId order twins requestId = some request) :
    request.requestId = requestId ∧
      (request.status = "pending" → ∀ twin ∈ twins, decidesRequest requestId twin = false) := by
  rw [findByRequestId, get?_findManyByRequestId, if_pos (List.mem_singleton_self _)] at h
  obtain ⟨twin, hfound, rfl⟩ := Option.map_eq_some_iff.1 h
  rcases Option.or_eq_some_iff.1 hfound with hdecides | ⟨hnone, hasks⟩
  · have htwin := List.find?_some hdecides
    rw [decidesRequest, Bool.and_eq_true, decide_eq_true_eq, decide_eq_true_eq] at htwin
    exact ⟨htwin.1, fun hpending => absurd hpending htwin.2⟩
  · have htwin := List.find?_some hasks
    rw [asksRequest, Bool.and_eq_true, decide_eq_true_eq] at htwin
    refine ⟨htwin.1, fun _ other hother => ?_⟩
    simpa using List.find?_eq_none.1 hnone other hother

/-! ## Pending requests -/

/-- The loop of `get_pending`: the representation of each request, and whether
a decision has been seen. -/
def trackPending (entries : List (String × (ApprovalRequest × Bool))) (twin : ApprovalTwin) :
    List (String × (ApprovalRequest × Bool)) :=
  let request := twin.request
  match entries.find? (fun entry => entry.1 = request.requestId) with
  | none => Assoc.set entries request.requestId (request, request.status ≠ "pending")
  | some (_, _, alreadyDecided) =>
    if request.status ≠ "pending" then Assoc.set entries request.requestId (request, true)
    else if !alreadyDecided then Assoc.set entries request.requestId (request, false)
    else entries

/-- `get_pending`. -/
def getPending (host : Host) (now : Time) (twins : List ApprovalTwin) (workflowId : Option String)
    (includeExpired : Bool) : List ApprovalRequest :=
  (((twins.filter (fun twin => workflowId.all (fun id => twin.request.workflowId = id))).foldl
    trackPending []).filter (fun entry =>
      !entry.2.2 && (includeExpired || !entry.2.1.isExpired host now))).map (fun entry => entry.2.1)

/-- What the loop knows after some twins. -/
private structure Tracked (seen : List ApprovalTwin)
    (entries : List (String × (ApprovalRequest × Bool))) : Prop where
  named : ∀ entry ∈ entries, entry.2.1.requestId = entry.1
  known : ∀ twin ∈ seen, twin.request.requestId ∈ Assoc.keys entries
  undecided : ∀ entry ∈ entries, entry.2.2 = false →
    ∀ twin ∈ seen, decidesRequest entry.1 twin = false

private theorem Tracked.assign {seen : List ApprovalTwin}
    {entries : List (String × (ApprovalRequest × Bool))} {twin : ApprovalTwin} {decided : Bool}
    (h : Tracked seen entries)
    (hdecided : decided = false → twin.request.status = "pending" ∧
      ∀ other ∈ seen, decidesRequest twin.request.requestId other = false) :
    Tracked (seen ++ [twin])
      (Assoc.set entries twin.request.requestId (twin.request, decided)) := by
  refine ⟨fun entry hentry => ?_, fun other hother => ?_, fun entry hentry hfalse other hother => ?_⟩
  · rcases Assoc.mem_set hentry with rfl | ⟨hold, -⟩
    · rfl
    · exact h.named entry hold
  · rw [Assoc.keys_set]
    rcases List.mem_append.1 hother with hold | hnew
    · split
      · exact h.known other hold
      · exact List.mem_append_left _ (h.known other hold)
    · rw [List.mem_singleton.1 hnew]
      split
      · assumption
      · exact List.mem_append_right _ (List.mem_singleton_self _)
  · rcases Assoc.mem_set hentry with rfl | ⟨hold, hne⟩
    · obtain ⟨hpending, hnone⟩ := hdecided hfalse
      rcases List.mem_append.1 hother with hold | hnew
      · exact hnone other hold
      · rw [List.mem_singleton.1 hnew]
        simp [decidesRequest, hpending]
    · rcases List.mem_append.1 hother with hseen | hnew
      · exact h.undecided entry hold hfalse other hseen
      · rw [List.mem_singleton.1 hnew]
        simp [decidesRequest, Ne.symm hne]

private theorem tracked_trackPending {seen : List ApprovalTwin}
    {entries : List (String × (ApprovalRequest × Bool))} (h : Tracked seen entries)
    (twin : ApprovalTwin) : Tracked (seen ++ [twin]) (trackPending entries twin) := by
  unfold trackPending
  dsimp only
  cases hfind : entries.find? (fun entry => entry.1 = twin.request.requestId) with
  | none =>
    refine h.assign (fun hpending => ⟨by simpa using hpending, fun other hother => ?_⟩)
    by_contra hdecides
    rw [Bool.not_eq_false, decidesRequest, Bool.and_eq_true, decide_eq_true_eq] at hdecides
    obtain ⟨entry, hentry, hkey⟩ := List.mem_map.1 (h.known other hother)
    have hnot := List.find?_eq_none.1 hfind entry hentry
    simp [hkey, hdecides.1] at hnot
  | some entry =>
    obtain ⟨key, request, alreadyDecided⟩ := entry
    have hmem := List.mem_of_find?_eq_some hfind
    have hkey : key = twin.request.requestId := by simpa using List.find?_some hfind
    dsimp only
    split
    · exact h.assign (fun hfalse => nomatch hfalse)
    · rename_i hpending
      rw [not_not] at hpending
      split
      · rename_i hundecided
        refine h.assign (fun _ => ⟨hpending, ?_⟩)
        rw [← hkey]
        exact h.undecided _ hmem (by simpa using hundecided)
      · rename_i hdecided
        refine ⟨h.named, fun other hother => ?_, fun entry hentry hfalse other hother => ?_⟩
        · rcases List.mem_append.1 hother with hold | hnew
          · exact h.known other hold
          · rw [List.mem_singleton.1 hnew, ← hkey]
            exact List.mem_map.2 ⟨_, hmem, rfl⟩
        · rcases List.mem_append.1 hother with hold | hnew
          · exact h.undecided entry hentry hfalse other hold
          · rw [List.mem_singleton.1 hnew]
            simp [decidesRequest, hpending]

private theorem tracked_foldl (twins : List ApprovalTwin) :
    Tracked twins (twins.foldl trackPending []) := by
  have haux : ∀ (rest seen : List ApprovalTwin) entries, Tracked seen entries →
      Tracked (seen ++ rest) (rest.foldl trackPending entries) := by
    intro rest
    induction rest with
    | nil =>
      intro seen entries hentries
      rw [List.append_nil]
      exact hentries
    | cons twin rest ih =>
      intro seen entries hentries
      have hnext := ih _ _ (tracked_trackPending hentries twin)
      rw [List.append_assoc] at hnext
      exact hnext
  exact haux twins [] [] ⟨by simp, by simp, by simp⟩

/-- A pending request has no decision among the twins. -/
theorem undecided_of_mem_getPending {host : Host} {now : Time} {twins : List ApprovalTwin}
    {includeExpired : Bool} {request : ApprovalRequest}
    (h : request ∈ getPending host now twins none includeExpired) :
    ∀ twin ∈ twins, decidesRequest request.requestId twin = false := by
  have htracked := tracked_foldl twins
  have hall : twins.filter (fun twin =>
      (none : Option String).all (fun id => twin.request.workflowId = id)) = twins :=
    List.filter_eq_self.2 (fun _ _ => rfl)
  rw [getPending, hall] at h
  obtain ⟨entry, hentry, rfl⟩ := List.mem_map.1 h
  obtain ⟨hmem, hkept⟩ := List.mem_filter.1 hentry
  rw [Bool.and_eq_true] at hkept
  rw [htracked.named entry hmem]
  exact htracked.undecided entry hmem (by simpa using hkept.1)

/-! ## One request among the pending -/

/-- The loop of `get_pending`, as far as it concerns one request. -/
def trackOne (entry : Option (ApprovalRequest × Bool)) (twin : ApprovalTwin) :
    Option (ApprovalRequest × Bool) :=
  match entry with
  | none => some (twin.request, twin.request.status ≠ "pending")
  | some (earlier, alreadyDecided) =>
    if twin.request.status ≠ "pending" then some (twin.request, true)
    else if !alreadyDecided then some (twin.request, false)
    else some (earlier, alreadyDecided)

/-- What the loop knows of a request after its twins. -/
def tracked (twins : List ApprovalTwin) (requestId : String) : Option (ApprovalRequest × Bool) :=
  (twins.filter (fun twin => twin.request.requestId = requestId)).foldl trackOne none

theorem get?_trackPending (entries : List (String × (ApprovalRequest × Bool)))
    (twin : ApprovalTwin) (requestId : String) :
    Assoc.get? (trackPending entries twin) requestId =
      if twin.request.requestId = requestId then trackOne (Assoc.get? entries requestId) twin
      else Assoc.get? entries requestId := by
  by_cases hid : twin.request.requestId = requestId
  · subst hid
    rw [if_pos rfl]
    unfold trackPending trackOne
    dsimp only
    cases hfind : entries.find? (fun entry => entry.1 = twin.request.requestId) with
    | none =>
      rw [Assoc.get?_set_self]
      rw [show Assoc.get? entries twin.request.requestId = none by rw [Assoc.get?, hfind]; rfl]
    | some entry =>
      obtain ⟨key, earlier, alreadyDecided⟩ := entry
      rw [show Assoc.get? entries twin.request.requestId = some (earlier, alreadyDecided) by
        rw [Assoc.get?, hfind]; rfl]
      dsimp only
      split
      · rw [Assoc.get?_set_self]
      · split
        · rw [Assoc.get?_set_self]
        · rw [Assoc.get?, hfind]
          rfl
  · rw [if_neg hid]
    unfold trackPending
    dsimp only
    split
    · exact Assoc.get?_set_ne _ (Ne.symm hid)
    · split
      · exact Assoc.get?_set_ne _ (Ne.symm hid)
      · split
        · exact Assoc.get?_set_ne _ (Ne.symm hid)
        · rfl

/-- The loop handles the requests one by one. -/
theorem get?_foldl_trackPending (twins : List ApprovalTwin)
    (entries : List (String × (ApprovalRequest × Bool))) (requestId : String) :
    Assoc.get? (twins.foldl trackPending entries) requestId =
      (twins.filter (fun twin => twin.request.requestId = requestId)).foldl trackOne
        (Assoc.get? entries requestId) := by
  induction twins generalizing entries with
  | nil => rfl
  | cons twin rest ih =>
    rw [List.foldl_cons, ih, get?_trackPending, List.filter_cons]
    by_cases hid : twin.request.requestId = requestId
    · rw [if_pos hid, if_pos (decide_eq_true hid)]
      rfl
    · rw [if_neg hid, if_neg (by simpa using hid)]

private theorem nodup_foldl_trackPending (twins : List ApprovalTwin)
    (entries : List (String × (ApprovalRequest × Bool))) (h : (Assoc.keys entries).Nodup) :
    (Assoc.keys (twins.foldl trackPending entries)).Nodup := by
  induction twins generalizing entries with
  | nil => exact h
  | cons twin rest ih =>
    refine ih _ ?_
    unfold trackPending
    dsimp only
    split
    · exact Assoc.nodup_set _ _ h
    · split
      · exact Assoc.nodup_set _ _ h
      · split
        · exact Assoc.nodup_set _ _ h
        · exact h

/-- A request is pending, whether expired or not, by its own twins alone. -/
theorem mem_getPending_iff (host : Host) (now : Time) (twins : List ApprovalTwin)
    (request : ApprovalRequest) :
    request ∈ getPending host now twins none true ↔
      tracked twins request.requestId = some (request, false) := by
  have hall : twins.filter (fun twin =>
      (none : Option String).all (fun id => twin.request.workflowId = id)) = twins :=
    List.filter_eq_self.2 (fun _ _ => rfl)
  have hnodup := nodup_foldl_trackPending twins [] List.nodup_nil
  have hget := get?_foldl_trackPending twins [] request.requestId
  rw [Assoc.get?_nil] at hget
  rw [tracked, ← hget, getPending, hall]
  constructor
  · intro h
    obtain ⟨⟨key, found, decided⟩, hentry, rfl⟩ := List.mem_map.1 h
    obtain ⟨hmem, hkept⟩ := List.mem_filter.1 hentry
    have hkey : found.requestId = key := (tracked_foldl twins).named _ hmem
    have hdecided : decided = false := by simpa using hkept
    have hfound := (Assoc.mem_iff_get? hnodup _).1 hmem
    rw [hdecided] at hfound
    show Assoc.get? (twins.foldl trackPending []) found.requestId = some (found, false)
    rw [hkey]
    exact hfound
  · intro h
    refine List.mem_map.2 ⟨(request.requestId, request, false), List.mem_filter.2 ⟨?_, rfl⟩, rfl⟩
    exact (Assoc.mem_iff_get? hnodup (request.requestId, request, false)).2 h

/-- The expired requests are left out on demand. -/
theorem mem_getPending_live_iff (host : Host) (now : Time) (twins : List ApprovalTwin)
    (request : ApprovalRequest) :
    request ∈ getPending host now twins none false ↔
      tracked twins request.requestId = some (request, false) ∧
        request.isExpired host now = false := by
  rw [← mem_getPending_iff host now, getPending, getPending, List.mem_map, List.mem_map]
  constructor
  · intro ⟨entry, hentry, heq⟩
    obtain ⟨hmem, hkept⟩ := List.mem_filter.1 hentry
    rw [Bool.false_or, Bool.and_eq_true, Bool.not_eq_true', Bool.not_eq_true'] at hkept
    refine ⟨⟨entry, List.mem_filter.2 ⟨hmem, ?_⟩, heq⟩, heq ▸ hkept.2⟩
    rw [Bool.true_or, Bool.and_true, hkept.1]
    rfl
  · intro ⟨⟨entry, hentry, heq⟩, hlive⟩
    obtain ⟨hmem, hkept⟩ := List.mem_filter.1 hentry
    rw [Bool.true_or, Bool.and_true] at hkept
    refine ⟨entry, List.mem_filter.2 ⟨hmem, ?_⟩, heq⟩
    rw [hkept, heq, hlive]
    rfl

/-- No request is returned twice. -/
theorem nodup_getPending (host : Host) (now : Time) (twins : List ApprovalTwin)
    (workflowId : Option String) (includeExpired : Bool) :
    ((getPending host now twins workflowId includeExpired).map
      ApprovalRequest.requestId).Nodup := by
  unfold getPending
  let seen := twins.filter (fun twin => workflowId.all (fun id => twin.request.workflowId = id))
  have hnodup := nodup_foldl_trackPending seen [] List.nodup_nil
  have hsub : ((seen.foldl trackPending []).filter (fun entry =>
      !entry.2.2 && (includeExpired || !entry.2.1.isExpired host now))).Sublist
        (seen.foldl trackPending []) := List.filter_sublist
  have hkeys := (hsub.map Prod.fst).nodup hnodup
  rw [List.map_map]
  refine (List.map_congr_left ?_) ▸ hkeys
  intro entry hentry
  exact ((tracked_foldl seen).named entry (hsub.subset hentry)).symm

end FederatedApprovalStore

end MassClaw
