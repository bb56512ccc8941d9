import MassClaw.Safety.Federated

/-!
# Agreement of nodes with the same twins

Two nodes that hold the same approval twins may have received them in different
orders.  The scan puts the twins into the order of a local column, and a set of
request ids is iterated in an order of the process.  The answers are the same
whatever these orders are exactly if the twins an answer is selected from all
carry one status.
-/

namespace MassClaw

namespace FederatedApprovalStore

/-- The approval records of a table, without the columns of its own. -/
def held (records : MemoryTable) : List MemoryRecord :=
  (records.rows.filter isScanned).map MemoryRecord.shared

/-- The tables hold the same approval records. -/
def SameTwins (a b : MemoryTable) : Prop := (held a).Perm (held b)

/-- A node: its memory table and the order in which its process iterates sets. -/
structure Replica where
  records : MemoryTable
  order : SetOrder

section Agreement

variable (host : Host) (defaults : MemoryRecord → Defaults)

/-- The status that a lookup of several requests returns for one of them. -/
def Replica.statusOfRequest (replica : Replica) (requestIds : List String) (requestId : String) :
    Option String :=
  (get? (findManyByRequestId replica.order (twins host defaults replica.records) requestIds)
    requestId).map ApprovalRequest.status

/-- The status of the decision that is found for a node of a workflow. -/
def Replica.statusOfNode (replica : Replica) (workflowId nodeId : String) : Option String :=
  (findDecisionForNode replica.order (twins host defaults replica.records) workflowId nodeId).map
    ApprovalRequest.status

/-- The replicas answer every lookup with the same status. -/
def StatusesAgree (a b : Replica) : Prop :=
  (∀ requestIds requestId, a.statusOfRequest host defaults requestIds requestId =
    b.statusOfRequest host defaults requestIds requestId) ∧
  ∀ workflowId nodeId, a.statusOfNode host defaults workflowId nodeId =
    b.statusOfNode host defaults workflowId nodeId

end Agreement

/-! ## The twins an answer is selected from -/

/-- A terminal twin that names the node. -/
def decidesNode (workflowId nodeId : String) (twin : ApprovalTwin) : Bool :=
  twin.request.workflowId = workflowId && twin.request.status ≠ "pending" &&
    twin.nodeId = some nodeId

/-- A pending twin that names the node. -/
def asksNode (workflowId nodeId : String) (twin : ApprovalTwin) : Bool :=
  twin.request.workflowId = workflowId && twin.request.status = "pending" &&
    twin.nodeId = some nodeId

/-- A terminal twin of a request that a pending twin makes for the node. -/
def decidesRequestOf (twins : List ApprovalTwin) (workflowId nodeId : String)
    (twin : ApprovalTwin) : Bool :=
  twin.request.workflowId = workflowId && twin.request.status ≠ "pending" &&
    twins.any (fun request => asksNode workflowId nodeId request &&
      request.request.requestId = twin.request.requestId)

/-- The status of a twin. -/
def statusOf (twin : ApprovalTwin) : String := twin.request.status

/-- No answer is selected among twins of different statuses.  For a node, the
terminal twins that name it come first; without one, those of its requests. -/
structure ConflictFree (twins : List ApprovalTwin) : Prop where
  requests : ∀ requestId, Selection.Agree (decidesRequest requestId) statusOf twins
  nodes : ∀ workflowId nodeId, Selection.Agree (decidesNode workflowId nodeId) statusOf twins
  joined : ∀ workflowId nodeId, (∀ twin ∈ twins, decidesNode workflowId nodeId twin = false) →
    Selection.Agree (decidesRequestOf twins workflowId nodeId) statusOf twins

/-! ## What the readers select -/

section Selected

variable {twins : List ApprovalTwin} {workflowId nodeId : String}

/-- The first pass returns the first twin that names the node, or the two
collections. -/
theorem firstPass_eq (workflowId nodeId : String) (rest : List ApprovalTwin) (found : Matches) :
    firstPass workflowId nodeId rest found =
      match rest.find? (decidesNode workflowId nodeId) with
      | some twin => .inl twin.request
      | none => .inr
        { requestIds := found.requestIds ++
            (rest.filter (asksNode workflowId nodeId)).map (fun twin => twin.request.requestId)
          decisions := found.decisions ++ (rest.filter (fun twin =>
            twin.request.workflowId = workflowId && twin.request.status ≠ "pending")).map
              ApprovalTwin.request } := by
  induction rest generalizing found with
  | nil => simp [firstPass]
  | cons twin rest ih =>
    unfold firstPass
    rw [List.find?_cons]
    by_cases hworkflow : twin.request.workflowId = workflowId
    · by_cases hpending : twin.request.status = "pending"
      · by_cases hnode : twin.nodeId = some nodeId
        · rw [if_neg (not_not.2 hworkflow), if_pos hpending, if_pos hnode, ih]
          simp [decidesNode, asksNode, hworkflow, hpending, hnode]
        · rw [if_neg (not_not.2 hworkflow), if_pos hpending, if_neg hnode, ih]
          simp [decidesNode, asksNode, hworkflow, hpending, hnode]
      · by_cases hnode : twin.nodeId = some nodeId
        · rw [if_neg (not_not.2 hworkflow), if_neg hpending, if_pos hnode]
          simp [decidesNode, hworkflow, hpending, hnode]
        · rw [if_neg (not_not.2 hworkflow), if_neg hpending, if_neg hnode, ih]
          simp [decidesNode, asksNode, hworkflow, hpending, hnode]
    · rw [if_pos hworkflow, ih]
      simp [decidesNode, asksNode, hworkflow]

/-- The decision for a node without a twin of its own is that of a request. -/
theorem findDecisionForNode_of_joined (order : SetOrder)
    (hnone : twins.find? (decidesNode workflowId nodeId) = none) :
    (∀ decision, findDecisionForNode order twins workflowId nodeId = some decision →
      ∃ twin ∈ twins, decidesRequestOf twins workflowId nodeId twin = true ∧
        twin.request = decision) ∧
    (findDecisionForNode order twins workflowId nodeId = none →
      ∀ twin ∈ twins, decidesRequestOf twins workflowId nodeId twin = false) := by
  unfold findDecisionForNode
  rw [firstPass_eq, hnone]
  dsimp only [List.nil_append]
  constructor
  · intro decision hfound
    obtain ⟨requestId, hid, hdecision⟩ := List.exists_of_findSome?_eq_some hfound
    have hmem := List.mem_of_find?_eq_some hdecision
    have hsame : decision.requestId = requestId := by simpa using List.find?_some hdecision
    obtain ⟨twin, htwin, rfl⟩ := List.mem_map.1 hmem
    obtain ⟨htwin, hdecides⟩ := List.mem_filter.1 htwin
    rw [order.mem_enumerate] at hid
    obtain ⟨request, hrequest, heq⟩ := List.mem_map.1 hid
    obtain ⟨hrequest, hasks⟩ := List.mem_filter.1 hrequest
    refine ⟨twin, htwin, ?_, rfl⟩
    rw [decidesRequestOf, hdecides, Bool.true_and, List.any_eq_true]
    exact ⟨request, hrequest, by simp [hasks, heq, hsame]⟩
  · intro hfound twin htwin
    by_contra hjoined
    rw [Bool.not_eq_false, decidesRequestOf, Bool.and_eq_true, List.any_eq_true] at hjoined
    obtain ⟨hdecides, request, hrequest, hasks⟩ := hjoined
    rw [Bool.and_eq_true, decide_eq_true_eq] at hasks
    have hid : twin.request.requestId ∈ order.enumerate
        ((twins.filter (asksNode workflowId nodeId)).map (fun twin => twin.request.requestId)) := by
      rw [order.mem_enumerate]
      exact List.mem_map.2 ⟨request, List.mem_filter.2 ⟨hrequest, hasks.1⟩, hasks.2⟩
    have hmissing := List.findSome?_eq_none_iff.1 hfound _ hid
    have hdecision : twin.request ∈ (twins.filter (fun twin =>
        twin.request.workflowId = workflowId && twin.request.status ≠ "pending")).map
          ApprovalTwin.request :=
      List.mem_map.2 ⟨twin, List.mem_filter.2 ⟨htwin, hdecides⟩, rfl⟩
    have hnot := List.find?_eq_none.1 hmissing _ hdecision
    simp at hnot

end Selected

/-! ## The scan of a replica -/

section Scan

variable {host : Host} {defaults : MemoryRecord → Defaults} {records records' : MemoryTable}

/-- A scan finds the twins that are held, in an order of its own. -/
theorem twins_perm (host : Host) (defaults : MemoryRecord → Defaults) (records : MemoryTable) :
    (twins host defaults records).Perm ((held records).filterMap (decodeRecord host defaults)) := by
  have hheld : (held records).filterMap (decodeRecord host defaults) =
      (records.rows.filter isScanned).filterMap (decodeRecord host defaults) := by
    rw [held, List.filterMap_map]
    rfl
  rw [hheld]
  exact ((Selection.newestFirst_perm _ _).filter _).filterMap _

theorem SameTwins.perm (h : SameTwins records records') :
    (twins host defaults records).Perm (twins host defaults records') :=
  (twins_perm host defaults records).trans
    ((h.filterMap _).trans (twins_perm host defaults records').symm)

/-- The twin of the newest row is scanned first. -/
theorem twins_of_newest (records : MemoryTable) (row : MemoryRecord) {twin : ApprovalTwin}
    (hrow : row ∈ records.rows)
    (hnewest : ∀ other ∈ records.rows, other ≠ row → other.createdAt < row.createdAt)
    (hscanned : isScanned row = true) (hdecoded : decodeRecord host defaults row = some twin) :
    ∃ rest, twins host defaults records = twin :: rest := by
  obtain ⟨rest, hrest⟩ := Selection.newestFirst_eq_cons hrow hnewest
  refine ⟨(rest.filter isScanned).filterMap (decodeRecord host defaults), ?_⟩
  rw [twins, scan, hrest, List.filter_cons_of_pos (by exact hscanned), List.filterMap_cons_some]
  exact hdecoded

/-- The table in which one row is newer than all others. -/
def promoted (records : MemoryTable) (memoryId : RowId) : MemoryTable :=
  records.mapRows (fun row => { row with createdAt := if row.memoryId = memoryId then 1 else 0 })
    (fun _ => rfl) (fun _ => rfl)

theorem sameTwins_promoted (records : MemoryTable) (memoryId : RowId) :
    SameTwins (promoted records memoryId) records := by
  have hheld : held (promoted records memoryId) = held records := by
    unfold held promoted Table.mapRows
    rw [List.filter_map, List.map_map]
    rfl
  rw [SameTwins, hheld]

/-- The twin of the promoted row is scanned first. -/
theorem twins_promoted {row : MemoryRecord} {twin : ApprovalTwin} (hrow : row ∈ records.rows)
    (hscanned : isScanned row = true) (hdecoded : decodeRecord host defaults row = some twin) :
    ∃ rest, twins host defaults (promoted records row.memoryId) = twin :: rest := by
  have hmem : { row with createdAt := 1 } ∈ (promoted records row.memoryId).rows :=
    List.mem_map.2 ⟨row, hrow, by rw [if_pos rfl]⟩
  have hnewest : ∀ other ∈ (promoted records row.memoryId).rows,
      other ≠ { row with createdAt := 1 } → other.createdAt < 1 := by
    intro other hother hne
    obtain ⟨old, hold, rfl⟩ := List.mem_map.1 hother
    by_cases hid : old.memoryId = row.memoryId
    · have heq : old = row := Table.eq_of_rowId hold hrow hid
      subst heq
      exact absurd (by rw [if_pos rfl]) hne
    · show (if old.memoryId = row.memoryId then (1 : Int) else 0) < 1
      rw [if_neg hid]
      exact Int.zero_lt_one
  exact twins_of_newest _ _ hmem hnewest hscanned hdecoded

/-- A twin of a table is the decoded form of a scanned row. -/
theorem exists_row_of_twin {twin : ApprovalTwin} (h : twin ∈ twins host defaults records) :
    ∃ row ∈ records.rows, isScanned row = true ∧ decodeRecord host defaults row = some twin := by
  obtain ⟨row, hrow, hdecoded⟩ := List.mem_filterMap.1 h
  obtain ⟨hrow, hscanned⟩ := List.mem_filter.1 hrow
  exact ⟨row, (Selection.mem_newestFirst _).1 hrow, hscanned, hdecoded⟩

end Scan

/-! ## Agreement -/

section Theorem

variable {host : Host} {defaults : MemoryRecord → Defaults}

theorem ConflictFree.perm {twins twins' : List ApprovalTwin} (h : ConflictFree twins)
    (hperm : twins.Perm twins') : ConflictFree twins' where
  requests requestId := (h.requests requestId).perm hperm
  nodes workflowId nodeId := (h.nodes workflowId nodeId).perm hperm
  joined workflowId nodeId hnone := by
    have hsame : decidesRequestOf twins' workflowId nodeId =
        decidesRequestOf twins workflowId nodeId := by
      funext twin
      unfold decidesRequestOf
      rw [hperm.any_eq]
    rw [hsame]
    exact (h.joined workflowId nodeId (fun twin htwin => hnone twin (hperm.mem_iff.1 htwin))).perm
      hperm

/-- The status a lookup of requests returns. -/
theorem statusOfRequest_eq (replica : Replica) (requestIds : List String) (requestId : String) :
    replica.statusOfRequest host defaults requestIds requestId =
      if requestId ∈ requestIds then
        (((twins host defaults replica.records).find? (decidesRequest requestId)).map statusOf).or
          (((twins host defaults replica.records).find? (asksRequest requestId)).map statusOf)
      else none := by
  unfold Replica.statusOfRequest
  rw [get?_findManyByRequestId]
  split
  · rw [Option.map_map, Option.map_or]
    rfl
  · rfl

/-- A terminal twin that is scanned first decides its request. -/
theorem statusOfRequest_of_head (replica : Replica) {requestId : String} {twin : ApprovalTwin}
    {rest : List ApprovalTwin} (hhead : twins host defaults replica.records = twin :: rest)
    (hdecides : decidesRequest requestId twin = true) :
    replica.statusOfRequest host defaults [requestId] requestId = some (statusOf twin) := by
  rw [statusOfRequest_eq, hhead, List.find?_cons_of_pos hdecides, if_pos (List.mem_singleton_self _)]
  rfl

/-- The first twin that names the node decides it. -/
theorem statusOfNode_of_find (replica : Replica) {workflowId nodeId : String} {twin : ApprovalTwin}
    (h : (twins host defaults replica.records).find? (decidesNode workflowId nodeId) = some twin) :
    replica.statusOfNode host defaults workflowId nodeId = some (statusOf twin) := by
  rw [Replica.statusOfNode, findDecisionForNode, firstPass_eq, h]
  rfl

/-- Without conflicts, the status for a node depends on the twins alone. -/
theorem statusOfNode_eq {a b : Replica} (hfree : ConflictFree (twins host defaults a.records))
    (hperm : (twins host defaults a.records).Perm (twins host defaults b.records))
    (workflowId nodeId : String) :
    a.statusOfNode host defaults workflowId nodeId =
      b.statusOfNode host defaults workflowId nodeId := by
  have hfirst := Selection.find?_map_perm (hfree.nodes workflowId nodeId) hperm
  cases hfind : (twins host defaults a.records).find? (decidesNode workflowId nodeId) with
  | some twin =>
    rw [hfind, Option.map_some] at hfirst
    obtain ⟨twin', hfind', hstatus⟩ := Option.map_eq_some_iff.1 hfirst.symm
    rw [statusOfNode_of_find a hfind, statusOfNode_of_find b hfind', hstatus]
  | none =>
    rw [hfind, Option.map_none] at hfirst
    have hfind' := Option.map_eq_none_iff.1 hfirst.symm
    have hnone : ∀ twin ∈ twins host defaults a.records,
        decidesNode workflowId nodeId twin = false := by
      intro twin htwin
      simpa using List.find?_eq_none.1 hfind twin htwin
    have hagree := hfree.joined workflowId nodeId hnone
    have hsame : decidesRequestOf (twins host defaults b.records) workflowId nodeId =
        decidesRequestOf (twins host defaults a.records) workflowId nodeId := by
      funext twin
      unfold decidesRequestOf
      rw [hperm.any_eq]
    obtain ⟨hsomeA, hnoneA⟩ := findDecisionForNode_of_joined a.order hfind
    obtain ⟨hsomeB, hnoneB⟩ := findDecisionForNode_of_joined b.order hfind'
    unfold Replica.statusOfNode
    cases hdecisionA : findDecisionForNode a.order (twins host defaults a.records) workflowId
        nodeId with
    | none =>
      cases hdecisionB : findDecisionForNode b.order (twins host defaults b.records) workflowId
          nodeId with
      | none => rfl
      | some decision =>
        obtain ⟨twin, htwin, hdecides, -⟩ := hsomeB decision hdecisionB
        rw [hsame, hnoneA hdecisionA twin (hperm.mem_iff.2 htwin)] at hdecides
        cases hdecides
    | some decision =>
      obtain ⟨twin, htwin, hdecides, rfl⟩ := hsomeA decision hdecisionA
      cases hdecisionB : findDecisionForNode b.order (twins host defaults b.records) workflowId
          nodeId with
      | none =>
        have hfalse := hnoneB hdecisionB twin (hperm.mem_iff.1 htwin)
        rw [hsame, hdecides] at hfalse
        cases hfalse
      | some decision' =>
        obtain ⟨twin', htwin', hdecides', rfl⟩ := hsomeB decision' hdecisionB
        rw [hsame] at hdecides'
        exact congrArg some (hagree twin htwin twin' (hperm.mem_iff.2 htwin') hdecides hdecides')

/-- Without conflicts, replicas with the same twins agree. -/
theorem ConflictFree.statusesAgree {a b : Replica}
    (hfree : ConflictFree (twins host defaults a.records))
    (hperm : (twins host defaults a.records).Perm (twins host defaults b.records)) :
    StatusesAgree host defaults a b := by
  refine ⟨?_, fun workflowId nodeId => statusOfNode_eq hfree hperm workflowId nodeId⟩
  intro requestIds requestId
  have hasked : Selection.Agree (asksRequest requestId) statusOf
      (twins host defaults a.records) := by
    intro twin _ twin' _ hasks hasks'
    rw [asksRequest, Bool.and_eq_true, decide_eq_true_eq, decide_eq_true_eq] at hasks hasks'
    rw [statusOf, statusOf, hasks.2, hasks'.2]
  rw [statusOfRequest_eq, statusOfRequest_eq,
    Selection.find?_map_perm (hfree.requests requestId) hperm,
    Selection.find?_map_perm hasked hperm]

/-- The order in which one text, if it is there, comes first. -/
def startingWith (item : String) : SetOrder where
  enumerate items := if item ∈ items then item :: items else items
  mem_enumerate items other := by
    split
    · rename_i hitem
      rw [List.mem_cons]
      constructor
      · rintro (rfl | hother)
        · exact hitem
        · exact hother
      · exact Or.inr
    · exact Iff.rfl

/-- The joined decision of the first scanned twin is found when the order
starts with its request. -/
theorem statusOfNode_of_head {replica : Replica} {workflowId nodeId : String} {twin : ApprovalTwin}
    {rest : List ApprovalTwin} (hhead : twins host defaults replica.records = twin :: rest)
    (horder : replica.order = startingWith twin.request.requestId)
    (hnone : (twin :: rest).find? (decidesNode workflowId nodeId) = none)
    (hjoined : decidesRequestOf (twin :: rest) workflowId nodeId twin = true) :
    replica.statusOfNode host defaults workflowId nodeId = some (statusOf twin) := by
  rw [decidesRequestOf, Bool.and_eq_true, List.any_eq_true] at hjoined
  obtain ⟨hdecides, request, hrequest, hasks⟩ := hjoined
  rw [Bool.and_eq_true, decide_eq_true_eq] at hasks
  have hid : twin.request.requestId ∈ ((twin :: rest).filter (asksNode workflowId nodeId)).map
      (fun twin => twin.request.requestId) :=
    List.mem_map.2 ⟨request, List.mem_filter.2 ⟨hrequest, hasks.1⟩, hasks.2⟩
  rw [Replica.statusOfNode, hhead, horder, findDecisionForNode, firstPass_eq, hnone]
  dsimp only [List.nil_append, startingWith]
  have hfind : (((twin :: rest).filter (fun twin =>
      twin.request.workflowId = workflowId && twin.request.status ≠ "pending")).map
        ApprovalTwin.request).find? (fun decision => decision.requestId = twin.request.requestId) =
          some twin.request := by
    rw [List.filter_cons, if_pos hdecides, List.map_cons]
    exact List.find?_cons_of_pos (by simp)
  rw [if_pos hid, List.findSome?_cons]
  unfold Matches.decision?
  rw [hfind]
  rfl

/-- Replicas with the same twins agree on every status, whatever the orders in
which they received them, exactly if no answer is selected among twins of
different statuses. -/
theorem statusesAgree_iff (records : MemoryTable) :
    (∀ a b : Replica, SameTwins a.records records → SameTwins b.records records →
      StatusesAgree host defaults a b) ↔ ConflictFree (twins host defaults records) := by
  constructor
  · intro hagree
    -- The replica that received the row of a twin last.
    have hreplica : ∀ twin ∈ twins host defaults records, ∃ replica : Replica,
        SameTwins replica.records records ∧
          replica.order = startingWith twin.request.requestId ∧
          ∃ rest, twins host defaults replica.records = twin :: rest := by
      intro twin htwin
      obtain ⟨row, hrow, hscanned, hdecoded⟩ := exists_row_of_twin htwin
      exact ⟨⟨promoted records row.memoryId, startingWith twin.request.requestId⟩,
        sameTwins_promoted records row.memoryId, rfl, twins_promoted hrow hscanned hdecoded⟩
    constructor
    · intro requestId twin htwin twin' htwin' hdecides hdecides'
      obtain ⟨a, hsame, -, rest, hhead⟩ := hreplica twin htwin
      obtain ⟨b, hsame', -, rest', hhead'⟩ := hreplica twin' htwin'
      have heq := (hagree a b hsame hsame').1 [requestId] requestId
      rw [statusOfRequest_of_head a hhead hdecides, statusOfRequest_of_head b hhead' hdecides'] at heq
      exact Option.some.inj heq
    · intro workflowId nodeId twin htwin twin' htwin' hdecides hdecides'
      obtain ⟨a, hsame, -, rest, hhead⟩ := hreplica twin htwin
      obtain ⟨b, hsame', -, rest', hhead'⟩ := hreplica twin' htwin'
      have heq := (hagree a b hsame hsame').2 workflowId nodeId
      have hfirst : (twins host defaults a.records).find? (decidesNode workflowId nodeId) =
          some twin := by
        rw [hhead, List.find?_cons_of_pos hdecides]
      have hfirst' : (twins host defaults b.records).find? (decidesNode workflowId nodeId) =
          some twin' := by
        rw [hhead', List.find?_cons_of_pos hdecides']
      rw [statusOfNode_of_find a hfirst, statusOfNode_of_find b hfirst'] at heq
      exact Option.some.inj heq
    · intro workflowId nodeId hnone twin htwin twin' htwin' hdecides hdecides'
      have hstatus : ∀ (replica : Replica) (twin : ApprovalTwin) (rest : List ApprovalTwin),
          SameTwins replica.records records →
          replica.order = startingWith twin.request.requestId →
          twins host defaults replica.records = twin :: rest →
          decidesRequestOf (twins host defaults records) workflowId nodeId twin = true →
          replica.statusOfNode host defaults workflowId nodeId = some (statusOf twin) := by
        intro replica twin rest hsame horder hhead hdecides
        have hperm : (twins host defaults replica.records).Perm (twins host defaults records) :=
          hsame.perm
        rw [hhead] at hperm
        refine statusOfNode_of_head hhead horder ?_ ?_
        · rw [List.find?_eq_none]
          intro other hother
          rw [hnone other (hperm.mem_iff.1 hother)]
          exact Bool.false_ne_true
        · unfold decidesRequestOf at hdecides ⊢
          rw [hperm.any_eq]
          exact hdecides
      obtain ⟨a, hsame, horder, rest, hhead⟩ := hreplica twin htwin
      obtain ⟨b, hsame', horder', rest', hhead'⟩ := hreplica twin' htwin'
      have heq := (hagree a b hsame hsame').2 workflowId nodeId
      rw [hstatus a twin rest hsame horder hhead hdecides,
        hstatus b twin' rest' hsame' horder' hhead' hdecides'] at heq
      exact Option.some.inj heq
  · intro hfree a b hsame hsame'
    exact (hfree.perm (hsame.perm).symm).statusesAgree (hsame.perm.trans hsame'.perm.symm)

end Theorem

/-! ## A request that two peers decided -/

namespace Disagreement

def denied : ApprovalRequest where
  requestId := "r"
  workflowId := "w"
  action := "tool_call"
  policyRule := "high_cost"
  status := "denied"
  decidedBy := some "alice"

def approved : ApprovalRequest := { denied with status := "approved", decidedBy := some "bob" }

/-- The decision twin of a peer, inserted at the given time. -/
def received (decision : ApprovalRequest) (contentHash : String) (createdAt : Time) :
    MemoryRecord where
  workflowId := none
  sourceAgentId := none
  memoryType := .metaType
  content := "approval.decision:r:" ++ decision.status
  metadata := metadataFor decision none
  confidence := .finite 1
  contentHash := some contentHash
  createdAt := createdAt

/-- The store that received the denial first. -/
def deniedFirst : MemoryTable :=
  (Table.empty.push (received denied "zd" 0) (by decide)).push (received approved "za" 1) (by decide)

/-- The store that received the approval first. -/
def approvedFirst : MemoryTable :=
  (Table.empty.push (received approved "za" 0) (by decide)).push (received denied "zd" 1) (by decide)

end Disagreement

open Disagreement in
/-- Two stores with an approval and a denial of one request answer with the one
that they received last. -/
theorem statusesAgree_fails :
    ¬∃ (host : Host) (defaults : MemoryRecord → Defaults), ∀ a b : Replica,
      SameTwins a.records b.records → StatusesAgree host defaults a b := by
  intro ⟨host, defaults, h⟩
  let a : Replica := ⟨deniedFirst, startingWith "r"⟩
  let b : Replica := ⟨approvedFirst, startingWith "r"⟩
  have hdecoded : ∀ (decision : ApprovalRequest) (contentHash : String) (createdAt : Time)
      (memoryId : RowId), decodeRecord host defaults
        { received decision contentHash createdAt with memoryId } =
          some { request := decision, nodeId := none } := by
    intro decision contentHash createdAt memoryId
    show (ApprovalRequest.validate? _ decision.dump).map _ = _
    rw [ApprovalRequest.validate?_dump]
    rfl
  have hnewest : ∀ (older newer : MemoryRecord), older.createdAt = 0 → newer.createdAt = 1 →
      ∀ other ∈ [older, newer], other ≠ newer → other.createdAt < newer.createdAt := by
    intro older newer hold hnew other hother hne
    rcases List.mem_cons.1 hother with rfl | hother
    · rw [hold, hnew]
      exact Int.zero_lt_one
    · exact absurd (List.mem_singleton.1 hother) hne
  obtain ⟨rest, hhead⟩ := twins_of_newest deniedFirst
    { received approved "za" 1 with memoryId := 1 }
    (List.mem_cons_of_mem _ (List.mem_singleton_self _)) (hnewest _ _ rfl rfl) (by decide)
    (hdecoded approved "za" 1 1)
  obtain ⟨rest', hhead'⟩ := twins_of_newest approvedFirst
    { received denied "zd" 1 with memoryId := 1 }
    (List.mem_cons_of_mem _ (List.mem_singleton_self _)) (hnewest _ _ rfl rfl) (by decide)
    (hdecoded denied "zd" 1 1)
  have hsame : SameTwins a.records b.records := List.Perm.swap _ _ _
  have hstatus := (h a b hsame).1 ["r"] "r"
  rw [statusOfRequest_of_head a hhead (by decide),
    statusOfRequest_of_head b hhead' (by decide)] at hstatus
  exact absurd hstatus (by decide)

end FederatedApprovalStore

end MassClaw
