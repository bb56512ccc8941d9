import MassClaw.Safety.PendingSet
import Mathlib.Data.List.Nodup
import Mathlib.Logic.Function.Basic

/-!
# One tick of the janitor, `app/safety/approval_janitor.py`

The janitor expires the requests whose deadline has passed, those of the pending
set first and then those that only the twins know, and moves the workflow of
each from `AWAITING_APPROVAL` to `FAILED`.  The update asks for the id of the
workflow and its status; it does not ask which request the workflow is parked
on.  A workflow can own others: the review of a low-confidence output is a
request with a shorter timeout that nothing waits for, and an earlier pause can
leave a gate request behind.

A tick is taken alone, at one reading of the clock.  Which commands fail is left
open, and so is the place that a new twin takes among the others.
-/

namespace MassClaw

namespace ApprovalJanitor

open ApprovalManager

/-- What the tick reads and writes: the keys and the pending set in Redis, the
twins, and the database.  `parkedOn` is the gate request that has set a workflow
to `AWAITING_APPROVAL`. -/
structure Office where
  stored : (requestId : String) → Option (StoredRequest requestId)
  pending : List String
  nodup : pending.Nodup
  twins : List ApprovalTwin
  db : Db
  parkedOn : UUID → Option String

/-- The commands of a tick.  Those about one request come with its id. -/
inductive Command
  | smembers | get | ttl | set | leavePendingSet | writeDecision | failWorkflow | scan | dropOrphans
  deriving DecidableEq

/-- The surroundings of a tick. -/
structure Weather where
  now : Time
  fails : Command → String → Bool
  place : String → Nat

/-- What `_reap_expired` has done so far. -/
structure Tick where
  office : Office
  handled : List String := []
  orphans : List String := []
  expiredCount : Nat := 0
  transitionedCount : Nat := 0

section Commands

variable (host : Host) (weather : Weather)

/-- The driver's reading of a text as the parameter of a UUID column: hexadecimal
digits and hyphens. -/
def uuidParameter? (text : String) : Option UUID :=
  if text.length ≤ 36 ∧ text.toList.all (fun c => c = '-' || (UUID.hexValue? c).isSome) then
    UUID.parse? text
  else none

/-- `_transition_workflow_to_failed`. -/
def transitionWorkflowToFailed (db : Db) (workflowId requestId : String) : Db :=
  if weather.fails .failWorkflow requestId then db
  else
    match uuidParameter? workflowId with
    | none => db
    | some workflowId => db.updateWorkflow workflowId (fun workflow =>
        if workflow.status = .awaitingApproval then
          { workflow with
            status := .failed
            result := some [("error", .str "approval timeout"), ("request_id", .str requestId)]
            completedAt := some weather.now }
        else workflow)

/-- The commands of `_mark_expired` that are not best effort succeed. -/
def marks (stored : Option (StoredRequest requestId)) : Bool :=
  !weather.fails .ttl requestId && ttlOf stored ≠ 0 && !weather.fails .set requestId &&
    !weather.fails .leavePendingSet requestId

/-- `_mark_expired`. -/
def markExpired (office : Office) (request : RequestOf requestId) : Office :=
  let expired := request.expire (host.isoformat weather.now)
  let ttl := ttlOf (office.stored requestId)
  if weather.fails .ttl requestId then office
  else if ttl = 0 || weather.fails .set requestId then office
  else
    let office := { office with
      stored := Function.update office.stored requestId (some { request := expired, ttl }) }
    if weather.fails .leavePendingSet requestId then office
    else
      let office := { office with
        pending := office.pending.erase requestId, nodup := office.nodup.erase requestId }
      if weather.fails .writeDecision requestId then office
      else
        let place := weather.place requestId
        { office with
          twins := office.twins.take place ++ { request := expired.1 } :: office.twins.drop place }

/-- `_expire_one`, with the counts of the loop around it. -/
def Tick.expireOne (tick : Tick) (request : RequestOf requestId) : Tick :=
  let office := markExpired host weather tick.office request
  let handled := requestId :: tick.handled
  if marks weather (tick.office.stored requestId) then
    { tick with
      office := { office with
        db := transitionWorkflowToFailed weather office.db request.1.workflowId requestId }
      handled
      expiredCount := tick.expiredCount + 1
      transitionedCount := tick.transitionedCount + 1 }
  else { tick with office, handled }

/-- One id of the pending set. -/
def Tick.reapListed (tick : Tick) (requestId : String) : Tick :=
  if weather.fails .get requestId then tick
  else
    match tick.office.stored requestId with
    | none => { tick with orphans := tick.orphans ++ [requestId] }
    | some found =>
      if found.request.status ≠ "pending" || !found.request.1.isExpired host weather.now then tick
      else tick.expireOne host weather found.request

/-- A request by its own id. -/
def ownRequest (request : ApprovalRequest) : RequestOf request.requestId := ⟨request, rfl⟩

/-- One request of `_crdt_pending`. -/
def Tick.reapTwin (tick : Tick) (request : ApprovalRequest) : Tick :=
  if request.requestId ∈ tick.handled || !request.isExpired host weather.now then tick
  else
    let tick := tick.expireOne host weather (ownRequest request)
    { tick with orphans := tick.orphans.erase request.requestId }

/-- The ids that the tick reads from the pending set. -/
def listed (office : Office) : List String :=
  if weather.fails .smembers "" then [] else office.pending

/-- `_crdt_pending`. -/
def crdtPending (office : Office) : List ApprovalRequest :=
  if weather.fails .scan "" then []
  else FederatedApprovalStore.getPending host weather.now office.twins none true

/-- The ids that nothing accounts for leave the pending set. -/
def Tick.dropOrphans (tick : Tick) : Tick :=
  let unaccounted := tick.orphans.filter (· ∉ tick.handled)
  if unaccounted.isEmpty || weather.fails .dropOrphans "" then tick
  else
    { tick with office := { tick.office with
        pending := tick.office.pending.filter (· ∉ unaccounted)
        nodup := tick.office.nodup.filter _ } }

/-- `_reap_expired`. -/
def reapExpired (office : Office) : Tick :=
  let first := (listed weather office).foldl (Tick.reapListed host weather) { office }
  let second := (crdtPending host weather first.office).foldl (Tick.reapTwin host weather) first
  second.dropOrphans weather

end Commands

/-! ## The property -/

variable {host : Host} {weather : Weather} {requestId : String}

/-- The status of a workflow. -/
def Office.status? (office : Office) (workflowId : UUID) : Option WorkflowStatus :=
  (office.db.workflow? workflowId).map Workflow.status

/-- The deadline of a request has passed, and neither Redis nor the twins have a
decision on it. -/
structure ExpiredUndecided (host : Host) (now : Time) (office : Office) (requestId : String) :
    Prop where
  expired : (∃ found, office.stored requestId = some found ∧
      found.request.1.isExpired host now = true) ∨
    ∃ twin ∈ office.twins, twin.request.requestId = requestId ∧
      twin.request.isExpired host now = true
  stored : ∀ found, office.stored requestId = some found → found.request.status = "pending"
  twins : ∀ twin ∈ office.twins, FederatedApprovalStore.decidesRequest requestId twin = false

/-- The request that a workflow is parked on has expired undecided. -/
def ParkedExpired (host : Host) (now : Time) (office : Office) (workflowId : UUID) : Prop :=
  ∃ requestId, office.parkedOn workflowId = some requestId ∧
    ExpiredUndecided host now office requestId

/-- The tick moves a workflow from `AWAITING_APPROVAL` to `FAILED` only when the
request that it is parked on has expired undecided. -/
def FailsParkedOnly (host : Host) (weather : Weather) (office : Office) : Prop :=
  ∀ workflowId, office.status? workflowId = some .awaitingApproval →
    (reapExpired host weather office).office.status? workflowId = some .failed →
    ParkedExpired host weather.now office workflowId

/-! ## The requests that are due -/

/-- The first pass finds the request pending past its deadline. -/
structure DueInRedis (host : Host) (weather : Weather) (office : Office)
    (request : RequestOf requestId) : Prop where
  listed : requestId ∈ listed weather office
  read : weather.fails .get requestId = false
  stored : ∃ ttl, office.stored requestId = some { request, ttl }
  pending : request.status = "pending"
  expired : request.1.isExpired host weather.now = true

/-- The second pass finds the request pending past its deadline, and the first
pass has not. -/
structure DueInTwins (host : Host) (weather : Weather) (office : Office)
    (request : RequestOf requestId) : Prop where
  read : weather.fails .scan "" = false
  pending : request.1 ∈
    FederatedApprovalStore.getPending host weather.now office.twins none true
  expired : request.1.isExpired host weather.now = true
  unhandled : ∀ other : RequestOf requestId, ¬DueInRedis host weather office other

/-- The request is due. -/
def Due (host : Host) (weather : Weather) (office : Office) (request : RequestOf requestId) :
    Prop :=
  DueInRedis host weather office request ∨ DueInTwins host weather office request

/-- The tick expires the request and names its workflow in an update. -/
structure Reaps (host : Host) (weather : Weather) (office : Office)
    (request : RequestOf requestId) : Prop where
  due : Due host weather office request
  marks : marks weather (office.stored requestId) = true
  updates : weather.fails .failWorkflow requestId = false

theorem due_unique {office : Office} {request other : RequestOf requestId}
    (h : Due host weather office request) (h' : Due host weather office other) :
    request = other := by
  rcases h with h | h
  · rcases h' with h' | h'
    · obtain ⟨ttl, hstored⟩ := h.stored
      obtain ⟨ttl', hstored'⟩ := h'.stored
      rw [hstored] at hstored'
      cases hstored'
      rfl
    · exact absurd h (h'.unhandled request)
  · rcases h' with h' | h'
    · exact absurd h' (h.unhandled other)
    · have hpending := (FederatedApprovalStore.mem_getPending_iff _ _ _ _).1 h.pending
      have hpending' := (FederatedApprovalStore.mem_getPending_iff _ _ _ _).1 h'.pending
      rw [request.2] at hpending
      rw [other.2, hpending] at hpending'
      exact Subtype.ext (Prod.mk.inj (Option.some.inj hpending')).1

/-! ## One request -/

theorem stored_markExpired_ne (office : Office) (request : RequestOf requestId) {other : String}
    (hne : other ≠ requestId) :
    (markExpired host weather office request).stored other = office.stored other := by
  unfold markExpired
  dsimp only
  split
  · rfl
  · split
    · rfl
    · split
      · exact Function.update_of_ne hne _ _
      · split
        · exact Function.update_of_ne hne _ _
        · exact Function.update_of_ne hne _ _

theorem twins_markExpired_ne (office : Office) (request : RequestOf requestId) {other : String}
    (hne : other ≠ requestId) :
    (markExpired host weather office request).twins.filter
        (fun twin => twin.request.requestId = other) =
      office.twins.filter (fun twin => twin.request.requestId = other) := by
  unfold markExpired
  dsimp only
  split
  · rfl
  · split
    · rfl
    · split
      · rfl
      · split
        · rfl
        · dsimp only
          have hid : (request.expire (host.isoformat weather.now)).1.requestId ≠ other := by
            rw [(request.expire (host.isoformat weather.now)).2]
            exact Ne.symm hne
          rw [List.filter_append, List.filter_cons, if_neg (by simpa using hid),
            ← List.filter_append, List.take_append_drop]

theorem db_markExpired (office : Office) (request : RequestOf requestId) :
    (markExpired host weather office request).db = office.db := by
  unfold markExpired
  dsimp only
  split
  · rfl
  · split
    · rfl
    · split
      · rfl
      · split <;> rfl

/-- The update moves the workflow that it names, if that awaits an approval. -/
theorem status?_transition (office : Office) (text : String) (workflowId : UUID) :
    ({ office with db := transitionWorkflowToFailed weather office.db text requestId }).status?
        workflowId =
      if weather.fails .failWorkflow requestId = false ∧ uuidParameter? text = some workflowId then
        (office.status? workflowId).map
          (fun status => if status = .awaitingApproval then .failed else status)
      else office.status? workflowId := by
  unfold transitionWorkflowToFailed Office.status?
  cases hfails : weather.fails .failWorkflow requestId with
  | true => simp
  | false =>
    rw [if_neg (by simp)]
    cases hid : uuidParameter? text with
    | none => simp
    | some named =>
      dsimp only
      by_cases heq : named = workflowId
      · subst heq
        rw [if_pos ⟨rfl, rfl⟩, Db.workflow?_updateWorkflow, Option.map_map, Option.map_map]
        · refine congrArg (fun g => Option.map g (office.db.workflow? named))
            (funext fun workflow => ?_)
          rw [Function.comp_apply, Function.comp_apply]
          split <;> rfl
        · intro workflow
          split <;> rfl
      · rw [if_neg (fun h => heq (Option.some.inj h.2)), Db.workflow?_updateWorkflow_ne]
        · intro workflow
          split <;> rfl
        · exact Ne.symm heq

/-- Some request that is handled so far moves the workflow. -/
def Moved (host : Host) (weather : Weather) (office : Office) (handled : List String)
    (workflowId : UUID) : Prop :=
  ∃ requestId ∈ handled, ∃ request : RequestOf requestId,
    Reaps host weather office request ∧ uuidParameter? request.1.workflowId = some workflowId

/-- What holds of a tick that has begun at the office. -/
structure TickInv (host : Host) (weather : Weather) (office : Office) (tick : Tick) : Prop where
  stored : ∀ requestId, requestId ∉ tick.handled →
    tick.office.stored requestId = office.stored requestId
  twins : ∀ requestId, requestId ∉ tick.handled →
    tick.office.twins.filter (fun twin => twin.request.requestId = requestId) =
      office.twins.filter (fun twin => twin.request.requestId = requestId)
  moved : ∀ workflowId, office.status? workflowId = some .awaitingApproval →
    Moved host weather office tick.handled workflowId →
      tick.office.status? workflowId = some .failed
  kept : ∀ workflowId, office.status? workflowId = some .awaitingApproval →
    ¬Moved host weather office tick.handled workflowId →
      tick.office.status? workflowId = some .awaitingApproval

theorem tickInv_start (office : Office) : TickInv host weather office { office } := by
  refine ⟨fun _ _ => rfl, fun _ _ => rfl, fun workflowId _ hmoved => ?_, fun _ h _ => h⟩
  obtain ⟨requestId, hhandled, -⟩ := hmoved
  cases hhandled

/-- With one more request handled, the workflows that are moved are those that
it moves and those before. -/
theorem moved_cons {office : Office} {handled : List String} {request : RequestOf requestId}
    {workflowId : UUID} (hdue : Due host weather office request) :
    Moved host weather office (requestId :: handled) workflowId ↔
      (Reaps host weather office request ∧
        uuidParameter? request.1.workflowId = some workflowId) ∨
      Moved host weather office handled workflowId := by
  constructor
  · rintro ⟨id, hid, other, hreaps, hnames⟩
    rcases List.mem_cons.1 hid with rfl | hold
    · obtain rfl := due_unique hreaps.due hdue
      exact Or.inl ⟨hreaps, hnames⟩
    · exact Or.inr ⟨id, hold, other, hreaps, hnames⟩
  · rintro (⟨hreaps, hnames⟩ | ⟨id, hid, other, hreaps, hnames⟩)
    · exact ⟨requestId, List.mem_cons_self, request, hreaps, hnames⟩
    · exact ⟨id, List.mem_cons_of_mem _ hid, other, hreaps, hnames⟩

/-- The status of a workflow after one request has been handled. -/
theorem status?_expireOne (tick : Tick) (request : RequestOf requestId) (workflowId : UUID) :
    (tick.expireOne host weather request).office.status? workflowId =
      if marks weather (tick.office.stored requestId) = true ∧
          weather.fails .failWorkflow requestId = false ∧
          uuidParameter? request.1.workflowId = some workflowId then
        (tick.office.status? workflowId).map
          (fun status => if status = .awaitingApproval then .failed else status)
      else tick.office.status? workflowId := by
  have hdb : (markExpired host weather tick.office request).status? workflowId =
      tick.office.status? workflowId := by
    unfold Office.status?
    rw [db_markExpired]
  unfold Tick.expireOne
  dsimp only
  split
  · rename_i hmarks
    dsimp only
    rw [status?_transition, hdb]
    by_cases hupdates : weather.fails .failWorkflow requestId = false ∧
        uuidParameter? request.1.workflowId = some workflowId
    · rw [if_pos hupdates, if_pos ⟨hmarks, hupdates⟩]
    · rw [if_neg hupdates, if_neg (fun h => hupdates h.2)]
  · rename_i hmarks
    rw [if_neg (fun h => hmarks h.1)]
    exact hdb

/-- Handling a request that is due keeps what holds of the tick. -/
theorem tickInv_expireOne {office : Office} {tick : Tick} {request : RequestOf requestId}
    (h : TickInv host weather office tick) (hnew : requestId ∉ tick.handled)
    (hdue : Due host weather office request) :
    TickInv host weather office (tick.expireOne host weather request) := by
  have hhandled : (tick.expireOne host weather request).handled = requestId :: tick.handled := by
    unfold Tick.expireOne
    dsimp only
    split <;> rfl
  have hoffice : ∀ other, (tick.expireOne host weather request).office.stored other =
        (markExpired host weather tick.office request).stored other ∧
      (tick.expireOne host weather request).office.twins =
        (markExpired host weather tick.office request).twins := by
    intro other
    unfold Tick.expireOne
    dsimp only
    split <;> exact ⟨rfl, rfl⟩
  refine ⟨fun other hother => ?_, fun other hother => ?_, fun workflowId hstart hmoved => ?_,
    fun workflowId hstart hmoved => ?_⟩
  · rw [hhandled, List.mem_cons, not_or] at hother
    rw [(hoffice other).1, stored_markExpired_ne _ _ hother.1]
    exact h.stored other hother.2
  · rw [hhandled, List.mem_cons, not_or] at hother
    rw [(hoffice other).2, twins_markExpired_ne _ _ hother.1]
    exact h.twins other hother.2
  · rw [hhandled, moved_cons hdue] at hmoved
    rw [status?_expireOne, h.stored requestId hnew]
    by_cases hbefore : Moved host weather office tick.handled workflowId
    · rw [h.moved workflowId hstart hbefore]
      split <;> rfl
    · obtain ⟨hreaps, hnames⟩ := hmoved.resolve_right hbefore
      rw [if_pos ⟨hreaps.marks, hreaps.updates, hnames⟩, h.kept workflowId hstart hbefore]
      rfl
  · rw [hhandled, moved_cons hdue, not_or] at hmoved
    rw [status?_expireOne, h.stored requestId hnew, if_neg, h.kept workflowId hstart hmoved.2]
    rintro ⟨hmarks, hupdates, hnames⟩
    exact hmoved.1 ⟨⟨hdue, hmarks, hupdates⟩, hnames⟩

@[simp] theorem handled_expireOne (tick : Tick) (request : RequestOf requestId) :
    (tick.expireOne host weather request).handled = requestId :: tick.handled := by
  unfold Tick.expireOne
  dsimp only
  split <;> rfl

/-! ## The passes -/

/-- The first pass has handled the due requests among the ids that it has seen. -/
structure FirstInv (host : Host) (weather : Weather) (office : Office) (seen : List String)
    (tick : Tick) : Prop where
  inv : TickInv host weather office tick
  handled : ∀ requestId, requestId ∈ tick.handled ↔
    requestId ∈ seen ∧ ∃ request : RequestOf requestId, DueInRedis host weather office request

theorem firstInv_reapListed {office : Office} {seen : List String} {tick : Tick}
    {requestId : String} (h : FirstInv host weather office seen tick) (hnew : requestId ∉ seen)
    (hlisted : requestId ∈ listed weather office) :
    FirstInv host weather office (seen ++ [requestId])
      (tick.reapListed host weather requestId) := by
  have hunhandled : requestId ∉ tick.handled := fun hhandled =>
    hnew ((h.handled requestId).1 hhandled).1
  have hstored := h.inv.stored requestId hunhandled
  -- a request that is not due is passed over
  have hskip : ∀ tick', tick'.office = tick.office → tick'.handled = tick.handled →
      (∀ request : RequestOf requestId, ¬DueInRedis host weather office request) →
        FirstInv host weather office (seen ++ [requestId]) tick' := by
    intro tick' hoffice hhandled hnone
    refine ⟨⟨?_, ?_, ?_, ?_⟩, fun other => ?_⟩
    · rw [hoffice, hhandled]
      exact h.inv.stored
    · rw [hoffice, hhandled]
      exact h.inv.twins
    · rw [hoffice, hhandled]
      exact h.inv.moved
    · rw [hoffice, hhandled]
      exact h.inv.kept
    · rw [hhandled, h.handled, List.mem_append, List.mem_singleton]
      constructor
      · exact fun hold => ⟨Or.inl hold.1, hold.2⟩
      · rintro ⟨hseen | rfl, request, hdue⟩
        · exact ⟨hseen, request, hdue⟩
        · exact absurd hdue (hnone request)
  unfold Tick.reapListed
  split
  · rename_i hfails
    refine hskip tick rfl rfl (fun request hdue => ?_)
    rw [hdue.read] at hfails
    cases hfails
  · rename_i hread
    rw [hstored]
    split
    · rename_i hnone
      refine hskip _ rfl rfl (fun request hdue => ?_)
      obtain ⟨ttl, hfound⟩ := hdue.stored
      rw [hnone] at hfound
      cases hfound
    · rename_i found hfound
      split
      · rename_i hlive
        refine hskip tick rfl rfl (fun request hdue => ?_)
        obtain ⟨ttl, hsome⟩ := hdue.stored
        rw [hfound] at hsome
        cases hsome
        rw [Bool.or_eq_true, decide_eq_true_eq, hdue.expired] at hlive
        rcases hlive with hpending | hexpired
        · exact hpending hdue.pending
        · cases hexpired
      · rename_i hlate
        rw [Bool.or_eq_true, not_or, decide_eq_true_eq, not_not, Bool.not_eq_true,
          Bool.not_eq_false'] at hlate
        have hdue : DueInRedis host weather office found.request :=
          ⟨hlisted, by simpa using hread, ⟨found.ttl, hfound⟩, hlate.1, hlate.2⟩
        refine ⟨tickInv_expireOne h.inv hunhandled (Or.inl hdue), fun other => ?_⟩
        rw [handled_expireOne, List.mem_cons, h.handled, List.mem_append, List.mem_singleton]
        constructor
        · rintro (rfl | ⟨hseen, hold⟩)
          · exact ⟨Or.inr rfl, found.request, hdue⟩
          · exact ⟨Or.inl hseen, hold⟩
        · rintro ⟨hseen | rfl, hold⟩
          · exact Or.inr ⟨hseen, hold⟩
          · exact Or.inl rfl

/-- The first pass handles the requests that are due in Redis. -/
theorem firstInv_foldl {office : Office} {seen rest : List String} {tick : Tick}
    (h : FirstInv host weather office seen tick) (hnodup : (seen ++ rest).Nodup)
    (hlisted : ∀ requestId ∈ rest, requestId ∈ listed weather office) :
    FirstInv host weather office (seen ++ rest)
      (rest.foldl (Tick.reapListed host weather) tick) := by
  induction rest generalizing seen tick with
  | nil =>
    rw [List.append_nil]
    exact h
  | cons requestId rest ih =>
    have hnew : requestId ∉ seen := by
      intro hseen
      exact (List.nodup_append.1 hnodup).2.2 requestId hseen requestId List.mem_cons_self rfl
    have hnext := firstInv_reapListed h hnew (hlisted requestId List.mem_cons_self)
    rw [← List.singleton_append, ← List.append_assoc] at hnodup ⊢
    exact ih hnext hnodup (fun other hother => hlisted other (List.mem_cons_of_mem _ hother))

/-- The second pass has handled the due requests among those that it has seen. -/
structure SecondInv (host : Host) (weather : Weather) (office : Office)
    (seen : List ApprovalRequest) (tick : Tick) : Prop where
  inv : TickInv host weather office tick
  handled : ∀ requestId, requestId ∈ tick.handled ↔
    (∃ request : RequestOf requestId, DueInRedis host weather office request) ∨
      ∃ request : RequestOf requestId, request.1 ∈ seen ∧ DueInTwins host weather office request

theorem secondInv_reapTwin {office : Office} {seen : List ApprovalRequest} {tick : Tick}
    {request : ApprovalRequest} (h : SecondInv host weather office seen tick)
    (hscan : weather.fails .scan "" = false)
    (hpending : request.requestId ∉ tick.handled → request ∈
      FederatedApprovalStore.getPending host weather.now office.twins none true) :
    SecondInv host weather office (seen ++ [request]) (tick.reapTwin host weather request) := by
  unfold Tick.reapTwin
  split
  · rename_i hskip
    refine ⟨h.inv, fun other => ?_⟩
    rw [h.handled]
    constructor
    · rintro (hredis | ⟨found, hfound, hdue⟩)
      · exact Or.inl hredis
      · exact Or.inr ⟨found, List.mem_append_left _ hfound, hdue⟩
    · rintro (hredis | ⟨found, hfound, hdue⟩)
      · exact Or.inl hredis
      · rcases List.mem_append.1 hfound with hold | hnew
        · exact Or.inr ⟨found, hold, hdue⟩
        · have heq := List.mem_singleton.1 hnew
          rw [Bool.or_eq_true, decide_eq_true_eq, ← heq, hdue.expired, found.2, h.handled] at hskip
          rcases hskip with hhandled | hlate
          · exact hhandled
          · cases hlate
  · rename_i hnot
    rw [Bool.or_eq_true, not_or, decide_eq_true_eq, Bool.not_eq_true, Bool.not_eq_false'] at hnot
    have hunhandled := hnot.1
    rw [h.handled, not_or] at hunhandled
    have hdue : DueInTwins host weather office (ownRequest request) := by
      refine ⟨hscan, hpending hnot.1, hnot.2, fun other hother => ?_⟩
      exact hunhandled.1 ⟨other, hother⟩
    have hinv := tickInv_expireOne h.inv hnot.1 (Or.inr hdue)
    refine ⟨⟨hinv.stored, hinv.twins, hinv.moved, hinv.kept⟩, fun other => ?_⟩
    dsimp only
    rw [handled_expireOne, List.mem_cons, h.handled]
    constructor
    · rintro (rfl | hredis | ⟨found, hfound, hold⟩)
      · exact Or.inr ⟨ownRequest request, by simp [ownRequest], hdue⟩
      · exact Or.inl hredis
      · exact Or.inr ⟨found, List.mem_append_left _ hfound, hold⟩
    · rintro (hredis | ⟨found, hfound, hold⟩)
      · exact Or.inr (Or.inl hredis)
      · rcases List.mem_append.1 hfound with hseen | hnew
        · exact Or.inr (Or.inr ⟨found, hseen, hold⟩)
        · refine Or.inl ?_
          rw [← found.2, List.mem_singleton.1 hnew]

/-- The second pass handles the requests that are due in the twins. -/
theorem secondInv_foldl {office : Office} {seen rest : List ApprovalRequest} {tick : Tick}
    (h : SecondInv host weather office seen tick)
    (hscan : rest ≠ [] → weather.fails .scan "" = false)
    (hpending : ∀ request ∈ rest, request.requestId ∉ tick.handled → request ∈
      FederatedApprovalStore.getPending host weather.now office.twins none true) :
    SecondInv host weather office (seen ++ rest)
      (rest.foldl (Tick.reapTwin host weather) tick) := by
  induction rest generalizing seen tick with
  | nil =>
    rw [List.append_nil]
    exact h
  | cons request rest ih =>
    have hscan' := hscan (List.cons_ne_nil _ _)
    have hnext := secondInv_reapTwin h hscan' (hpending request List.mem_cons_self)
    rw [← List.singleton_append, ← List.append_assoc]
    refine ih hnext (fun _ => hscan') (fun other hother hunhandled => ?_)
    refine hpending other (List.mem_cons_of_mem _ hother) (fun hhandled => hunhandled ?_)
    rw [hnext.handled]
    rw [h.handled] at hhandled
    rcases hhandled with hredis | ⟨found, hfound, hdue⟩
    · exact Or.inl hredis
    · exact Or.inr ⟨found, List.mem_append_left _ hfound, hdue⟩

/-- The twins of a request that is not handled have not changed. -/
theorem mem_getPending_of_unhandled {office : Office} {tick : Tick}
    (h : TickInv host weather office tick) {request : ApprovalRequest}
    (hunhandled : request.requestId ∉ tick.handled) :
    request ∈ FederatedApprovalStore.getPending host weather.now tick.office.twins none true ↔
      request ∈ FederatedApprovalStore.getPending host weather.now office.twins none true := by
  rw [FederatedApprovalStore.mem_getPending_iff, FederatedApprovalStore.mem_getPending_iff,
    FederatedApprovalStore.tracked, FederatedApprovalStore.tracked, h.twins _ hunhandled]

/-- A tick handles the requests that are due. -/
theorem reapExpired_spec (host : Host) (weather : Weather) (office : Office) :
    TickInv host weather office (reapExpired host weather office) ∧
      ∀ requestId, requestId ∈ (reapExpired host weather office).handled ↔
        ∃ request : RequestOf requestId, Due host weather office request := by
  have hnodup : (listed weather office).Nodup := by
    unfold listed
    split
    · exact List.nodup_nil
    · exact office.nodup
  have hstart : FirstInv host weather office [] { office } :=
    ⟨tickInv_start office, fun requestId => by simp⟩
  let first := (listed weather office).foldl (Tick.reapListed host weather) { office }
  have hfirst : FirstInv host weather office ([] ++ listed weather office) first :=
    firstInv_foldl hstart hnodup (fun _ hlisted => hlisted)
  rw [List.nil_append] at hfirst
  have hredis : ∀ requestId, requestId ∈ first.handled ↔
      ∃ request : RequestOf requestId, DueInRedis host weather office request := by
    intro requestId
    rw [hfirst.handled]
    exact ⟨fun h => h.2, fun ⟨request, hdue⟩ => ⟨hdue.listed, request, hdue⟩⟩
  have hbetween : SecondInv host weather office [] first :=
    ⟨hfirst.inv, fun requestId => by rw [hredis]; simp⟩
  let second := (crdtPending host weather first.office).foldl (Tick.reapTwin host weather) first
  have hsecond : SecondInv host weather office ([] ++ crdtPending host weather first.office)
      second := by
    refine secondInv_foldl hbetween (fun hne => ?_) (fun request hrequest hunhandled => ?_)
    · unfold crdtPending at hne
      split at hne
      · exact absurd rfl hne
      · rename_i hscan
        simpa using hscan
    · unfold crdtPending at hrequest
      split at hrequest
      · cases hrequest
      · exact (mem_getPending_of_unhandled hfirst.inv hunhandled).1 hrequest
  rw [List.nil_append] at hsecond
  have hhandled : ∀ requestId, requestId ∈ second.handled ↔
      ∃ request : RequestOf requestId, Due host weather office request := by
    intro requestId
    rw [hsecond.handled]
    constructor
    · rintro (⟨request, hdue⟩ | ⟨request, -, hdue⟩)
      · exact ⟨request, Or.inl hdue⟩
      · exact ⟨request, Or.inr hdue⟩
    · rintro ⟨request, hdue | hdue⟩
      · exact Or.inl ⟨request, hdue⟩
      · refine Or.inr ⟨request, ?_, hdue⟩
        have hunhandled : request.1.requestId ∉ first.handled := by
          rw [request.2, hredis]
          rintro ⟨other, hother⟩
          exact hdue.unhandled other hother
        unfold crdtPending
        rw [if_neg (by rw [hdue.read]; exact Bool.false_ne_true)]
        exact (mem_getPending_of_unhandled hfirst.inv hunhandled).2 hdue.pending
  have hinv := hsecond.inv
  show TickInv host weather office (second.dropOrphans weather) ∧
    ∀ requestId, requestId ∈ (second.dropOrphans weather).handled ↔ _
  unfold Tick.dropOrphans
  dsimp only
  split
  · exact ⟨hinv, hhandled⟩
  · exact ⟨⟨hinv.stored, hinv.twins, hinv.moved, hinv.kept⟩, hhandled⟩

/-- A tick moves a workflow from `AWAITING_APPROVAL` exactly if it reaps one of
its requests, whichever. -/
theorem status?_reapExpired {office : Office} {workflowId : UUID}
    (h : office.status? workflowId = some .awaitingApproval) :
    (reapExpired host weather office).office.status? workflowId = some .failed ↔
      ∃ (requestId : String) (request : RequestOf requestId),
        Reaps host weather office request ∧
          uuidParameter? request.1.workflowId = some workflowId := by
  obtain ⟨hinv, hhandled⟩ := reapExpired_spec host weather office
  have hmoved : Moved host weather office (reapExpired host weather office).handled workflowId ↔
      ∃ (requestId : String) (request : RequestOf requestId),
        Reaps host weather office request ∧
          uuidParameter? request.1.workflowId = some workflowId := by
    constructor
    · rintro ⟨requestId, -, request, hreaps, hnames⟩
      exact ⟨requestId, request, hreaps, hnames⟩
    · rintro ⟨requestId, request, hreaps, hnames⟩
      exact ⟨requestId, (hhandled requestId).2 ⟨request, hreaps.due⟩, request, hreaps, hnames⟩
  rw [← hmoved]
  constructor
  · intro hfailed
    by_contra hnot
    rw [hinv.kept workflowId h hnot] at hfailed
    cases hfailed
  · exact hinv.moved workflowId h

/-- The tick keeps to the parked requests exactly if, whenever it reaps a request
of a waiting workflow, the request that the workflow is parked on has expired
undecided. -/
theorem failsParkedOnly_iff (host : Host) (weather : Weather) (office : Office) :
    FailsParkedOnly host weather office ↔
      ∀ (requestId : String) (request : RequestOf requestId) (workflowId : UUID),
        Reaps host weather office request →
        uuidParameter? request.1.workflowId = some workflowId →
        office.status? workflowId = some .awaitingApproval →
        ParkedExpired host weather.now office workflowId := by
  constructor
  · intro h requestId request workflowId hreaps hnames hawaits
    exact h workflowId hawaits
      ((status?_reapExpired hawaits).2 ⟨requestId, request, hreaps, hnames⟩)
  · intro h workflowId hawaits hfailed
    obtain ⟨requestId, request, hreaps, hnames⟩ := (status?_reapExpired hawaits).1 hfailed
    exact h requestId request workflowId hreaps hnames hawaits

/-! ## A review beside a gate -/

namespace ReviewBesideGate

open ApprovalManager.LateListing

/-- A request of the workflow. -/
def request (requestId action policyRule expiresAt : String) : RequestOf requestId :=
  ⟨{ requestId, workflowId := (UUID.ofNat 1).str, action, policyRule, expiresAt }, rfl⟩

/-- The review is past its deadline, the gate request has a second left. -/
def stored (requestId : String) : Option (StoredRequest requestId) :=
  if requestId = "review" then
    some { request := request requestId "review_low_confidence_output" "low_confidence_review" "00:01"
           ttl := 900 }
  else if requestId = "gate" then
    some { request := request requestId "execute_node" "high_risk_task" "00:03", ttl := 902 }
  else none

/-- The workflow is parked on the gate request. -/
def office : Office where
  stored := stored
  pending := ["review", "gate"]
  nodup := by decide
  twins := []
  db :=
    { workflows := [{ workflowId := UUID.ofNat 1, prompt := "", status := .awaitingApproval,
                      budgetLimit := 0, budgetUsed := 0, dagSnapshot := none, result := none,
                      startedAt := none, completedAt := none }]
      agents := [], tasks := [], memoryRecords := .empty, walletEvents := .empty }
  parkedOn _ := some "gate"

/-- A tick at two seconds; no command fails. -/
def fair : Weather where
  now := 2000000
  fails _ _ := false
  place _ := 0

end ReviewBesideGate

open ReviewBesideGate ApprovalManager.LateListing in
/-- The review expires and the workflow fails, with its gate request pending and
in time. -/
theorem failsParkedOnly_fails :
    ¬∀ (host : Host) (weather : Weather) (office : Office),
      FailsParkedOnly host weather office := by
  intro h
  have hfailed : (reapExpired clock fair office).office.status? (UUID.ofNat 1) = some .failed := by
    decide +kernel
  obtain ⟨requestId, hparked, hexpired⟩ := h clock fair office (UUID.ofNat 1) rfl hfailed
  cases hparked
  rcases hexpired.expired with ⟨found, hfound, hlate⟩ | ⟨twin, htwin, -⟩
  · cases hfound
    have hearly : ApprovalRequest.isExpired clock fair.now
        (request "gate" "execute_node" "high_risk_task" "00:03").1 = false := rfl
    rw [hearly] at hlate
    cases hlate
  · cases htwin

end ApprovalJanitor

end MassClaw
