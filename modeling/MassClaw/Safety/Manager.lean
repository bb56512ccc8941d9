import MassClaw.Lib.Interleave
import MassClaw.Lib.Transition
import MassClaw.Safety.Federated

/-!
# Deciding an approval, `app/safety/approval.py` and its callers

A request lives in two places: as a key in Redis, and as twins in the memory
table.  Four calls decide it.  `approve` and `deny` check the key and replace
it; their endpoints in `app/api/approvals.py` fall back to the twins when the
key is gone.  `_mark_expired` replaces the key without a check, and the janitor
`_reap_expired` calls it for what it finds expired in either place.

Every command of a call is a step of its own: a Redis command, a query or a
write of the memory table.  The state is what a node holds of one request, so
the commands of a call on other requests are left out; a request that a call
carries has the id as an invariant.  A twin that is written takes a place among
the others that the model leaves open.
-/

namespace MassClaw

/-- A request with the given id. -/
def RequestOf (requestId : String) : Type :=
  { request : ApprovalRequest // request.requestId = requestId }

/-- The two decisions of a reviewer. -/
inductive Decision
  | approved | denied

/-- `request.status`. -/
def Decision.status : Decision → String
  | approved => "approved"
  | denied => "denied"

namespace RequestOf

variable {requestId : String}

theorem hasId (request : RequestOf requestId) : request.1.requestId = requestId := request.2

/-- The request as one with the given id. -/
def of? (requestId : String) (request : ApprovalRequest) : Option (RequestOf requestId) :=
  if h : request.requestId = requestId then some ⟨request, h⟩ else none

/-- `request.status`. -/
def status (request : RequestOf requestId) : String := request.1.status

/-- The assignments of `_decide`. -/
def decide (request : RequestOf requestId) (decision : Decision) (decidedBy : String)
    (reason : Option String) (decidedAt : String) : RequestOf requestId :=
  ⟨{ request.1 with
      status := decision.status
      decidedAt := some decidedAt
      decidedBy := some decidedBy
      context := match reason with
        | none => request.1.context
        | some reason => Assoc.set request.1.context "denial_reason" (.str reason) }, request.hasId⟩

/-- The assignments of `_mark_expired`. -/
def expire (request : RequestOf requestId) (decidedAt : String) : RequestOf requestId :=
  ⟨{ request.1 with status := "expired", decidedAt := some decidedAt }, request.hasId⟩

theorem of?_eq_some {request : ApprovalRequest} {found : RequestOf requestId}
    (h : of? requestId request = some found) : found.1 = request := by
  unfold of? at h
  split at h
  · cases h
    rfl
  · cases h

@[simp] theorem status_decide (request : RequestOf requestId) (decision : Decision)
    (decidedBy : String) (reason : Option String) (decidedAt : String) :
    (request.decide decision decidedBy reason decidedAt).status = decision.status := rfl

@[simp] theorem status_expire (request : RequestOf requestId) (decidedAt : String) :
    (request.expire decidedAt).status = "expired" := rfl

end RequestOf

theorem Decision.status_ne_pending (decision : Decision) : decision.status ≠ "pending" := by
  cases decision <;> decide

namespace ApprovalManager

/-- What a call does next. -/
inductive Phase (requestId : String)
  /-- `_decide`: GET the key. -/
  | readKey (decision : Decision) (decidedBy : String) (reason : Option String)
      (fallback : Bool)
  /-- The endpoint: `_hydrate_from_crdt`, and `write_decision`. -/
  | hydrate (decision : Decision) (decidedBy : String) (reason : Option String)
  | writeTwin (request : RequestOf requestId)
  /-- `_reap_expired`: SMEMBERS, GET, the scan of the twins, the last SREM. -/
  | readPendingSet
  | readExpired
  | scanTwins (orphan : Bool)
  | dropOrphan
  /-- `_decide` and `_mark_expired`: TTL, SET, SREM and the twin. -/
  | readTtl (request : RequestOf requestId)
  | setKey (request : RequestOf requestId) (ttl : Int)
  | leavePendingSet (request : RequestOf requestId)
  | writeDecision (request : RequestOf requestId)
  /-- The call has returned the request. -/
  | succeeded (request : RequestOf requestId)
  /-- The call has raised, or found nothing to do. -/
  | ended

/-- The decided request that a call carries. -/
def Phase.carried {requestId : String} : Phase requestId → Option (RequestOf requestId)
  | .writeTwin request => some request
  | .readTtl request => some request
  | .setKey request _ => some request
  | .leavePendingSet request => some request
  | .writeDecision request => some request
  | .succeeded request => some request
  | _ => none

/-- A call in progress; `late` when a decision was visible when it began. -/
structure Call (requestId : String) where
  phase : Phase requestId
  late : Bool

/-- The key in Redis, with the TTL that Redis reports. -/
structure StoredRequest (requestId : String) where
  request : RequestOf requestId
  ttl : Int

/-- A decision that a call has stored. -/
structure Effect (requestId : String) where
  request : RequestOf requestId
  late : Bool

/-- What a node holds of one request.  `decisions` and `written` list what its
calls have set in Redis and written to the memory table. -/
structure Holding (requestId : String) where
  stored : Option (StoredRequest requestId) := none
  pending : Bool := false
  twins : List ApprovalTwin := []
  decisions : List (Effect requestId) := []
  written : List (Effect requestId) := []

/-- What the environment chooses for a command: the clock, whether the command
fails, and the place of a twin. -/
structure Input where
  now : Time
  failing : Bool := false
  place : Nat := 0

/-- A node with the calls on one request. -/
abbrev Node (requestId : String) := Interleave.Config (Holding requestId) (Call requestId)

section Commands

variable (host : Host) (order : SetOrder) {requestId : String}

/-- A decision is visible in the memory table. -/
def Holding.isDecided (holding : Holding requestId) : Bool :=
  holding.twins.any (FederatedApprovalStore.decidesRequest requestId)

/-- A twin arrives at the given place of the scan. -/
def Holding.insertTwin (holding : Holding requestId) (twin : ApprovalTwin) (place : Nat) :
    Holding requestId :=
  { holding with twins := holding.twins.take place ++ twin :: holding.twins.drop place }

/-- `write_decision` on behalf of a call. -/
def Holding.writeDecision (holding : Holding requestId) (request : RequestOf requestId)
    (late : Bool) (place : Nat) : Holding requestId :=
  { holding.insertTwin { request := request.1 } place with
    written := holding.written ++ [{ request, late }] }

/-- `"already" in msg`, for the message that names a missing request. -/
def mentionsAlready (requestId : String) : Bool := "already".toList <:+: requestId.toList

/-- `TTL`, and the fallback for a key without one. -/
def ttlOf (stored : Option (StoredRequest requestId)) : Int :=
  match stored with
  | none => 60
  | some found => if found.ttl < 0 then 60 else found.ttl

/-- The expired request of the second pass of `_reap_expired`. -/
def expiredTwin? (holding : Holding requestId) (now : Time) : Option (RequestOf requestId) :=
  ((FederatedApprovalStore.getPending host now holding.twins none true).filter
    (fun request => request.isExpired host now)).findSome? (RequestOf.of? requestId)

/-- Perform the next command of a call. -/
def Call.run (holding : Holding requestId) (call : Call requestId) (input : Input) :
    Holding requestId × Call requestId :=
  let decidedAt := host.isoformat input.now
  let goTo (phase : Phase requestId) : Call requestId := { call with phase }
  match call.phase with
  | .readKey decision decidedBy reason fallback =>
    if input.failing then (holding, goTo .ended)
    else
      match holding.stored with
      | none =>
        if fallback && !mentionsAlready requestId then
          (holding, goTo (.hydrate decision decidedBy reason))
        else (holding, goTo .ended)
      | some found =>
        if found.request.status ≠ "pending" then (holding, goTo .ended)
        else
          (holding, goTo (.readTtl (found.request.decide decision decidedBy reason decidedAt)))
  | .hydrate decision decidedBy reason =>
    if input.failing then (holding, goTo .ended)
    else
      match (FederatedApprovalStore.findByRequestId order holding.twins requestId).bind
          (RequestOf.of? requestId) with
      | none => (holding, goTo .ended)
      | some found =>
        if found.status ≠ "pending" then (holding, goTo .ended)
        else (holding, goTo (.writeTwin (found.decide decision decidedBy reason decidedAt)))
  | .writeTwin request =>
    if input.failing then (holding, goTo .ended)
    else (holding.writeDecision request call.late input.place, goTo (.succeeded request))
  | .readPendingSet =>
    if !input.failing && holding.pending then (holding, goTo .readExpired)
    else (holding, goTo (.scanTwins false))
  | .readExpired =>
    if input.failing then (holding, goTo (.scanTwins false))
    else
      match holding.stored with
      | none => (holding, goTo (.scanTwins true))
      | some found =>
        if found.request.status = "pending" && found.request.1.isExpired host input.now then
          (holding, goTo (.readTtl (found.request.expire decidedAt)))
        else (holding, goTo (.scanTwins false))
  | .scanTwins orphan =>
    match if input.failing then none else expiredTwin? host holding input.now with
    | some request => (holding, goTo (.readTtl (request.expire decidedAt)))
    | none => (holding, goTo (if orphan then .dropOrphan else .ended))
  | .dropOrphan =>
    if input.failing then (holding, goTo .ended)
    else ({ holding with pending := false }, goTo .ended)
  | .readTtl request =>
    if input.failing then (holding, goTo .ended)
    else (holding, goTo (.setKey request (ttlOf holding.stored)))
  | .setKey request ttl =>
    -- Redis refuses an expire time of zero
    if input.failing || ttl = 0 then (holding, goTo .ended)
    else
      ({ holding with
          stored := some { request, ttl }
          decisions := holding.decisions ++ [{ request, late := call.late }] },
        goTo (.leavePendingSet request))
  | .leavePendingSet request =>
    if input.failing then (holding, goTo .ended)
    else ({ holding with pending := false }, goTo (.writeDecision request))
  | .writeDecision request =>
    -- the twin is best effort
    if input.failing then (holding, goTo (.succeeded request))
    else (holding.writeDecision request call.late input.place, goTo (.succeeded request))
  | .succeeded request => (holding, goTo (.succeeded request))
  | .ended => (holding, goTo .ended)

/-! ## Runs -/

/-- The calls that decide a request. -/
inductive Entry (requestId : String)
  /-- `ApprovalManager.approve` and `deny`, with the fallback of the endpoint. -/
  | decide (decision : Decision) (decidedBy : String) (reason : Option String)
      (fallback : Bool)
  /-- `_mark_expired` on a request, at a time. -/
  | markExpired (request : RequestOf requestId) (now : Time)
  /-- `_reap_expired`. -/
  | reapExpired

/-- The first command of a call. -/
def Entry.phase : Entry requestId → Phase requestId
  | decide decision decidedBy reason fallback => .readKey decision decidedBy reason fallback
  | markExpired request now => .readTtl (request.expire (host.isoformat now))
  | reapExpired => .readPendingSet

/-- What happens next on the node. -/
inductive Move (requestId : String)
  | begin (entry : Entry requestId)
  | advance (index : Nat) (input : Input)
  /-- The key ages. -/
  | age (ttl : Int)
  /-- The TTL of the key has run out. -/
  | evict
  /-- Gossip brings a twin of any request. -/
  | gossip (twin : ApprovalTwin) (place : Nat)

/-- The node after a move. -/
def move (node : Node requestId) : Move requestId → Node requestId
  | .begin entry =>
    node.spawn { phase := entry.phase host, late := node.shared.isDecided }
  | .advance index input => node.advance (Call.run host order) index input
  | .age ttl => node.update (fun holding =>
      { holding with stored := holding.stored.map (fun found => { found with ttl }) })
  | .evict => node.update (fun holding => { holding with stored := none })
  | .gossip twin place => node.update (fun holding => holding.insertTwin twin place)

/-- A node before the first call. -/
structure IsFresh (node : Node requestId) : Prop where
  calls : node.processes = []
  decisions : node.shared.decisions = []
  written : node.shared.written = []

/-- The node after a run. -/
abbrev afterMoves (node : Node requestId) (moves : List (Move requestId)) : Node requestId :=
  Transition.after (move host order) node moves

/-- Each move of a run with the node that it meets. -/
abbrev moveSteps (node : Node requestId) (moves : List (Move requestId)) :
    List (Node requestId × Move requestId) :=
  Transition.steps (move host order) node moves

end Commands

variable {host : Host} {order : SetOrder} {requestId : String}

/-- A command leaves the key and the twins, sets the key, or writes a twin. -/
theorem run_cases (holding : Holding requestId) (call : Call requestId) (input : Input) :
    (∃ pending, (call.run host order holding input).1 = { holding with pending }) ∨
    (∃ request ttl, call.phase = .setKey request ttl ∧ input.failing = false ∧ ttl ≠ 0 ∧
      call.run host order holding input =
        ({ holding with
            stored := some { request, ttl }
            decisions := holding.decisions ++ [{ request, late := call.late }] },
          { call with phase := .leavePendingSet request })) ∨
    (∃ request, (call.phase = .writeTwin request ∨ call.phase = .writeDecision request) ∧
      call.run host order holding input =
        (holding.writeDecision request call.late input.place,
          { call with phase := .succeeded request })) := by
  obtain ⟨phase, late⟩ := call
  cases phase with
  | readKey decision decidedBy reason fallback =>
    refine Or.inl ⟨holding.pending, ?_⟩
    simp only [Call.run]
    split
    · rfl
    · split
      · split <;> rfl
      · split <;> rfl
  | hydrate decision decidedBy reason =>
    refine Or.inl ⟨holding.pending, ?_⟩
    simp only [Call.run]
    split
    · rfl
    · split
      · rfl
      · split <;> rfl
  | writeTwin request =>
    cases hfailing : input.failing with
    | true => exact Or.inl ⟨holding.pending, by simp [Call.run, hfailing]⟩
    | false => exact Or.inr (Or.inr ⟨request, Or.inl rfl, by simp [Call.run, hfailing]⟩)
  | readPendingSet =>
    refine Or.inl ⟨holding.pending, ?_⟩
    simp only [Call.run]
    split <;> rfl
  | readExpired =>
    refine Or.inl ⟨holding.pending, ?_⟩
    simp only [Call.run]
    split
    · rfl
    · split
      · rfl
      · split <;> rfl
  | scanTwins orphan =>
    refine Or.inl ⟨holding.pending, ?_⟩
    simp only [Call.run]
    split <;> rfl
  | dropOrphan =>
    cases hfailing : input.failing with
    | true => exact Or.inl ⟨holding.pending, by simp [Call.run, hfailing]⟩
    | false => exact Or.inl ⟨false, by simp [Call.run, hfailing]⟩
  | readTtl request =>
    refine Or.inl ⟨holding.pending, ?_⟩
    simp only [Call.run]
    split <;> rfl
  | setKey request ttl =>
    by_cases hset : input.failing = false ∧ ttl ≠ 0
    · refine Or.inr (Or.inl ⟨request, ttl, rfl, hset.1, hset.2, ?_⟩)
      simp [Call.run, hset.1, hset.2]
    · refine Or.inl ⟨holding.pending, ?_⟩
      simp only [Call.run]
      split
      · rfl
      · rename_i hnot
        simp at hnot
        exact absurd hnot hset
  | leavePendingSet request =>
    cases hfailing : input.failing with
    | true => exact Or.inl ⟨holding.pending, by simp [Call.run, hfailing]⟩
    | false => exact Or.inl ⟨false, by simp [Call.run, hfailing]⟩
  | writeDecision request =>
    cases hfailing : input.failing with
    | true => exact Or.inl ⟨holding.pending, by simp [Call.run, hfailing]⟩
    | false => exact Or.inr (Or.inr ⟨request, Or.inr rfl, by simp [Call.run, hfailing]⟩)
  | succeeded request => exact Or.inl ⟨holding.pending, rfl⟩
  | ended => exact Or.inl ⟨holding.pending, rfl⟩

/-- A command does not change when its call began. -/
@[simp] theorem late_run (holding : Holding requestId) (call : Call requestId) (input : Input) :
    (call.run host order holding input).2.late = call.late := by
  unfold Call.run
  dsimp only
  repeat' split
  all_goals rfl

/-- What a call decides is not pending. -/
theorem carried_decided {holding : Holding requestId} {call : Call requestId} {input : Input}
    (h : ∀ request, call.phase.carried = some request → request.status ≠ "pending") :
    ∀ request, (call.run host order holding input).2.phase.carried = some request →
      request.status ≠ "pending" := by
  obtain ⟨phase, late⟩ := call
  have hnone : ∀ request : RequestOf requestId, none = some request →
      request.status ≠ "pending" := by
    intro request heq
    cases heq
  have hdecide : ∀ (found : RequestOf requestId) decision decidedBy reason decidedAt request,
      some (found.decide decision decidedBy reason decidedAt) = some request →
        request.status ≠ "pending" := by
    intro found decision decidedBy reason decidedAt request heq
    rw [← Option.some.inj heq, RequestOf.status_decide]
    exact decision.status_ne_pending
  have hexpire : ∀ (found : RequestOf requestId) decidedAt request,
      some (found.expire decidedAt) = some request → request.status ≠ "pending" := by
    intro found decidedAt request heq
    rw [← Option.some.inj heq, RequestOf.status_expire]
    decide
  cases phase with
  | readKey decision decidedBy reason fallback =>
    simp only [Call.run]
    split
    · exact hnone
    · split
      · split
        · exact hnone
        · exact hnone
      · split
        · exact hnone
        · exact hdecide _ _ _ _ _
  | hydrate decision decidedBy reason =>
    simp only [Call.run]
    split
    · exact hnone
    · split
      · exact hnone
      · split
        · exact hnone
        · exact hdecide _ _ _ _ _
  | readPendingSet =>
    simp only [Call.run]
    split <;> exact hnone
  | readExpired =>
    simp only [Call.run]
    split
    · exact hnone
    · split
      · exact hnone
      · split
        · exact hexpire _ _
        · exact hnone
  | scanTwins orphan =>
    simp only [Call.run]
    split
    · exact hexpire _ _
    · cases orphan <;> exact hnone
  | dropOrphan =>
    simp only [Call.run]
    split <;> exact hnone
  | ended => exact hnone
  | succeeded request => exact h
  | writeTwin request =>
    simp only [Call.run]
    split
    · exact hnone
    · exact h
  | readTtl request =>
    simp only [Call.run]
    split
    · exact hnone
    · exact h
  | setKey request ttl =>
    simp only [Call.run]
    split
    · exact hnone
    · exact h
  | leavePendingSet request =>
    simp only [Call.run]
    split
    · exact hnone
    · exact h
  | writeDecision request =>
    simp only [Call.run]
    split <;> exact h

end ApprovalManager

end MassClaw
