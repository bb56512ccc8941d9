import MassClaw.Safety.Races

/-!
# The pending set of `app/safety/approval.py`

`request_approval` stores a request and enters its id in the pending set, which
is all that the first pass of the janitor looks at.  Three operations take an id
out again: a decision after it has replaced the key, the janitor for an id that
has neither key nor twin, and `get_pending` for every id that it does not
report.

The key outlives the deadline of its request by a grace period, so that the
janitor can still find the request and expire it.  `get_pending` asks for the
deadline and not for the key: a listing within the grace period drops an id
whose request is still pending.
-/

namespace MassClaw

namespace ApprovalManager

/-- `get_pending`, as far as it concerns one request: SMEMBERS, GET, SREM. -/
inductive Listing (requestId : String)
  | readPendingSet (workflowId : Option String)
  | readKey (workflowId : Option String)
  | drop
  /-- The listing has returned, with the request if it is in the list. -/
  | returned (found : Option (RequestOf requestId))
  /-- A command has raised. -/
  | raised

/-- An operation of the manager or the janitor on one request. -/
inductive Operation (requestId : String)
  | deciding (call : Call requestId)
  | listing (request : Listing requestId)

/-- A node with the operations on one request. -/
abbrev Desk (requestId : String) :=
  Interleave.Config (Holding requestId) (Operation requestId)

section Commands

variable (host : Host) (order : SetOrder) {requestId : String}

/-- Perform the next command of `get_pending`. -/
def Listing.run (holding : Holding requestId) (listing : Listing requestId) (input : Input) :
    Holding requestId × Listing requestId :=
  match listing with
  | .readPendingSet workflowId =>
    if input.failing then (holding, .raised)
    else if holding.pending then (holding, .readKey workflowId)
    else (holding, .returned none)
  | .readKey workflowId =>
    if input.failing then (holding, .raised)
    else
      match holding.stored with
      | none => (holding, .drop)
      | some found =>
        if found.request.status ≠ "pending" then (holding, .drop)
        else if found.request.1.isExpired host input.now then (holding, .drop)
        else if workflowId.any (fun id => found.request.1.workflowId ≠ id) then
          (holding, .returned none)
        else (holding, .returned (some found.request))
  | .drop =>
    if input.failing then (holding, .raised)
    else ({ holding with pending := false }, .returned none)
  | .returned found => (holding, .returned found)
  | .raised => (holding, .raised)

/-- Perform the next command of an operation. -/
def Operation.run (holding : Holding requestId) (operation : Operation requestId)
    (input : Input) : Holding requestId × Operation requestId :=
  match operation with
  | .deciding call =>
    ((call.run host order holding input).1, .deciding (call.run host order holding input).2)
  | .listing request =>
    ((request.run host holding input).1, .listing (request.run host holding input).2)

/-- `_EXPIRY_GRACE_SECONDS`. -/
def expiryGraceSeconds : Int := 900

/-- The request that `request_approval` makes up. -/
def RequestOf.requested (request : RequestOf requestId) (now : Time) (timeoutSeconds : Int) :
    RequestOf requestId :=
  ⟨{ request.1 with
      status := "pending"
      requestedAt := host.isoformat now
      expiresAt := host.isoformat (now + timeoutSeconds * 1000000)
      decidedAt := none
      decidedBy := none }, request.hasId⟩

/-- The pipeline of `request_approval`.  Redis refuses the `SET` when the expire
time is not positive; the `SADD` takes effect all the same. -/
def Holding.requestApproval (holding : Holding requestId) (request : RequestOf requestId)
    (now : Time) (timeoutSeconds : Int) : Holding requestId :=
  let ttl := timeoutSeconds + expiryGraceSeconds
  { holding with
    stored :=
      if ttl ≤ 0 then holding.stored
      else some { request := RequestOf.requested host request now timeoutSeconds, ttl }
    pending := true }

/-- What happens next at the desk. -/
inductive DeskMove (requestId : String)
  /-- `request_approval` -/
  | request (request : RequestOf requestId) (now : Time) (timeoutSeconds : Int)
  | begin (entry : Entry requestId)
  /-- `get_pending`, for one workflow or for all. -/
  | list (workflowId : Option String)
  | advance (index : Nat) (input : Input)
  /-- The key ages. -/
  | age (ttl : Int)
  /-- The TTL of the key has run out. -/
  | evict
  /-- A twin of any request is written. -/
  | gossip (twin : ApprovalTwin) (place : Nat)

/-- The desk after a move.  The id of a request is made up when it is asked
for, so no operation has met it before. -/
def deskMove (desk : Desk requestId) : DeskMove requestId → Desk requestId
  | .request request now timeoutSeconds =>
    if desk.processes.isEmpty && desk.shared.stored.isNone then
      desk.update (fun holding => holding.requestApproval host request now timeoutSeconds)
    else desk
  | .begin entry =>
    desk.spawn (.deciding { phase := entry.phase host, late := desk.shared.isDecided })
  | .list workflowId => desk.spawn (.listing (.readPendingSet workflowId))
  | .advance index input => desk.advance (Operation.run host order) index input
  | .age ttl => desk.update (fun holding =>
      { holding with stored := holding.stored.map (fun found => { found with ttl }) })
  | .evict => desk.update (fun holding => { holding with stored := none })
  | .gossip twin place => desk.update (fun holding => holding.insertTwin twin place)

/-- The desk after a run. -/
abbrev afterDeskMoves (desk : Desk requestId) (moves : List (DeskMove requestId)) :
    Desk requestId :=
  Transition.after (deskMove host order) desk moves

/-- Each move of a run with the desk that it meets. -/
abbrev deskSteps (desk : Desk requestId) (moves : List (DeskMove requestId)) :
    List (Desk requestId × DeskMove requestId) :=
  Transition.steps (deskMove host order) desk moves

/-- Nothing is stored of the request and no operation has begun. -/
structure IsUnused (desk : Desk requestId) : Prop where
  operations : desk.processes = []
  stored : desk.shared.stored = none

end Commands

/-! ## The property -/

variable {host : Host} {order : SetOrder} {requestId : String}

/-- A stored payload that is pending is listed in the set. -/
def Holding.PendingListed (holding : Holding requestId) : Prop :=
  ∀ found, holding.stored = some found → found.request.status = "pending" →
    holding.pending = true

/-- No listing reads a pending payload past its deadline. -/
def DeskMove.ListsInTime (host : Host) (desk : Desk requestId) : DeskMove requestId → Prop
  | .advance index input =>
    ∀ workflowId found, desk.processes[index]? = some (.listing (.readKey workflowId)) →
      input.failing = false → desk.shared.stored = some found →
      found.request.status = "pending" → found.request.1.isExpired host input.now = false
  | _ => True

/-! ## What removes an id -/

/-- No payload is stored that is still pending. -/
def Holding.IsSettled (holding : Holding requestId) : Prop :=
  ∀ found, holding.stored = some found → found.request.status ≠ "pending"

/-- The phases of a call that lead to an SREM without another look at the key. -/
def Phase.removes : Phase requestId → Bool
  | .leavePendingSet _ => true
  | .scanTwins orphan => orphan
  | .dropOrphan => true
  | _ => false

/-- What an operation knows of the request. -/
def Operation.Knows (holding : Holding requestId) : Operation requestId → Prop
  | .deciding call =>
    (∀ request, call.phase.carried = some request → request.status ≠ "pending") ∧
      (call.phase.removes = true → holding.IsSettled)
  | .listing .drop => holding.IsSettled
  | .listing _ => True

theorem Holding.IsSettled.pendingListed {holding : Holding requestId} (h : holding.IsSettled) :
    holding.PendingListed :=
  fun found hstored hpending => absurd hpending (h found hstored)

/-- A command stores a decided request or none. -/
theorem stored_run {holding : Holding requestId} {call : Call requestId} {input : Input}
    (h : ∀ request, call.phase.carried = some request → request.status ≠ "pending") :
    (call.run host order holding input).1.stored = holding.stored ∨
      (call.run host order holding input).1.IsSettled := by
  rcases run_cases holding call input with
    ⟨pending, hrun⟩ | ⟨request, ttl, hphase, -, -, hrun⟩ | ⟨request, -, hrun⟩
  · rw [hrun]
    exact Or.inl rfl
  · rw [hrun]
    refine Or.inr (fun found hfound => ?_)
    cases hfound
    exact h request (by rw [hphase]; rfl)
  · rw [hrun]
    exact Or.inl rfl

theorem isSettled_run {holding : Holding requestId} {call : Call requestId} {input : Input}
    (h : ∀ request, call.phase.carried = some request → request.status ≠ "pending")
    (hsettled : holding.IsSettled) : (call.run host order holding input).1.IsSettled := by
  rcases stored_run h with hsame | hdone
  · intro found hfound
    rw [hsame] at hfound
    exact hsettled found hfound
  · exact hdone

/-- Only a call that removes takes the id out of the set. -/
theorem pending_run (holding : Holding requestId) (call : Call requestId) (input : Input) :
    (call.run host order holding input).1.pending = holding.pending ∨
      call.phase.removes = true := by
  obtain ⟨phase, late⟩ := call
  cases phase with
  | leavePendingSet request => exact Or.inr rfl
  | dropOrphan => exact Or.inr rfl
  | _ =>
    refine Or.inl ?_
    simp only [Call.run]
    repeat' split
    all_goals rfl

/-- A call comes to remove the id after it has found no key or has decided. -/
theorem removes_run {holding : Holding requestId} {call : Call requestId} {input : Input}
    (h : ∀ request, call.phase.carried = some request → request.status ≠ "pending")
    (hremoves : (call.run host order holding input).2.phase.removes = true) :
    call.phase.removes = true ∨ (call.run host order holding input).1.IsSettled := by
  obtain ⟨phase, late⟩ := call
  cases phase with
  | readExpired =>
    refine Or.inr ?_
    simp only [Call.run] at hremoves ⊢
    split at hremoves
    · cases hremoves
    · split at hremoves
      · rename_i hfailing _ hstored
        rw [if_neg hfailing]
        intro found hfound
        have hnone : holding.stored = some found := hfound
        rw [hstored] at hnone
        cases hnone
      · split at hremoves <;> cases hremoves
  | setKey request ttl =>
    refine Or.inr ?_
    simp only [Call.run] at hremoves ⊢
    split at hremoves
    · cases hremoves
    · rename_i hset
      rw [if_neg hset]
      intro found hfound
      cases hfound
      exact h request rfl
  | scanTwins orphan =>
    simp only [Call.run] at hremoves
    split at hremoves
    · cases hremoves
    · cases orphan
      · cases hremoves
      · exact Or.inl rfl
  | leavePendingSet request => exact Or.inl rfl
  | dropOrphan => exact Or.inl rfl
  | _ =>
    exfalso
    simp only [Call.run] at hremoves
    repeat' split at hremoves
    all_goals cases hremoves

/-! ## Listings -/

/-- A listing stores nothing, and takes the id out of the set only when it
drops it. -/
theorem shared_listing (holding : Holding requestId) (request : Listing requestId)
    (input : Input) :
    (request.run host holding input).1 = holding ∨
      (request = .drop ∧
        (request.run host holding input).1 = { holding with pending := false }) := by
  cases request with
  | readPendingSet workflowId =>
    refine Or.inl ?_
    simp only [Listing.run]
    repeat' split
    all_goals rfl
  | readKey workflowId =>
    refine Or.inl ?_
    simp only [Listing.run]
    repeat' split
    all_goals rfl
  | drop =>
    by_cases hfailing : input.failing = true
    · exact Or.inl (by simp only [Listing.run, if_pos hfailing])
    · exact Or.inr ⟨rfl, by simp only [Listing.run, if_neg hfailing]⟩
  | returned found => exact Or.inl rfl
  | raised => exact Or.inl rfl

/-- A listing in time drops an id for which no pending payload is stored. -/
theorem isSettled_of_drop {holding : Holding requestId} {request : Listing requestId}
    {input : Input}
    (hintime : ∀ workflowId found, request = .readKey workflowId → input.failing = false →
      holding.stored = some found → found.request.status = "pending" →
        found.request.1.isExpired host input.now = false)
    (hdrop : (request.run host holding input).2 = .drop) : holding.IsSettled := by
  cases request with
  | readKey workflowId =>
    simp only [Listing.run] at hdrop
    split at hdrop
    · cases hdrop
    · rename_i hfailing
      have hfails : input.failing = false := by simpa using hfailing
      intro found hstored hpending
      have hlive := hintime workflowId found rfl hfails hstored hpending
      rw [hstored] at hdrop
      simp only [hpending, hlive, ne_eq, not_true_eq_false, if_false, Bool.false_eq_true] at hdrop
      split at hdrop <;> cases hdrop
  | readPendingSet workflowId =>
    simp only [Listing.run] at hdrop
    split at hdrop
    · cases hdrop
    · split at hdrop <;> cases hdrop
  | drop =>
    simp only [Listing.run] at hdrop
    split at hdrop <;> cases hdrop
  | returned found => cases hdrop
  | raised => cases hdrop

/-! ## Runs -/

/-- The invariant of a desk. -/
abbrev DeskInvariant (desk : Desk requestId) : Prop :=
  Interleave.Config.Holds Holding.PendingListed (fun holding operation => operation.Knows holding)
    desk

/-- What an operation knows survives a change after which a settled request is
still settled. -/
theorem Operation.Knows.mono {holding holding' : Holding requestId}
    {operation : Operation requestId} (h : operation.Knows holding)
    (hsettled : holding.IsSettled → holding'.IsSettled) : operation.Knows holding' := by
  cases operation with
  | deciding call => exact ⟨h.1, fun hremoves => hsettled (h.2 hremoves)⟩
  | listing request =>
    cases request with
    | drop => exact hsettled h
    | _ => trivial

theorem pendingListed_call {holding : Holding requestId} {call : Call requestId} {input : Input}
    (hlisted : holding.PendingListed) (hknows : (Operation.deciding call).Knows holding) :
    (call.run host order holding input).1.PendingListed := by
  rcases stored_run hknows.1 with hsame | hdone
  · rcases pending_run holding call input with hkept | hremoves
    · intro found hfound hpending
      rw [hsame] at hfound
      rw [hkept]
      exact hlisted found hfound hpending
    · exact (isSettled_run hknows.1 (hknows.2 hremoves)).pendingListed
  · exact hdone.pendingListed

theorem knows_call {holding : Holding requestId} {call : Call requestId} {input : Input}
    (hknows : (Operation.deciding call).Knows holding) :
    (Operation.deciding (call.run host order holding input).2).Knows
      (call.run host order holding input).1 := by
  refine ⟨carried_decided hknows.1, fun hremoves => ?_⟩
  rcases removes_run hknows.1 hremoves with hbefore | hsettled
  · exact isSettled_run hknows.1 (hknows.2 hbefore)
  · exact hsettled

/-- One command keeps the invariant, if a listing reads in time. -/
theorem deskInvariant_advance {desk : Desk requestId} {index : Nat} {input : Input}
    (hintime : (DeskMove.advance index input).ListsInTime host desk) (h : DeskInvariant desk) :
    DeskInvariant (desk.advance (Operation.run host order) index input) := by
  refine h.advance (fun operation hoperation hlisted hknows => ?_)
  cases operation with
  | deciding call =>
    exact ⟨pendingListed_call hlisted hknows, knows_call hknows,
      fun other _ hother => hother.mono (isSettled_run hknows.1)⟩
  | listing request =>
    have hdrop : (request.run host desk.shared input).2 = .drop → desk.shared.IsSettled := by
      refine isSettled_of_drop (fun workflowId found hrequest => ?_)
      rw [hrequest] at hoperation
      exact hintime workflowId found hoperation
    have hsettled : desk.shared.IsSettled →
        (request.run host desk.shared input).1.IsSettled := by
      intro hbefore
      rcases shared_listing desk.shared request input with hsame | ⟨-, hremoved⟩
      · rw [hsame]
        exact hbefore
      · rw [hremoved]
        exact hbefore
    refine ⟨?_, ?_, fun other _ hother => hother.mono hsettled⟩
    · show (request.run host desk.shared input).1.PendingListed
      rcases shared_listing desk.shared request input with hsame | ⟨hrequest, hremoved⟩
      · rw [hsame]
        exact hlisted
      · rw [hrequest] at hknows hsettled
        rw [hrequest]
        exact (hsettled hknows).pendingListed
    · show (Operation.listing (request.run host desk.shared input).2).Knows
        (request.run host desk.shared input).1
      cases hnext : (request.run host desk.shared input).2 with
      | drop => exact hsettled (hdrop hnext)
      | _ => trivial

/-- One move keeps the invariant, if a listing reads in time. -/
theorem deskInvariant_move {desk : Desk requestId} {next : DeskMove requestId}
    (hintime : next.ListsInTime host desk) (h : DeskInvariant desk) :
    DeskInvariant (deskMove host order desk next) := by
  cases next with
  | request request now timeoutSeconds =>
    unfold deskMove
    dsimp only
    split
    · rename_i hunused
      rw [Bool.and_eq_true, List.isEmpty_iff] at hunused
      refine ⟨fun found _ _ => rfl, fun operation hoperation => ?_⟩
      have hnone : operation ∈ desk.processes := hoperation
      rw [hunused.1] at hnone
      cases hnone
    · exact h
  | begin entry =>
    refine h.spawn ?_
    show (∀ request, (entry.phase host).carried = some request → request.status ≠ "pending") ∧
      ((entry.phase host).removes = true → desk.shared.IsSettled)
    cases entry with
    | decide decision decidedBy reason fallback =>
      refine ⟨fun request hcarried => ?_, fun hremoves => ?_⟩
      · cases hcarried
      · cases hremoves
    | markExpired request now =>
      refine ⟨fun decided hdecided => ?_, fun hremoves => ?_⟩
      · rw [← Option.some.inj hdecided, RequestOf.status_expire]
        decide
      · cases hremoves
    | reapExpired =>
      refine ⟨fun request hcarried => ?_, fun hremoves => ?_⟩
      · cases hcarried
      · cases hremoves
  | list workflowId => exact h.spawn trivial
  | advance index input => exact deskInvariant_advance hintime h
  | age ttl =>
    refine Interleave.Config.Holds.update (f := fun holding =>
      { holding with stored := holding.stored.map (fun found => { found with ttl }) }) h ?_ ?_
    · intro hlisted found hfound hpending
      obtain ⟨old, hold, rfl⟩ := Option.map_eq_some_iff.1 hfound
      exact hlisted old hold hpending
    · intro operation hknows
      refine hknows.mono (fun hsettled found hfound => ?_)
      obtain ⟨old, hold, rfl⟩ := Option.map_eq_some_iff.1 hfound
      exact hsettled old hold
  | evict =>
    refine Interleave.Config.Holds.update (f := fun holding => { holding with stored := none })
      h ?_ ?_
    · intro _ found hfound
      cases hfound
    · intro operation hknows
      refine hknows.mono (fun _ found hfound => ?_)
      cases hfound
  | gossip twin place =>
    refine Interleave.Config.Holds.update (f := fun holding => holding.insertTwin twin place)
      h ?_ ?_
    · intro hlisted
      exact hlisted
    · intro operation hknows
      exact hknows.mono id

/-- As long as no listing reads a pending payload past its deadline, every
pending payload is listed in the set. -/
theorem pendingListed_of_listsInTime (host : Host) (order : SetOrder) (desk : Desk requestId)
    (moves : List (DeskMove requestId)) (hunused : IsUnused desk)
    (hintime : ∀ step ∈ deskSteps host order desk moves, step.2.ListsInTime host step.1) :
    (afterDeskMoves host order desk moves).shared.PendingListed := by
  have hstart : DeskInvariant desk := by
    refine ⟨fun found hfound => ?_, fun operation hoperation => ?_⟩
    · rw [hunused.stored] at hfound
      cases hfound
    · rw [hunused.operations] at hoperation
      cases hoperation
  have hinvariant : DeskInvariant (afterDeskMoves host order desk moves) :=
    Transition.after_invariant (P := fun step => step.2.ListsInTime host step.1)
      (fun _ _ hstep h => deskInvariant_move hstep h) hintime hstart
  exact hinvariant.shared

/-! ## A listing within the grace period -/

namespace LateListing

/-- A host whose clock knows the full seconds up to three. -/
def clock : Host where
  sha256 _ := []
  sign _ _ := []
  verify _ _ _ := false
  repr _ := ""
  parseFloat? _ := none
  parseInt? _ := none
  isoformat time :=
    if time = 0 then "00:00" else if time = 1000000 then "00:01"
    else if time = 2000000 then "00:02" else "00:03"
  fromIsoformat? text :=
    if text = "00:00" then some 0 else if text = "00:01" then some 1000000
    else if text = "00:02" then some 2000000 else if text = "00:03" then some 3000000
    else none

/-- The desk before the request. -/
def desk : Desk "r" := { shared := {}, processes := [] }

/-- A request with a timeout of two seconds. -/
def requested : DeskMove "r" :=
  .request ⟨{ requestId := "r", workflowId := "w", action := "execute_node",
              policyRule := "gate" }, rfl⟩ 0 2

/-- The commands of a listing at a time. -/
def listing (now : Time) : List (DeskMove "r") :=
  .list none :: List.replicate 3 (.advance 0 { now })

end LateListing

open LateListing FederatedApprovalStore in
/-- A listing before the deadline. -/
theorem pendingListed_of_listing :
    (afterDeskMoves clock (startingWith "r") desk
      (requested :: listing 1000000)).shared.PendingListed := by
  refine pendingListed_of_listsInTime clock (startingWith "r") desk _ ⟨rfl, rfl⟩ ?_
  intro step hstep
  simp only [deskSteps, Transition.steps, listing, List.replicate, List.mem_cons,
    List.not_mem_nil, or_false] at hstep
  rcases hstep with rfl | rfl | rfl | rfl | rfl
  · trivial
  · trivial
  · intro workflowId found hlisting
    cases hlisting
  · intro workflowId found hlisting _ hstored _
    cases hstored
    rfl
  · intro workflowId found hlisting
    have hreturned : ∀ found', (Operation.listing (.returned found') : Operation "r") ≠
        .listing (.readKey workflowId) := by
      intro found' heq
      cases heq
    exact absurd (Option.some.inj hlisting) (hreturned _)

open LateListing FederatedApprovalStore in
/-- A listing at the deadline takes the id out of the set; the payload stays, and
stays pending. -/
theorem pendingListed_fails :
    ¬∀ (host : Host) (order : SetOrder) (desk : Desk "r") (moves : List (DeskMove "r")),
      IsUnused desk → (afterDeskMoves host order desk moves).shared.PendingListed := by
  intro h
  have hlisted := h clock (startingWith "r") desk (requested :: listing 2000000) ⟨rfl, rfl⟩
  have hfinal : ((afterDeskMoves clock (startingWith "r") desk
      (requested :: listing 2000000)).shared.stored.map
        (fun found => found.request.status) = some "pending") ∧
      (afterDeskMoves clock (startingWith "r") desk
        (requested :: listing 2000000)).shared.pending = false := by
    decide +kernel
  obtain ⟨found, hfound, hpending⟩ := Option.map_eq_some_iff.1 hfinal.1
  have hstill := hlisted found hfound hpending
  rw [hfinal.2] at hstill
  cases hstill

end ApprovalManager

end MassClaw
