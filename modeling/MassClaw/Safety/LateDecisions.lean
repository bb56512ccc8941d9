import MassClaw.Crdt.Import
import MassClaw.Safety.Convergence
import MassClaw.Safety.Manager

/-!
# Calls after a decision

A decision that another node has made reaches the memory table by gossip; the
key in Redis stays pending.  The merge of the two happens on reads only: a call
that decides asks the key, and the twins when there is no key.  So a call that
begins after a decision has become visible is refused as long as the key does
not hold a pending request when the call reads it.
-/

namespace MassClaw

namespace ApprovalManager

variable {host : Host} {order : SetOrder} {requestId : String}

/-- A call that began after a decision was visible has not succeeded, and has
neither stored nor written a decision. -/
structure NoLateEffect (node : Node requestId) : Prop where
  calls : ∀ call ∈ node.processes, call.late = true → ∀ request, call.phase ≠ .succeeded request
  decisions : ∀ effect ∈ node.shared.decisions, effect.late = false
  written : ∀ effect ∈ node.shared.written, effect.late = false

/-- Where a call finds the key with a pending request, it goes on to decide. -/
def Phase.decidesOn (host : Host) (now : Time) (found : StoredRequest requestId) :
    Phase requestId → Bool
  | .readKey _ _ _ _ => true
  | .readExpired => found.request.1.isExpired host now
  | _ => false

/-- A late call does not find the key with a pending request; and
`_mark_expired`, which does not look, begins before a decision is visible. -/
def Move.FindsDecided (host : Host) (node : Node requestId) : Move requestId → Prop
  | .begin (.markExpired _ _) => node.shared.isDecided = false
  | .advance index input =>
    ∀ call found, node.processes[index]? = some call → call.late = true → input.failing = false →
      node.shared.stored = some found → found.request.status = "pending" →
      call.phase.decidesOn host input.now found = false
  | _ => True

/-! ## Decisions stay visible -/

theorem isDecided_insertTwin {holding : Holding requestId} (h : holding.isDecided = true)
    (twin : ApprovalTwin) (place : Nat) : (holding.insertTwin twin place).isDecided = true := by
  obtain ⟨decision, hdecision, hdecides⟩ := List.any_eq_true.1 h
  refine List.any_eq_true.2 ⟨decision, ?_, hdecides⟩
  rw [← List.take_append_drop place holding.twins] at hdecision
  show decision ∈ holding.twins.take place ++ twin :: holding.twins.drop place
  rcases List.mem_append.1 hdecision with hold | hold
  · exact List.mem_append_left _ hold
  · exact List.mem_append_right _ (List.mem_cons_of_mem _ hold)

/-- No command removes a twin. -/
theorem isDecided_run {holding : Holding requestId} (call : Call requestId) (input : Input)
    (h : holding.isDecided = true) : (call.run host order holding input).1.isDecided = true := by
  rcases run_cases holding call input with
    ⟨pending, hrun⟩ | ⟨request, ttl, -, -, -, hrun⟩ | ⟨request, -, hrun⟩
  · rw [hrun]
    exact h
  · rw [hrun]
    exact h
  · rw [hrun]
    exact isDecided_insertTwin h _ _

/-! ## What the readers find -/

/-- A visible decision is what the lookup of the request returns. -/
theorem status_of_findByRequestId {holding : Holding requestId} {request : ApprovalRequest}
    (hdecided : holding.isDecided = true)
    (hfound : FederatedApprovalStore.findByRequestId order holding.twins requestId =
      some request) : request.status ≠ "pending" := by
  intro hpending
  obtain ⟨twin, htwin, hdecides⟩ := List.any_eq_true.1 hdecided
  have hnot := (FederatedApprovalStore.findByRequestId_eq_some hfound).2 hpending twin htwin
  rw [hdecides] at hnot
  cases hnot

/-- The scan of the janitor does not return a request with a visible decision. -/
theorem expiredTwin?_eq_none {holding : Holding requestId} {now : Time}
    (hdecided : holding.isDecided = true) : expiredTwin? host holding now = none := by
  obtain ⟨twin, htwin, hdecides⟩ := List.any_eq_true.1 hdecided
  refine List.findSome?_eq_none_iff.2 (fun request hrequest => ?_)
  have hundecided :=
    FederatedApprovalStore.undecided_of_mem_getPending (List.mem_of_mem_filter hrequest) twin htwin
  unfold RequestOf.of?
  split
  · rename_i hid
    rw [hid, hdecides] at hundecided
    cases hundecided
  · rfl

/-- A call that carries no request and does not find a pending key carries none
afterwards. -/
theorem carried_run {holding : Holding requestId} {call : Call requestId} {input : Input}
    (hdecided : holding.isDecided = true) (hcarried : call.phase.carried = none)
    (hfinds : ∀ found, input.failing = false → holding.stored = some found →
      found.request.status = "pending" → call.phase.decidesOn host input.now found = false) :
    (call.run host order holding input).2.phase.carried = none := by
  obtain ⟨phase, late⟩ := call
  cases phase with
  | readKey decision decidedBy reason fallback =>
    simp only [Call.run]
    split
    · rfl
    · rename_i hfailing
      split
      · split <;> rfl
      · rename_i found hstored
        split
        · rfl
        · rename_i hpending
          exact absurd (hfinds found (by simpa using hfailing) hstored (not_not.1 hpending))
            (by simp [Phase.decidesOn])
  | hydrate decision decidedBy reason =>
    simp only [Call.run]
    split
    · rfl
    · split
      · rfl
      · rename_i found hfound
        obtain ⟨request, hlookup, hof⟩ := Option.bind_eq_some_iff.1 hfound
        have hstatus : found.status ≠ "pending" := by
          rw [RequestOf.status, RequestOf.of?_eq_some hof]
          exact status_of_findByRequestId hdecided hlookup
        rw [if_pos hstatus]
        rfl
  | readPendingSet =>
    simp only [Call.run]
    split <;> rfl
  | readExpired =>
    simp only [Call.run]
    split
    · rfl
    · rename_i hfailing
      split
      · rfl
      · rename_i found hstored
        split
        · rename_i hexpired
          rw [Bool.and_eq_true, decide_eq_true_eq] at hexpired
          have hnot := hfinds found (by simpa using hfailing) hstored hexpired.1
          rw [Phase.decidesOn, hexpired.2] at hnot
          cases hnot
        · rfl
  | scanTwins orphan =>
    have hnone : (if input.failing = true then none else expiredTwin? host holding input.now) =
        none := by
      rw [expiredTwin?_eq_none hdecided, ite_self]
    simp only [Call.run, hnone]
    cases orphan <;> rfl
  | dropOrphan =>
    simp only [Call.run]
    split <;> rfl
  | ended => rfl
  | writeTwin request => cases hcarried
  | readTtl request => cases hcarried
  | setKey request ttl => cases hcarried
  | leavePendingSet request => cases hcarried
  | writeDecision request => cases hcarried
  | succeeded request => cases hcarried

/-! ## Runs -/

/-- What the calls have stored and written began before a decision was visible. -/
structure EarlyEffects (holding : Holding requestId) : Prop where
  decisions : ∀ effect ∈ holding.decisions, effect.late = false
  written : ∀ effect ∈ holding.written, effect.late = false

/-- A late call sees a decision and carries no request. -/
def LateIdle (holding : Holding requestId) (call : Call requestId) : Prop :=
  call.late = true → holding.isDecided = true ∧ call.phase.carried = none

/-- An early call can have any effect, a late call has none. -/
theorem earlyEffects_run {holding : Holding requestId} {call : Call requestId} {input : Input}
    (h : EarlyEffects holding) (hidle : LateIdle holding call) :
    EarlyEffects (call.run host order holding input).1 := by
  have hearly : ∀ request, call.phase.carried = some request → call.late = false := by
    intro request hcarried
    cases hlate : call.late with
    | false => rfl
    | true =>
      rw [(hidle hlate).2] at hcarried
      cases hcarried
  have happend : ∀ (effects : List (Effect requestId)) (request : RequestOf requestId),
      (∀ effect ∈ effects, effect.late = false) → call.late = false →
        ∀ effect ∈ effects ++ [{ request, late := call.late }], effect.late = false := by
    intro effects request heffects hlate effect heffect
    rcases List.mem_append.1 heffect with hold | hnew
    · exact heffects effect hold
    · rw [List.mem_singleton.1 hnew]
      exact hlate
  rcases run_cases holding call input with
    ⟨pending, hrun⟩ | ⟨request, ttl, hphase, -, -, hrun⟩ | ⟨request, hphase, hrun⟩
  · rw [hrun]
    exact ⟨h.decisions, h.written⟩
  · rw [hrun]
    have hlate := hearly request (by rw [hphase]; rfl)
    exact ⟨happend _ request h.decisions hlate, h.written⟩
  · rw [hrun]
    have hlate : call.late = false := by
      rcases hphase with hphase | hphase
      · exact hearly request (by rw [hphase]; rfl)
      · exact hearly request (by rw [hphase]; rfl)
    exact ⟨h.decisions, happend _ request h.written hlate⟩

/-- The invariant of a node. -/
abbrev LateInvariant (node : Node requestId) : Prop :=
  Interleave.Config.Holds EarlyEffects LateIdle node

/-- One move that finds the request decided keeps the invariant. -/
theorem lateInvariant_move {node : Node requestId} {next : Move requestId}
    (hfinds : next.FindsDecided host node) (h : LateInvariant node) :
    LateInvariant (move host order node next) := by
  cases next with
  | begin entry =>
    refine h.spawn (fun hlate => ⟨hlate, ?_⟩)
    cases entry with
    | decide decision decidedBy reason fallback => rfl
    | markExpired request now =>
      have hnot : node.shared.isDecided = false := hfinds
      rw [hnot] at hlate
      cases hlate
    | reapExpired => rfl
  | advance index input =>
    refine h.advance (fun call hcall hearly hidle => ⟨earlyEffects_run hearly hidle, ?_, ?_⟩)
    · intro hlate
      rw [late_run] at hlate
      obtain ⟨hdecided, hcarried⟩ := hidle hlate
      refine ⟨isDecided_run call input hdecided, carried_run hdecided hcarried ?_⟩
      intro found hfailing hstored hpending
      exact hfinds call found hcall hlate hfailing hstored hpending
    · intro other _ hother hlate
      exact ⟨isDecided_run call input (hother hlate).1, (hother hlate).2⟩
  | age ttl =>
    refine Interleave.Config.Holds.update (f := fun holding =>
      { holding with stored := holding.stored.map (fun found => { found with ttl }) }) h ?_ ?_
    · intro hearly
      exact ⟨hearly.decisions, hearly.written⟩
    · intro call hidle
      exact hidle
  | evict =>
    refine Interleave.Config.Holds.update (f := fun holding => { holding with stored := none })
      h ?_ ?_
    · intro hearly
      exact ⟨hearly.decisions, hearly.written⟩
    · intro call hidle
      exact hidle
  | gossip twin place =>
    refine Interleave.Config.Holds.update (f := fun holding => holding.insertTwin twin place)
      h ?_ ?_
    · intro hearly
      exact ⟨hearly.decisions, hearly.written⟩
    · intro call hidle hlate
      exact ⟨isDecided_insertTwin (hidle hlate).1 twin place, (hidle hlate).2⟩

/-- In a run in which no late call finds the key with a pending request, no call
that began after a decision was visible has an effect. -/
theorem noLateEffect_of_findsDecided (host : Host) (order : SetOrder) (node : Node requestId)
    (moves : List (Move requestId)) (hfresh : IsFresh node)
    (hfinds : ∀ step ∈ moveSteps host order node moves, step.2.FindsDecided host step.1) :
    NoLateEffect (afterMoves host order node moves) := by
  have hstart : LateInvariant node := by
    refine ⟨⟨?_, ?_⟩, ?_⟩
    · rw [hfresh.decisions]
      simp
    · rw [hfresh.written]
      simp
    · rw [hfresh.calls]
      simp
  have hinvariant : LateInvariant (afterMoves host order node moves) :=
    Transition.after_invariant (P := fun step => step.2.FindsDecided host step.1)
      (fun _ _ hstep h => lateInvariant_move hstep h) hfinds hstart
  refine ⟨fun call hcall hlate request hphase => ?_, hinvariant.shared.decisions,
    hinvariant.shared.written⟩
  have hcarried := (hinvariant.processes call hcall hlate).2
  rw [hphase] at hcarried
  cases hcarried

/-! ## A denial by a peer -/

namespace DeniedByPeer

/-- The request that the peer denied, as this node still stores it. -/
def asked : RequestOf "r" :=
  ⟨{ FederatedApprovalStore.Disagreement.denied with status := "pending", decidedBy := none }, rfl⟩

/-- The node before the denial arrives. -/
def node : Node "r" where
  shared := { stored := some { request := asked, ttl := 3600 }, pending := true }
  processes := []

/-- The denial arrives. -/
def denial : Move "r" := .gossip { request := FederatedApprovalStore.Disagreement.denied } 0

/-- A reviewer of this node approves. -/
def approve : Move "r" := .begin (.decide .approved "bob" none true)

/-- The next command of the reviewer. -/
def next : Move "r" := .advance 0 { now := 0 }

end DeniedByPeer

open DeniedByPeer GossipService.ImportExample in
/-- The key is evicted before the reviewer asks for it. -/
theorem noLateEffect_of_evicted :
    NoLateEffect (afterMoves constant (FederatedApprovalStore.startingWith "r") node
      [denial, approve, .evict, next, next]) := by
  refine noLateEffect_of_findsDecided constant (FederatedApprovalStore.startingWith "r") node _
    ⟨rfl, rfl, rfl⟩ (fun step hstep => ?_)
  simp only [moveSteps, Transition.steps, List.mem_cons, List.not_mem_nil, or_false] at hstep
  rcases hstep with rfl | rfl | rfl | rfl | rfl
  · trivial
  · trivial
  · trivial
  · intro call found _ _ _ hstored
    cases hstored
  · intro call found _ _ _ hstored
    cases hstored

open DeniedByPeer in
/-- The reviewer approves the request that the peer has denied, on every host. -/
theorem noLateEffect_fails :
    ¬∃ (host : Host) (order : SetOrder), ∀ (node : Node "r") (moves : List (Move "r")),
      IsFresh node → NoLateEffect (afterMoves host order node moves) := by
  intro ⟨host, order, h⟩
  have hnone := h node [denial, approve, next, next, next, next, next] ⟨rfl, rfl, rfl⟩
  exact hnone.calls _ (List.mem_singleton_self _) rfl
    (asked.decide .approved "bob" none (host.isoformat 0)) rfl

end ApprovalManager

end MassClaw
