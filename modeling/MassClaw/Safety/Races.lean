import MassClaw.Safety.LateDecisions

/-!
# Racing decisions

`_decide` checks the key when it reads it and replaces it two commands later,
`_mark_expired` does not check it at all.  A race is settled at the `SET`: as
long as every `SET` meets a key that is still undecided, one call at most takes
effect.  Each decision twin belongs to a `SET`, so the calls that have a twin
yet to write and the twins that are written add up to no more than the `SET`s.
-/

namespace MassClaw

namespace ApprovalManager

variable {host : Host} {order : SetOrder} {requestId : String}

/-- One call at most has set the key and one decision twin at most is written;
and a status that the key shows after `pending` is the only one that it shows
from then on. -/
structure OneEffect (host : Host) (order : SetOrder) (node : Node requestId)
    (moves : List (Move requestId)) : Prop where
  decisions : (afterMoves host order node moves).shared.decisions.length ≤ 1
  written : (afterMoves host order node moves).shared.written.length ≤ 1
  status : ∀ earlier later, earlier <+: later → later <+: moves → ∀ found,
    (afterMoves host order node earlier).shared.stored = some found →
    found.request.status ≠ "pending" → ∀ found',
    (afterMoves host order node later).shared.stored = some found' →
    found'.request.status = found.request.status

/-- The calls of `ApprovalManager` and the janitor, which do not fall back to
the twins as the endpoints do. -/
def Move.OfManager : Move requestId → Prop
  | .begin (.decide _ _ _ fallback) => fallback = false
  | _ => True

/-- A decision has been stored, by a call or before the first call. -/
def Holding.WasDecided (start : Option (StoredRequest requestId)) (holding : Holding requestId) :
    Prop :=
  holding.decisions ≠ [] ∨ ∃ found, start = some found ∧ found.request.status ≠ "pending"

/-- The key still holds a pending request, or is gone before any decision. -/
def Holding.IsOpen (start : Option (StoredRequest requestId)) (holding : Holding requestId) :
    Prop :=
  match holding.stored with
  | some found => found.request.status = "pending"
  | none => ¬holding.WasDecided start

/-- A `SET` that succeeds meets an undecided key. -/
def Move.SetsOpen (start : Option (StoredRequest requestId)) (node : Node requestId) :
    Move requestId → Prop
  | .advance index input =>
    ∀ call request ttl, node.processes[index]? = some call → call.phase = .setKey request ttl →
      input.failing = false → ttl ≠ 0 → node.shared.IsOpen start
  | _ => True

/-! ## The calls -/

/-- The phases of the calls of `ApprovalManager` and the janitor. -/
def Phase.isManager : Phase requestId → Bool
  | .readKey _ _ _ fallback => !fallback
  | .hydrate _ _ _ => false
  | .writeTwin _ => false
  | _ => true

/-- The twins that a call has yet to write. -/
def Phase.owes : Phase requestId → Nat
  | .leavePendingSet _ => 1
  | .writeDecision _ => 1
  | _ => 0

theorem isManager_run {holding : Holding requestId} {call : Call requestId} {input : Input}
    (h : call.phase.isManager = true) :
    (call.run host order holding input).2.phase.isManager = true := by
  obtain ⟨phase, late⟩ := call
  cases phase with
  | readKey decision decidedBy reason fallback =>
    have hfallback : fallback = false := by simpa [Phase.isManager] using h
    simp only [Call.run, hfallback, Bool.false_and]
    repeat' split
    all_goals first | rfl | contradiction
  | hydrate decision decidedBy reason => cases h
  | writeTwin request => cases h
  | _ =>
    simp only [Call.run]
    repeat' split
    all_goals rfl

/-- A twin that is written was owed, and what a call owes it has set. -/
theorem owes_run {holding : Holding requestId} {call : Call requestId} {input : Input}
    (h : call.phase.isManager = true) :
    (call.run host order holding input).1.written.length +
        (call.run host order holding input).2.phase.owes + holding.decisions.length ≤
      holding.written.length + call.phase.owes +
        (call.run host order holding input).1.decisions.length := by
  obtain ⟨phase, late⟩ := call
  cases phase with
  | writeTwin request => cases h
  | setKey request ttl =>
    simp only [Call.run]
    split
    · simp only [Phase.owes, Nat.le_refl]
    · show holding.written.length + 1 + holding.decisions.length ≤
        holding.written.length + 0 + (holding.decisions ++ [_]).length
      rw [List.length_append, List.length_singleton]
      omega
  | leavePendingSet request =>
    simp only [Call.run]
    split
    · show holding.written.length + 0 + holding.decisions.length ≤
        holding.written.length + 1 + holding.decisions.length
      omega
    · simp only [Phase.owes, Nat.le_refl]
  | writeDecision request =>
    simp only [Call.run]
    split
    · show holding.written.length + 0 + holding.decisions.length ≤
        holding.written.length + 1 + holding.decisions.length
      omega
    · show (holding.written ++ [_]).length + 0 + holding.decisions.length ≤
        holding.written.length + 1 + holding.decisions.length
      rw [List.length_append, List.length_singleton]
  | _ =>
    simp only [Call.run]
    repeat' split
    all_goals simp only [Phase.owes, Nat.le_refl]

/-! ## The invariant -/

/-- At most one decision is stored, and a decided key is not pending. -/
structure OneDecision (start : Option (StoredRequest requestId)) (holding : Holding requestId) :
    Prop where
  one : holding.decisions.length ≤ 1
  decided : holding.decisions ≠ [] → ∀ found, holding.stored = some found →
    found.request.status ≠ "pending"
  origin : ∀ found, holding.stored = some found → found.request.status ≠ "pending" →
    holding.WasDecided start

/-- A call of the manager, with what it decides. -/
structure Deciding (call : Call requestId) : Prop where
  manager : call.phase.isManager = true
  decided : ∀ request, call.phase.carried = some request → request.status ≠ "pending"

/-- The invariant of a node. -/
structure OneInvariant (start : Option (StoredRequest requestId)) (node : Node requestId) :
    Prop where
  holds : Interleave.Config.Holds (OneDecision start) (fun _ call => Deciding call) node
  twins : node.shared.written.length + node.total (fun call => call.phase.owes) ≤
    node.shared.decisions.length

/-- An open key is set for the first time. -/
theorem decisions_of_isOpen {start : Option (StoredRequest requestId)}
    {holding : Holding requestId} (h : OneDecision start holding)
    (hopen : holding.IsOpen start) : holding.decisions = [] := by
  unfold Holding.IsOpen at hopen
  split at hopen
  · rename_i found hstored
    by_contra hdecisions
    exact h.decided hdecisions found hstored hopen
  · by_contra hdecisions
    exact hopen (Or.inl hdecisions)

theorem deciding_begin (entry : Entry requestId) (late : Bool)
    (h : (Move.begin entry).OfManager) : Deciding { phase := entry.phase host, late } := by
  cases entry with
  | decide decision decidedBy reason fallback =>
    have hfallback : fallback = false := h
    refine ⟨by rw [hfallback]; rfl, fun request hcarried => ?_⟩
    cases hcarried
  | markExpired request now =>
    refine ⟨rfl, fun decided hdecided => ?_⟩
    rw [← Option.some.inj hdecided, RequestOf.status_expire]
    decide
  | reapExpired =>
    refine ⟨rfl, fun request hcarried => ?_⟩
    cases hcarried

/-- One command keeps the invariant of the key, if a `SET` meets an open key. -/
theorem oneDecision_run {start : Option (StoredRequest requestId)} {holding : Holding requestId}
    {call : Call requestId} {input : Input} (h : OneDecision start holding)
    (hcall : Deciding call)
    (hopen : ∀ request ttl, call.phase = .setKey request ttl → input.failing = false → ttl ≠ 0 →
      holding.IsOpen start) :
    OneDecision start (call.run host order holding input).1 := by
  rcases run_cases holding call input with
    ⟨pending, hrun⟩ | ⟨request, ttl, hphase, hfailing, httl, hrun⟩ | ⟨request, hphase, hrun⟩
  · rw [hrun]
    exact ⟨h.one, h.decided, h.origin⟩
  · rw [hrun]
    have hnone := decisions_of_isOpen h (hopen request ttl hphase hfailing httl)
    have hrequest : request.status ≠ "pending" :=
      hcall.decided request (by rw [hphase]; rfl)
    refine ⟨?_, fun _ found hfound => ?_, fun _ _ _ => Or.inl ?_⟩
    · show (holding.decisions ++ [_]).length ≤ 1
      rw [hnone]
      exact Nat.le_refl 1
    · cases hfound
      exact hrequest
    · show holding.decisions ++ [_] ≠ []
      simp
  · rw [hrun]
    exact ⟨h.one, h.decided, h.origin⟩

/-- One move keeps the invariant, if a `SET` meets an open key. -/
theorem oneInvariant_move {start : Option (StoredRequest requestId)} {node : Node requestId}
    {next : Move requestId} (hmanager : next.OfManager) (hopen : next.SetsOpen start node)
    (h : OneInvariant start node) : OneInvariant start (move host order node next) := by
  cases next with
  | begin entry =>
    have howes : (entry.phase host).owes = 0 := by cases entry <;> rfl
    refine ⟨h.holds.spawn (deciding_begin entry _ hmanager), ?_⟩
    show node.shared.written.length + (node.spawn _).total (fun call => call.phase.owes) ≤
      node.shared.decisions.length
    rw [Interleave.Config.total_spawn, howes]
    exact h.twins
  | advance index input =>
    refine ⟨h.holds.advance (fun call hcall hone hdeciding => ⟨?_, ?_, fun _ _ => id⟩), ?_⟩
    · exact oneDecision_run hone hdeciding (fun request ttl => hopen call request ttl hcall)
    · exact ⟨isManager_run hdeciding.manager, carried_decided hdeciding.decided⟩
    · show ((node.advance (Call.run host order) index input).shared.written.length +
        (node.advance (Call.run host order) index input).total (fun call => call.phase.owes) ≤
        (node.advance (Call.run host order) index input).shared.decisions.length)
      cases hcall : node.processes[index]? with
      | none =>
        unfold Interleave.Config.advance
        rw [hcall]
        exact h.twins
      | some call =>
        have htotal : (node.advance (Call.run host order) index input).total
              (fun call => call.phase.owes) + call.phase.owes =
            node.total (fun call => call.phase.owes) +
              (call.run host order node.shared input).2.phase.owes :=
          Interleave.Config.total_advance (fun call => call.phase.owes) hcall
        have howes : (call.run host order node.shared input).1.written.length +
              (call.run host order node.shared input).2.phase.owes +
                node.shared.decisions.length ≤
            node.shared.written.length + call.phase.owes +
              (call.run host order node.shared input).1.decisions.length :=
          owes_run (h.holds.processes call (List.mem_of_getElem? hcall)).manager
        have htwins := h.twins
        have hshared : (node.advance (Call.run host order) index input).shared =
            (call.run host order node.shared input).1 := by
          unfold Interleave.Config.advance
          rw [hcall]
        rw [hshared]
        omega
  | age ttl =>
    refine ⟨Interleave.Config.Holds.update (f := fun holding =>
      { holding with stored := holding.stored.map (fun found => { found with ttl }) })
      h.holds ?_ (fun _ => id), h.twins⟩
    intro hone
    refine ⟨hone.one, fun hdecisions found hfound => ?_, fun found hfound hstatus => ?_⟩
    · obtain ⟨old, hold, rfl⟩ := Option.map_eq_some_iff.1 hfound
      exact hone.decided hdecisions old hold
    · obtain ⟨old, hold, rfl⟩ := Option.map_eq_some_iff.1 hfound
      exact hone.origin old hold hstatus
  | evict =>
    refine ⟨Interleave.Config.Holds.update (f := fun holding => { holding with stored := none })
      h.holds ?_ (fun _ => id), h.twins⟩
    intro hone
    refine ⟨hone.one, fun _ found hfound => ?_, fun found hfound => ?_⟩
    · cases hfound
    · cases hfound
  | gossip twin place =>
    refine ⟨Interleave.Config.Holds.update (f := fun holding => holding.insertTwin twin place)
      h.holds ?_ (fun _ => id), h.twins⟩
    intro hone
    exact ⟨hone.one, hone.decided, hone.origin⟩

/-! ## The status of the key -/

/-- Once decided, the key shows this status or is gone. -/
structure Settled (start : Option (StoredRequest requestId)) (status : String)
    (holding : Holding requestId) : Prop where
  wasDecided : holding.WasDecided start
  stored : ∀ found, holding.stored = some found → found.request.status = status

theorem not_isOpen_of_settled {start : Option (StoredRequest requestId)} {status : String}
    {holding : Holding requestId} (hstatus : status ≠ "pending")
    (h : Settled start status holding) : ¬holding.IsOpen start := by
  unfold Holding.IsOpen
  split
  · rename_i found hstored
    rw [h.stored found hstored]
    exact hstatus
  · exact not_not.2 h.wasDecided

/-- A settled key stays settled, if a `SET` meets an open key. -/
theorem settled_move {start : Option (StoredRequest requestId)} {status : String}
    {node : Node requestId} {next : Move requestId} (hstatus : status ≠ "pending")
    (hopen : next.SetsOpen start node) (h : Settled start status node.shared) :
    Settled start status (move host order node next).shared := by
  cases next with
  | begin entry => exact h
  | advance index input =>
    show Settled start status (node.advance (Call.run host order) index input).shared
    unfold Interleave.Config.advance
    split
    · exact h
    · rename_i call hcall
      dsimp only
      rcases run_cases node.shared call input with
        ⟨pending, hrun⟩ | ⟨request, ttl, hphase, hfailing, httl, hrun⟩ | ⟨request, hphase, hrun⟩
      · rw [hrun]
        exact ⟨h.wasDecided, h.stored⟩
      · exact absurd (hopen call request ttl hcall hphase hfailing httl)
          (not_isOpen_of_settled hstatus h)
      · rw [hrun]
        exact ⟨h.wasDecided, h.stored⟩
  | age ttl =>
    refine ⟨h.wasDecided, fun found hfound => ?_⟩
    obtain ⟨old, hold, rfl⟩ := Option.map_eq_some_iff.1 hfound
    exact h.stored old hold
  | evict =>
    refine ⟨h.wasDecided, fun found hfound => ?_⟩
    cases hfound
  | gossip twin place => exact ⟨h.wasDecided, h.stored⟩

/-! ## Runs -/

theorem oneInvariant_start {node : Node requestId} (hfresh : IsFresh node) :
    OneInvariant node.shared.stored node := by
  refine ⟨⟨⟨?_, ?_, ?_⟩, ?_⟩, ?_⟩
  · rw [hfresh.decisions]
    exact Nat.zero_le 1
  · intro hdecisions
    exact absurd hfresh.decisions hdecisions
  · intro found hfound hstatus
    exact Or.inr ⟨found, hfound, hstatus⟩
  · rw [hfresh.calls]
    intro call hcall
    cases hcall
  · rw [hfresh.written, Interleave.Config.total, hfresh.calls]
    exact Nat.zero_le _

/-- The invariant after any part of a run in which each `SET` meets an open key. -/
theorem oneInvariant_after {node : Node requestId} {moves : List (Move requestId)}
    (hfresh : IsFresh node)
    (hsteps : ∀ step ∈ moveSteps host order node moves,
      step.2.OfManager ∧ step.2.SetsOpen node.shared.stored step.1) :
    OneInvariant node.shared.stored (afterMoves host order node moves) :=
  Transition.after_invariant
    (P := fun step => step.2.OfManager ∧ step.2.SetsOpen node.shared.stored step.1)
    (fun _ _ hstep h => oneInvariant_move hstep.1 hstep.2 h) hsteps (oneInvariant_start hfresh)

/-- If each `SET` meets a key that is still undecided, one call at most takes
effect. -/
theorem oneEffect_of_setsOpen (host : Host) (order : SetOrder) (node : Node requestId)
    (moves : List (Move requestId)) (hfresh : IsFresh node)
    (hmanager : ∀ next ∈ moves, next.OfManager)
    (hopen : ∀ step ∈ moveSteps host order node moves, step.2.SetsOpen node.shared.stored step.1) :
    OneEffect host order node moves := by
  have hsteps : ∀ step ∈ moveSteps host order node moves,
      step.2.OfManager ∧ step.2.SetsOpen node.shared.stored step.1 :=
    fun step hstep => ⟨hmanager step.2 (Transition.input_mem_of_steps hstep), hopen step hstep⟩
  have hinvariant := oneInvariant_after hfresh hsteps
  have hone := hinvariant.holds.shared.one
  refine ⟨hone, ?_, ?_⟩
  · have htwins := hinvariant.twins
    omega
  · rintro earlier _ ⟨later, rfl⟩ ⟨rest, rfl⟩ found hfound hstatus found' hfound'
    rw [moveSteps, Transition.steps_append, Transition.steps_append] at hsteps
    have hearlier := oneInvariant_after hfresh
      (fun step hstep => hsteps step (List.mem_append_left _ (List.mem_append_left _ hstep)))
    have hsettled : Settled node.shared.stored found.request.status
        (afterMoves host order node earlier).shared := by
      refine ⟨hearlier.holds.shared.origin found hfound hstatus, fun other hother => ?_⟩
      rw [hfound] at hother
      rw [Option.some.inj hother]
    rw [afterMoves, Transition.after_append] at hfound'
    have hlater := Transition.after_invariant (I := fun state => Settled node.shared.stored
        found.request.status state.shared)
      (P := fun step => step.2.OfManager ∧ step.2.SetsOpen node.shared.stored step.1)
      (fun _ _ hstep h => settled_move hstatus hstep.2 h)
      (fun step hstep => hsteps step (List.mem_append_left _ (List.mem_append_right _ hstep)))
      hsettled
    exact hlater.stored found' hfound'

/-! ## Two reviewers -/

open DeniedByPeer GossipService.ImportExample in
/-- One reviewer alone sets the key. -/
theorem oneEffect_of_approve :
    OneEffect constant (FederatedApprovalStore.startingWith "r") node
      [.begin (.decide .approved "bob" none false), next, next, next] := by
  refine oneEffect_of_setsOpen constant (FederatedApprovalStore.startingWith "r") node _
    ⟨rfl, rfl, rfl⟩ (fun other hother => ?_) (fun step hstep => ?_)
  · rcases List.mem_cons.1 hother with rfl | hother
    · rfl
    · rw [List.eq_of_mem_replicate (n := 3) hother]
      trivial
  · simp only [moveSteps, Transition.steps, List.mem_cons, List.not_mem_nil, or_false] at hstep
    rcases hstep with rfl | rfl | rfl | rfl
    · trivial
    · intro call request ttl hcall hphase
      cases hcall
      cases hphase
    · intro call request ttl hcall hphase
      cases hcall
      cases hphase
    · intro call request ttl hcall hphase hfailing httl
      show asked.status = "pending"
      rfl

namespace TwoReviewers

open DeniedByPeer

/-- Both reviewers read the key. -/
def reads : List (Move "r") :=
  [.begin (.decide .approved "bob" none false), .begin (.decide .denied "alice" none false),
    .advance 0 { now := 0 }, .advance 1 { now := 0 }]

/-- The other commands of a call. -/
def finish (index : Nat) : List (Move "r") := List.replicate 4 (.advance index { now := 0 })

/-- The calls after their commands. -/
def calls (first second : Phase "r") : List (Call "r") :=
  [{ phase := first, late := false }, { phase := second, late := false }]

end TwoReviewers

open DeniedByPeer TwoReviewers in
/-- Two reviewers read the key before either of them replaces it, on every host. -/
theorem oneEffect_fails :
    ¬∃ (host : Host) (order : SetOrder), ∀ (node : Node "r") (moves : List (Move "r")),
      IsFresh node → (∀ next ∈ moves, next.OfManager) → OneEffect host order node moves := by
  intro ⟨host, order, h⟩
  have hmanager : ∀ next ∈ reads ++ finish 0 ++ finish 1, next.OfManager := by
    simp [reads, finish, Move.OfManager]
  have hwritten := (h node (reads ++ finish 0 ++ finish 1) ⟨rfl, rfl, rfl⟩ hmanager).written
  let approval := asked.decide .approved "bob" none (host.isoformat 0)
  let denial := asked.decide .denied "alice" none (host.isoformat 0)
  have hreads : Transition.after (move host order) node reads =
      { node with processes := calls (.readTtl approval) (.readTtl denial) } := rfl
  have hfirst : Transition.after (move host order)
      { node with processes := calls (.readTtl approval) (.readTtl denial) } (finish 0) =
      { shared :=
          { stored := some { request := approval, ttl := 3600 }
            twins := [{ request := approval.1 }]
            decisions := [{ request := approval, late := false }]
            written := [{ request := approval, late := false }] }
        processes := calls (.succeeded approval) (.readTtl denial) } := rfl
  rw [afterMoves, Transition.after_append, Transition.after_append, hreads, hfirst] at hwritten
  exact absurd hwritten (Nat.not_succ_le_self 1)

end ApprovalManager

end MassClaw
