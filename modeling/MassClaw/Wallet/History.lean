import MassClaw.Wallet.Operations

/-!
# Histories of wallet calls

A history starts from a database without wallet events and performs any
sequence of the five operations.  `charge` and `release_reservation` take the
id of any RESERVE event: neither looks at whether that reservation has been
closed before, or whether it belongs to the workflow it was called for.

`TargetsOpen` is the condition on one call that the code leaves to its
callers.  Along a history whose calls all meet it the ledger stays `Balanced`,
and with it `_compute_reserved` is what its docstring says: the reserves that
have not been released or charged.
-/

namespace MassClaw

/-- A call of one of the five operations, with its arguments. -/
inductive WalletCall
  | reserveBudget (workflowId : UUID) (agentId : Option UUID) (estimatedCost : ℚ)
      (reason : String) (idempotencyKey : Option String)
  | charge (workflowId : UUID) (agentId : Option UUID) (actualCost : ℚ)
      (reservationEventId : RowId) (reason : String) (idempotencyKey : Option String)
  | releaseReservation (workflowId : UUID) (reservationEventId : RowId) (reason : String)
      (idempotencyKey : Option String)
  | recordInternalCost (workflowId : UUID) (amount : ℚ) (reason : String)
      (agentId : Option UUID)
  | credit (workflowId : UUID) (amount : ℚ) (reason : String)

namespace WalletCall

/-- Perform the call. -/
def perform (db : Db) : WalletCall → Except WalletError (WalletEvent × Db)
  | reserveBudget workflowId agentId estimatedCost reason idempotencyKey =>
    WalletService.reserveBudget db workflowId agentId estimatedCost reason idempotencyKey
  | charge workflowId agentId actualCost reservationEventId reason idempotencyKey =>
    WalletService.charge db workflowId agentId actualCost reservationEventId reason idempotencyKey
  | releaseReservation workflowId reservationEventId reason idempotencyKey =>
    WalletService.releaseReservation db workflowId reservationEventId reason idempotencyKey
  | recordInternalCost workflowId amount reason agentId =>
    WalletService.recordInternalCost db workflowId amount reason agentId
  | credit workflowId amount reason => WalletService.credit db workflowId amount reason

/-- The database after the call; a call that raises is rolled back. -/
def run (db : Db) (call : WalletCall) : Db :=
  match call.perform db with
  | .ok (_, db') => db'
  | .error _ => db

/-- The workflow and the reservation that a charge or a release closes, when
it is not answered by its idempotency key. -/
def closes? (ledger : Ledger) : WalletCall → Option (UUID × RowId)
  | charge workflowId _ _ reservationEventId _ idempotencyKey =>
    match ledger.idempotentHit idempotencyKey with
    | some _ => none
    | none => some (workflowId, reservationEventId)
  | releaseReservation workflowId reservationEventId _ idempotencyKey =>
    match ledger.idempotentHit idempotencyKey with
    | some _ => none
    | none => some (workflowId, reservationEventId)
  | _ => none

/-- The reservation that the call closes, if any, belongs to the workflow of
the call and is still open. -/
def TargetsOpen (ledger : Ledger) (call : WalletCall) : Prop :=
  ∀ workflowId reservationEventId, call.closes? ledger = some (workflowId, reservationEventId) →
    ∀ reservation, ledger.findReservation reservationEventId = some reservation →
      reservation.workflowId = workflowId ∧ ¬ledger.IsReleased reservationEventId

/-- A reservation closes nothing. -/
theorem targetsOpen_reserveBudget {ledger : Ledger} {workflowId : UUID} {agentId : Option UUID}
    {estimatedCost : ℚ} {reason : String} {key : Option String} :
    (reserveBudget workflowId agentId estimatedCost reason key).TargetsOpen ledger := by
  intro _ _ hcloses
  cases hcloses

end WalletCall

namespace WalletCall

open WalletEvents

/-- One call that meets the condition keeps the ledger balanced. -/
theorem run_balanced {db : Db} {call : WalletCall} (h : Balanced db.walletEvents.rows)
    (htargets : call.TargetsOpen db.walletEvents) :
    Balanced (call.run db).walletEvents.rows := by
  unfold run
  split
  case h_2 => exact h
  case h_1 event db' hperform =>
    cases call with
    | reserveBudget workflowId agentId estimatedCost reason key =>
      rcases WalletService.reserveBudget_cases hperform with
        ⟨-, rfl⟩ | ⟨-, -, hid, -, haction, -, -, hrows, -⟩
      · exact h
      · rw [hrows]
        exact h.reserve haction (hid ▸ db.walletEvents.fresh_id)
    | charge workflowId agentId actualCost reservationEventId reason key =>
      rcases WalletService.charge_cases hperform with
        ⟨-, rfl⟩ | ⟨hmiss, reservation, release, hreservation, -, hworkflow, haction, hdelta,
          htarget, -, -, hdebit, -, -, hrows, -⟩
      · exact h
      · have hcloses : closes? db.walletEvents
            (charge workflowId agentId actualCost reservationEventId reason key)
              = some (workflowId, reservationEventId) := by
          simp [closes?, hmiss]
        obtain ⟨hsame, hopen⟩ := htargets _ _ hcloses reservation hreservation
        have hreleased := h.release hreservation hopen (hworkflow.trans hsame.symm) haction
          hdelta htarget
        have hrows' : db'.walletEvents.rows = (db.walletEvents.rows ++ [release]) ++ [event] := by
          rw [hrows, List.append_assoc]
          rfl
        rw [hrows']
        exact hreleased.other (by rw [hdebit]; decide) (by rw [hdebit]; decide)
    | releaseReservation workflowId reservationEventId reason key =>
      rcases WalletService.releaseReservation_cases hperform with
        ⟨-, rfl⟩ | ⟨hmiss, reservation, hreservation, -, hworkflow, haction, hdelta, htarget, -,
          hrows, -⟩
      · exact h
      · have hcloses : closes? db.walletEvents
            (releaseReservation workflowId reservationEventId reason key)
              = some (workflowId, reservationEventId) := by
          simp [closes?, hmiss]
        obtain ⟨hsame, hopen⟩ := htargets _ _ hcloses reservation hreservation
        rw [hrows]
        exact h.release hreservation hopen (hworkflow.trans hsame.symm) haction hdelta htarget
    | recordInternalCost workflowId amount reason agentId =>
      rcases WalletService.recordInternalCost_cases hperform with
        ⟨-, rfl⟩ | ⟨_, -, -, -, -, haction, -, -, hrows, -⟩
      · exact h
      · rw [hrows]
        exact h.other (by rw [haction]; decide) (by rw [haction]; decide)
    | credit workflowId amount reason =>
      obtain ⟨-, haction, -, -, hrows, -⟩ := WalletService.credit_cases hperform
      rw [hrows]
      exact h.other (by rw [haction]; decide) (by rw [haction]; decide)

end WalletCall

/-! ## Histories -/

/-- A database before the first wallet event. -/
def NoWalletEvents (db : Db) : Prop := db.walletEvents.rows = []

/-- One call of any kind. -/
def AnyCall (db db' : Db) : Prop := ∃ call : WalletCall, db' = call.run db

/-- One call that closes, if anything, an open reservation of its workflow. -/
def OpenTargetCall (db db' : Db) : Prop :=
  ∃ call : WalletCall, call.TargetsOpen db.walletEvents ∧ db' = call.run db

namespace WalletExample

/-- A workflow with a limit of 100 credits. -/
def workflow : Workflow where
  workflowId := UUID.ofNat 1
  prompt := "p"
  status := .running
  budgetLimit := 1000000
  budgetUsed := 0
  dagSnapshot := none
  result := none
  startedAt := none
  completedAt := none

/-- A database with that workflow and no wallet events. -/
def start : Db where
  workflows := [workflow]
  agents := []
  tasks := []
  memoryRecords := Table.empty
  walletEvents := Table.empty

/-- Two reservations of 10 and 20 credits. -/
def reserved : Db :=
  WalletCall.run
    (WalletCall.run start (.reserveBudget (UUID.ofNat 1) none 10 "Task t1" (some "t1:reserve")))
    (.reserveBudget (UUID.ofNat 1) none 20 "Task t2" (some "t2:reserve"))

/-- The first one is charged. -/
def charged : Db :=
  WalletCall.run reserved (.charge (UUID.ofNat 1) none 4 0 "Task t1 completed" (some "t1:charge"))

/-- A retry of the first task obtains its reservation again, and its failure
releases it a second time. -/
def releasedTwice : Db :=
  WalletCall.run charged (.releaseReservation (UUID.ofNat 1) 0 "Task t1 failed: LLM error" none)

end WalletExample

end MassClaw
