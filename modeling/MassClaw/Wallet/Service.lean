import MassClaw.Core.Models

/-!
# The wallet, `app/services/wallet_service.py`

Every operation either raises or books events.  The balance and the reserved
amount are computed from the events of a workflow each time.

A raised error leaves no trace in the database: the caller's transaction is
rolled back.  The Redis balance cache and the published events do not influence
the ledger and are left out.
-/

namespace MassClaw

/-- What an operation of the wallet raises. -/
inductive WalletError
  /-- `ValidationError("Estimated cost must be positive")`. -/
  | validation
  /-- `NotFoundError(resource, id)`. -/
  | notFound (resource : String)
  /-- `BudgetExhaustedError`, with the amounts of its message. -/
  | budgetExhausted (need available limit used reserved : ℚ)
  /-- `IntegrityError`: a foreign key or the unique constraint. -/
  | integrity
  /-- `DataError`: an amount does not fit `Numeric(12, 4)`. -/
  | numericOverflow
  deriving DecidableEq

/-- `Numeric(12, 4)` holds eight digits before the decimal point. -/
def numericFits (amount : Numeric) : Bool := amount.natAbs < 10 ^ 12

/-! ## The sums over the events of a workflow -/

namespace WalletEvents

/-- The sum of `credit_delta` over the events of a workflow with an action type. -/
def sumDeltas (events : List WalletEvent) (workflowId : UUID) (actionType : WalletActionType) :
    Numeric :=
  ((events.filter (fun event =>
    event.workflowId = workflowId ∧ event.actionType = actionType)).map
      WalletEvent.creditDelta).sum

/-- The sum of `abs(credit_delta)` over the events of a workflow with an action type. -/
def sumAbsDeltas (events : List WalletEvent) (workflowId : UUID) (actionType : WalletActionType) :
    Numeric :=
  ((events.filter (fun event =>
    event.workflowId = workflowId ∧ event.actionType = actionType)).map
      (fun event => |event.creditDelta|)).sum

/-- `_compute_balance_from_events`. -/
def computeBalance (events : List WalletEvent) (workflowId : UUID) : Numeric :=
  max 0 (|sumDeltas events workflowId .debit| - sumDeltas events workflowId .credit)

/-- `_compute_reserved`. -/
def computeReserved (events : List WalletEvent) (workflowId : UUID) : Numeric :=
  max 0 (sumAbsDeltas events workflowId .reserve - sumDeltas events workflowId .release)

/-- The lookup of a RESERVE event by its id. -/
def findReservation (events : List WalletEvent) (eventId : RowId) : Option WalletEvent :=
  events.find? (fun event => event.walletEventId = eventId ∧ event.actionType = .reserve)

end WalletEvents

namespace Ledger

/-- `_compute_balance_from_events` on the table. -/
def computeBalance (ledger : Ledger) (workflowId : UUID) : Numeric :=
  WalletEvents.computeBalance ledger.rows workflowId

/-- `_compute_reserved` on the table. -/
def computeReserved (ledger : Ledger) (workflowId : UUID) : Numeric :=
  WalletEvents.computeReserved ledger.rows workflowId

/-- `_find_by_idempotency_key`. -/
def findByIdempotencyKey (ledger : Ledger) (key : String) : Option WalletEvent :=
  ledger.rows.find? (fun event => event.idempotencyKey = some key)

/-- The lookup of a RESERVE event in the table. -/
def findReservation (ledger : Ledger) (eventId : RowId) : Option WalletEvent :=
  WalletEvents.findReservation ledger.rows eventId

/-- The idempotency check at the start of an operation.  An empty key counts
as no key. -/
def idempotentHit (ledger : Ledger) (key : Option String) : Option WalletEvent :=
  match key with
  | none => none
  | some key => if key = "" then none else ledger.findByIdempotencyKey key

end Ledger

namespace Db

/-- `session.add(event)` and `flush`: foreign keys, column range, unique key. -/
def insertWalletEvent (db : Db) (event : WalletEvent) : Except WalletError (WalletEvent × Db) :=
  if db.hasWorkflow event.workflowId && db.hasAgent event.agentId then
    if numericFits event.creditDelta && numericFits event.balanceAfter then
      match db.walletEvents.insert? event with
      | none => .error .integrity
      | some (row, ledger) => .ok (row, { db with walletEvents := ledger })
    else .error .numericOverflow
  else .error .integrity

end Db

namespace WalletService

/-- `reserve_budget`. -/
def reserveBudget (db : Db) (workflowId : UUID) (agentId : Option UUID) (estimatedCost : ℚ)
    (reason : String) (idempotencyKey : Option String) : Except WalletError (WalletEvent × Db) :=
  if estimatedCost ≤ 0 then .error .validation
  else
    match db.walletEvents.idempotentHit idempotencyKey with
    | some existing => .ok (existing, db)
    | none =>
      match db.workflow? workflowId with
      | none => .error (.notFound "Workflow")
      | some workflow =>
        let budgetUsed := db.walletEvents.computeBalance workflowId
        let reserved := db.walletEvents.computeReserved workflowId
        let available := toFloat workflow.budgetLimit - toFloat budgetUsed - toFloat reserved
        if estimatedCost > available then
          .error (.budgetExhausted estimatedCost available (toFloat workflow.budgetLimit)
            (toFloat budgetUsed) (toFloat reserved))
        else
          db.insertWalletEvent
            { workflowId, agentId, actionType := .reserve
              creditDelta := numeric4 (-estimatedCost)
              balanceAfter := numeric4 (toFloat budgetUsed + estimatedCost)
              reason
              idempotencyKey }

/-- `charge`: release the reservation and book the actual cost. -/
def charge (db : Db) (workflowId : UUID) (agentId : Option UUID) (actualCost : ℚ)
    (reservationEventId : RowId) (reason : String) (idempotencyKey : Option String) :
    Except WalletError (WalletEvent × Db) :=
  match db.walletEvents.idempotentHit idempotencyKey with
  | some existing => .ok (existing, db)
  | none =>
    match db.walletEvents.findReservation reservationEventId with
    | none => .error (.notFound "Reservation")
    | some reservation => do
      let reservedAmount := |reservation.creditDelta|
      let (_, db) ← db.insertWalletEvent
        { workflowId, agentId, actionType := .release
          creditDelta := reservedAmount
          balanceAfter := 0
          reason := s!"Release reservation {reservationEventId}"
          reservationEventId := some reservationEventId }
      let newBalance := toFloat (db.walletEvents.computeBalance workflowId) + actualCost
      let (chargeEvent, db) ← db.insertWalletEvent
        { workflowId, agentId, actionType := .debit
          creditDelta := numeric4 (-actualCost)
          balanceAfter := numeric4 newBalance
          reason
          reservationEventId := some reservationEventId
          idempotencyKey }
      return (chargeEvent, db.updateWorkflow workflowId (fun workflow =>
        { workflow with budgetUsed := numeric4 newBalance }))

/-- `release_reservation`. -/
def releaseReservation (db : Db) (workflowId : UUID) (reservationEventId : RowId)
    (reason : String) (idempotencyKey : Option String) :
    Except WalletError (WalletEvent × Db) :=
  match db.walletEvents.idempotentHit idempotencyKey with
  | some existing => .ok (existing, db)
  | none =>
    match db.walletEvents.findReservation reservationEventId with
    | none => .error (.notFound "Reservation")
    | some reservation =>
      db.insertWalletEvent
        { workflowId, agentId := reservation.agentId, actionType := .release
          creditDelta := |reservation.creditDelta|
          balanceAfter := 0
          reason
          reservationEventId := some reservationEventId
          idempotencyKey }

/-- `record_internal_cost`.  A cost that is not positive books nothing and
returns the transient event of `_get_noop`. -/
def recordInternalCost (db : Db) (workflowId : UUID) (amount : ℚ) (reason : String)
    (agentId : Option UUID) : Except WalletError (WalletEvent × Db) :=
  if amount ≤ 0 then
    .ok ({ workflowId, agentId := none, actionType := .debit, creditDelta := 0
           balanceAfter := 0, reason := "noop" }, db)
  else
    match db.workflow? workflowId with
    | none => .error (.notFound "Workflow")
    | some workflow =>
      let budgetUsed := db.walletEvents.computeBalance workflowId
      let newBalance := toFloat budgetUsed + amount
      if newBalance > toFloat workflow.budgetLimit then
        .error (.budgetExhausted amount (toFloat workflow.budgetLimit - toFloat budgetUsed)
          (toFloat workflow.budgetLimit) (toFloat budgetUsed) 0)
      else do
        let (event, db) ← db.insertWalletEvent
          { workflowId, agentId, actionType := .debit
            creditDelta := numeric4 (-amount)
            balanceAfter := numeric4 newBalance
            reason }
        return (event, db.updateWorkflow workflowId (fun workflow =>
          { workflow with budgetUsed := numeric4 newBalance }))

/-- `credit`. -/
def credit (db : Db) (workflowId : UUID) (amount : ℚ) (reason : String) :
    Except WalletError (WalletEvent × Db) :=
  match db.workflow? workflowId with
  | none => .error (.notFound "Workflow")
  | some _ =>
    let budgetUsed := db.walletEvents.computeBalance workflowId
    let newBalance := max 0 (toFloat budgetUsed - amount)
    db.insertWalletEvent
      { workflowId, agentId := none, actionType := .credit
        creditDelta := numeric4 amount
        balanceAfter := numeric4 newBalance
        reason }

end WalletService

end MassClaw
