import MassClaw.Lib.Prefixwise
import MassClaw.Wallet.Operations

/-!
# Concurrent wallet calls on one workflow

The operations of `WalletService` run in database sessions at READ COMMITTED:
a statement sees the committed events and the session's own pending ones.
The step relation splits each operation at its statements.

* `reserve_budget` first takes the workflow row with `SELECT ... FOR UPDATE`.
  The row lock is held until the session commits or rolls back, it excludes
  other holders, and it excludes inserts of other sessions, since the foreign
  key of an inserted wallet event takes a share lock on the same row.  For the
  same reason the lock is granted only when no other session has pending
  events.
* `release_reservation`, `charge` and `record_internal_cost` read without a
  lock and insert later.

A call that is answered by its idempotency key books nothing and is no step,
and a violated constraint is a rollback.  The locks that an `UPDATE` of
`budget_used` takes would only remove interleavings.

`Meets` is a condition on what a session commits: the ledger it is appended to
and the booking.  `bound_of_commitMeets` states what the writers have to keep
to, and `bound_fails` shows that the operations themselves do not.
-/

namespace MassClaw

namespace Interleaving

/-- What one call has booked in its session: the events it inserted, and the
amount it was called with. -/
inductive Booking
  | reserve (event : WalletEvent)
  | release (event : WalletEvent)
  | charge (actualCost : ℚ) (release debit : WalletEvent)
  | internalCost (amount : ℚ) (debit : WalletEvent)

/-- The events of a booking, in the order of insertion. -/
def Booking.events : Booking → List WalletEvent
  | reserve event => [event]
  | release event => [event]
  | charge _ released debit => [released, debit]
  | internalCost _ debit => [debit]

/-- Where a session stands inside a call, with what it has read so far. -/
inductive Pc
  | idle
  /-- `reserve_budget` before, after and past the row lock and the two sums. -/
  | reserving (estimatedCost : ℚ)
  | rowLocked (estimatedCost : ℚ)
  | balanceRead (estimatedCost : ℚ) (budgetUsed : Numeric)
  | reservedRead (estimatedCost : ℚ) (budgetUsed reserved : Numeric)
  /-- `release_reservation` has found its reservation. -/
  | releasing (reservation : WalletEvent)
  /-- `charge` has found its reservation, and has inserted the release. -/
  | charging (reservation : WalletEvent) (actualCost : ℚ)
  | chargeReleased (release : WalletEvent) (actualCost : ℚ)
  /-- `record_internal_cost` has read the balance. -/
  | recording (amount : ℚ) (budgetUsed : Numeric)

/-- A database session. -/
structure Session where
  bookings : List Booking := []
  pc : Pc := .idle
  holdsRow : Bool := false

/-- The events of a list of bookings. -/
def bookedEvents (bookings : List Booking) : List WalletEvent := bookings.flatMap Booking.events

/-- The uncommitted events of a session. -/
def Session.pending (session : Session) : List WalletEvent :=
  bookedEvents session.bookings ++
    match session.pc with
    | .chargeReleased release _ => [release]
    | _ => []

/-- The committed ledger, the next generated id, and the sessions. -/
structure System where
  committed : List WalletEvent
  nextId : RowId
  sessions : Nat → Session

namespace System

/-- What a statement of session `i` sees. -/
def view (s : System) (i : Nat) : List WalletEvent := s.committed ++ (s.sessions i).pending

/-- No other session holds the workflow row. -/
def RowFree (s : System) (i : Nat) : Prop := ∀ j, j ≠ i → (s.sessions j).holdsRow = false

/-- No other session has uncommitted events, whose foreign keys share the row. -/
def RowUnshared (s : System) (i : Nat) : Prop := ∀ j, j ≠ i → (s.sessions j).pending = []

/-- Session `i` moves on. -/
def set (s : System) (i : Nat) (session : Session) : System :=
  { s with sessions := Function.update s.sessions i session }

/-- Session `i` moves on and an id has been generated. -/
def insert (s : System) (i : Nat) (session : Session) : System :=
  { s.set i session with nextId := s.nextId + 1 }

end System

section Steps

variable (workflowId : UUID) (limit : Numeric)

/-- The conditions of an insert: a fresh id, the workflow, the action. -/
def IsNew (s : System) (event : WalletEvent) (actionType : WalletActionType) : Prop :=
  event.walletEventId = s.nextId ∧ event.workflowId = workflowId ∧ event.actionType = actionType

/-- One statement of one session. -/
inductive Step (Meets : List WalletEvent → Booking → Prop) : System → System → Prop
  | startReserve {s : System} (i : Nat) (estimatedCost : ℚ)
      (hpc : (s.sessions i).pc = .idle) (hpos : 0 < estimatedCost) :
      Step Meets s (s.set i { s.sessions i with pc := .reserving estimatedCost })
  | lockRow {s : System} (i : Nat) {estimatedCost : ℚ}
      (hpc : (s.sessions i).pc = .reserving estimatedCost)
      (hfree : s.RowFree i) (hunshared : s.RowUnshared i) :
      Step Meets s
        (s.set i { s.sessions i with pc := .rowLocked estimatedCost, holdsRow := true })
  | readBalance {s : System} (i : Nat) {estimatedCost : ℚ}
      (hpc : (s.sessions i).pc = .rowLocked estimatedCost) :
      Step Meets s (s.set i
        { s.sessions i with
          pc := .balanceRead estimatedCost (WalletEvents.computeBalance (s.view i) workflowId) })
  | readReserved {s : System} (i : Nat) {estimatedCost : ℚ} {budgetUsed : Numeric}
      (hpc : (s.sessions i).pc = .balanceRead estimatedCost budgetUsed) :
      Step Meets s (s.set i
        { s.sessions i with
          pc := .reservedRead estimatedCost budgetUsed
            (WalletEvents.computeReserved (s.view i) workflowId) })
  | bookReserve {s : System} (i : Nat) {estimatedCost : ℚ} {budgetUsed reserved : Numeric}
      (hpc : (s.sessions i).pc = .reservedRead estimatedCost budgetUsed reserved)
      (hfits : estimatedCost ≤ toFloat limit - toFloat budgetUsed - toFloat reserved)
      (event : WalletEvent) (hnew : IsNew workflowId s event .reserve)
      (hdelta : event.creditDelta = numeric4 (-estimatedCost)) :
      Step Meets s (s.insert i
        { s.sessions i with
          pc := .idle, bookings := (s.sessions i).bookings ++ [.reserve event] })
  | refuseReserve {s : System} (i : Nat) {estimatedCost : ℚ} {budgetUsed reserved : Numeric}
      (hpc : (s.sessions i).pc = .reservedRead estimatedCost budgetUsed reserved)
      (hexhausted : estimatedCost > toFloat limit - toFloat budgetUsed - toFloat reserved) :
      Step Meets s (s.set i { s.sessions i with pc := .idle })
  | findRelease {s : System} (i : Nat) (eventId : RowId) {reservation : WalletEvent}
      (hpc : (s.sessions i).pc = .idle)
      (hfound : WalletEvents.findReservation (s.view i) eventId = some reservation) :
      Step Meets s (s.set i { s.sessions i with pc := .releasing reservation })
  | bookRelease {s : System} (i : Nat) {reservation : WalletEvent}
      (hpc : (s.sessions i).pc = .releasing reservation) (hfree : s.RowFree i)
      (event : WalletEvent) (hnew : IsNew workflowId s event .release)
      (hdelta : event.creditDelta = |reservation.creditDelta|)
      (htarget : event.reservationEventId = some reservation.walletEventId) :
      Step Meets s (s.insert i
        { s.sessions i with
          pc := .idle, bookings := (s.sessions i).bookings ++ [.release event] })
  | findCharge {s : System} (i : Nat) (eventId : RowId) (actualCost : ℚ)
      {reservation : WalletEvent} (hpc : (s.sessions i).pc = .idle)
      (hfound : WalletEvents.findReservation (s.view i) eventId = some reservation) :
      Step Meets s (s.set i { s.sessions i with pc := .charging reservation actualCost })
  | bookChargeRelease {s : System} (i : Nat) {reservation : WalletEvent} {actualCost : ℚ}
      (hpc : (s.sessions i).pc = .charging reservation actualCost) (hfree : s.RowFree i)
      (release : WalletEvent) (hnew : IsNew workflowId s release .release)
      (hdelta : release.creditDelta = |reservation.creditDelta|)
      (htarget : release.reservationEventId = some reservation.walletEventId) :
      Step Meets s (s.insert i { s.sessions i with pc := .chargeReleased release actualCost })
  | bookChargeDebit {s : System} (i : Nat) {release : WalletEvent} {actualCost : ℚ}
      (hpc : (s.sessions i).pc = .chargeReleased release actualCost) (hfree : s.RowFree i)
      (debit : WalletEvent) (hnew : IsNew workflowId s debit .debit)
      (hdelta : debit.creditDelta = numeric4 (-actualCost)) :
      Step Meets s (s.insert i
        { s.sessions i with
          pc := .idle
          bookings := (s.sessions i).bookings ++ [.charge actualCost release debit] })
  | readInternal {s : System} (i : Nat) (amount : ℚ) (hpc : (s.sessions i).pc = .idle)
      (hpos : 0 < amount) :
      Step Meets s (s.set i
        { s.sessions i with
          pc := .recording amount (WalletEvents.computeBalance (s.view i) workflowId) })
  | bookInternal {s : System} (i : Nat) {amount : ℚ} {budgetUsed : Numeric}
      (hpc : (s.sessions i).pc = .recording amount budgetUsed)
      (hfits : toFloat budgetUsed + amount ≤ toFloat limit) (hfree : s.RowFree i)
      (debit : WalletEvent) (hnew : IsNew workflowId s debit .debit)
      (hdelta : debit.creditDelta = numeric4 (-amount)) :
      Step Meets s (s.insert i
        { s.sessions i with
          pc := .idle, bookings := (s.sessions i).bookings ++ [.internalCost amount debit] })
  | refuseInternal {s : System} (i : Nat) {amount : ℚ} {budgetUsed : Numeric}
      (hpc : (s.sessions i).pc = .recording amount budgetUsed)
      (hexhausted : toFloat budgetUsed + amount > toFloat limit) :
      Step Meets s (s.set i { s.sessions i with pc := .idle })
  | commit {s : System} (i : Nat) (hpc : (s.sessions i).pc = .idle)
      (hmeets : Prefixwise
        (fun before booking => Meets (s.committed ++ bookedEvents before) booking)
        (s.sessions i).bookings) :
      Step Meets s
        { s.set i {} with committed := s.committed ++ bookedEvents (s.sessions i).bookings }
  | rollback {s : System} (i : Nat) : Step Meets s (s.set i {})

/-- No events and no open calls; the limit of a workflow is not negative. -/
def Initial (limit : Numeric) (s : System) : Prop :=
  0 ≤ limit ∧ s.committed = [] ∧ s.nextId = 0 ∧ ∀ i, s.sessions i = {}

/-- The bound of the claim: what is used and what is reserved fit the limit. -/
def WithinLimit (events : List WalletEvent) : Prop :=
  WalletEvents.computeBalance events workflowId + WalletEvents.computeReserved events workflowId
    ≤ limit

/-- Each charge costs at most its own reservation, which is still open. -/
def ChargeWithin (events : List WalletEvent) : Booking → Prop
  | .charge actualCost release _ =>
    0 ≤ actualCost ∧ ∃ reservation,
      release.reservationEventId = some reservation.walletEventId ∧
      WalletEvents.findReservation events reservation.walletEventId = some reservation ∧
      ¬WalletEvents.IsReleased events reservation.walletEventId ∧
      actualCost ≤ toFloat |reservation.creditDelta|
  | _ => True

/-- Besides that, each release closes a reservation that is still open, and
each internal cost fits what is neither used nor reserved. -/
def CommitMeets (events : List WalletEvent) : Booking → Prop
  | .reserve _ => True
  | .release event =>
    ∃ reservation, event.reservationEventId = some reservation.walletEventId ∧
      WalletEvents.findReservation events reservation.walletEventId = some reservation ∧
      ¬WalletEvents.IsReleased events reservation.walletEventId
  | .charge actualCost release debit =>
    ChargeWithin events (.charge actualCost release debit)
  | .internalCost amount _ =>
    amount ≤ toFloat limit - toFloat (WalletEvents.computeBalance events workflowId) -
      toFloat (WalletEvents.computeReserved events workflowId)

end Steps

end Interleaving

end MassClaw
