import MassClaw.Core.Session
import MassClaw.Wallet.History

/-!
# `reserve_budget` and `release_reservation` in a session

Both calls look for an event of their idempotency key, and book one if there is
none.  If another session has booked an event of the key in the meantime, the
unique constraint refuses the second one, the call rolls the session back and
returns the event of the other session.

The rollback is one of the whole transaction.  A caller that goes on with the
returned event has lost everything that it had written before the call.
-/

namespace MassClaw

open UnitOfWork (Script)
open UnitOfWork.Script (query add flush attempt rollback)

namespace WalletService

/-- The committed database at the queries of a call and at its flush. -/
structure CallMoments where
  check : Db
  lock : Db
  used : Db
  reserved : Db
  reservation : Db
  flush : Db
  reread : Db

/-- The moments of a call that no other session disturbs. -/
def CallMoments.quiet (db : Db) : CallMoments := ⟨db, db, db, db, db, db, db⟩

/-- `_find_by_idempotency_key`, which is called for a key only. -/
def findExisting (moment : Db) (idempotencyKey : Option String) :
    DbScript WalletError (Option WalletEvent) :=
  match idempotencyKey with
  | none => return none
  | some key =>
    if key = "" then return none
    else query moment (fun db => db.walletEvents.findByIdempotencyKey key)

/-- The `INSERT` of an event. -/
def booking (event : WalletEvent) : DbStatement := fun db =>
  match db.insertWalletEvent event with
  | .ok (_, db') => .ok db'
  | .error .numericOverflow => .error .data
  | .error _ => .error .integrity

/-- The end of both calls. -/
def bookOnce (moments : CallMoments) (idempotencyKey : Option String) (event : WalletEvent) :
    DbScript WalletError WalletEvent := do
  add (booking event)
  match ← attempt (flush moments.flush) with
  | .ok _ => DbScript.refresh moments.flush (fun db => db.walletEvents.rows)
  | .error (.statement .integrity) => do
    rollback
    match ← findExisting moments.reread idempotencyKey with
    | some existing => return existing
    | none => throw (.statement .integrity)
  | .error failure => throw failure

/-- `reserve_budget` on a session. -/
def reserveBudgetIn (moments : CallMoments) (workflowId : UUID) (agentId : Option UUID)
    (estimatedCost : ℚ) (reason : String) (idempotencyKey : Option String) :
    DbScript WalletError WalletEvent :=
  if estimatedCost ≤ 0 then throw (.raised .validation)
  else do
    match ← findExisting moments.check idempotencyKey with
    | some existing => return existing
    | none =>
      match ← query moments.lock (fun db => db.workflow? workflowId) with
      | none => throw (.raised (.notFound "Workflow"))
      | some workflow => do
        let budgetUsed ← query moments.used (fun db => db.walletEvents.computeBalance workflowId)
        let reserved ← query moments.reserved (fun db =>
          db.walletEvents.computeReserved workflowId)
        let available := toFloat workflow.budgetLimit - toFloat budgetUsed - toFloat reserved
        if estimatedCost > available then
          throw (.raised (.budgetExhausted estimatedCost available (toFloat workflow.budgetLimit)
            (toFloat budgetUsed) (toFloat reserved)))
        else
          bookOnce moments idempotencyKey
            { workflowId, agentId, actionType := .reserve
              creditDelta := numeric4 (-estimatedCost)
              balanceAfter := numeric4 (toFloat budgetUsed + estimatedCost)
              reason
              idempotencyKey }

/-- `release_reservation` on a session. -/
def releaseReservationIn (moments : CallMoments) (workflowId : UUID) (reservationEventId : RowId)
    (reason : String) (idempotencyKey : Option String) : DbScript WalletError WalletEvent := do
  match ← findExisting moments.check idempotencyKey with
  | some existing => return existing
  | none =>
    match ← query moments.reservation (fun db =>
        db.walletEvents.findReservation reservationEventId) with
    | none => throw (.raised (.notFound "Reservation"))
    | some reservation =>
      bookOnce moments idempotencyKey
        { workflowId, agentId := reservation.agentId, actionType := .release
          creditDelta := |reservation.creditDelta|
          balanceAfter := 0
          reason
          reservationEventId := some reservationEventId
          idempotencyKey }

/-- A call that recovers from a lost race. -/
inductive IdempotentCall
  | reserve (agentId : Option UUID) (estimatedCost : ℚ) (reason : String)
  | release (reservationEventId : RowId) (reason : String)

namespace IdempotentCall

/-- The call on a database of its own. -/
def run (call : IdempotentCall) (db : Db) (workflowId : UUID) (idempotencyKey : Option String) :
    Except WalletError (WalletEvent × Db) :=
  match call with
  | reserve agentId estimatedCost reason =>
    reserveBudget db workflowId agentId estimatedCost reason idempotencyKey
  | release reservationEventId reason =>
    releaseReservation db workflowId reservationEventId reason idempotencyKey

/-- The call on a session. -/
def runIn (call : IdempotentCall) (moments : CallMoments) (workflowId : UUID)
    (idempotencyKey : Option String) : DbScript WalletError WalletEvent :=
  match call with
  | reserve agentId estimatedCost reason =>
    reserveBudgetIn moments workflowId agentId estimatedCost reason idempotencyKey
  | release reservationEventId reason =>
    releaseReservationIn moments workflowId reservationEventId reason idempotencyKey

end IdempotentCall

section Calls

variable {moments : CallMoments} {session left : DbSession} {idempotencyKey : Option String}
  {event row : WalletEvent} {workflowId : UUID}

/-- The check on a settled session. -/
theorem findExisting_settled (h : session.Settled) (moment : Db) :
    (findExisting moment idempotencyKey).exec session =
      (.ok ((session.view moment).walletEvents.idempotentHit idempotencyKey), session) := by
  unfold findExisting Ledger.idempotentHit
  cases idempotencyKey with
  | none => rfl
  | some key =>
    dsimp only
    split
    · rfl
    · exact Script.query_settled h

/-- A booking that goes through returns its row, after all that was written
before. -/
theorem bookOnce_ok (h : session.Settled) {db : Db}
    (hinsert : (session.view moments.flush).insertWalletEvent event = .ok (row, db)) :
    (bookOnce moments idempotencyKey event).exec session =
        (.ok row, session.wrote [booking event]) ∧
      (session.wrote [booking event]).view moments.flush = db := by
  have hbooking : booking event (session.view moments.flush) = .ok db := by
    unfold booking
    rw [hinsert]
  have hview : (session.wrote [booking event]).view moments.flush = db :=
    UnitOfWork.Session.view_wrote hbooking
  refine ⟨?_, hview⟩
  obtain ⟨-, hrows, -⟩ := Db.insertWalletEvent_ok hinsert
  unfold bookOnce
  rw [Script.exec_bind_ok (Script.exec_add _), Script.exec_bind_ok Script.exec_attempt,
    Script.flush_add h, hbooking]
  refine DbScript.refresh_settled (h.wrote _) ?_
  rw [hview, hrows, List.getLast?_concat]

/-- The unique constraint refuses a second event of the key. -/
theorem booking_fails {key : String} {db : Db} (hkey : event.idempotencyKey = some key)
    (h : (db.walletEvents.findByIdempotencyKey key).isSome) :
    ∃ error, booking event db = .error error := by
  unfold booking
  cases hinsert : db.insertWalletEvent event with
  | error error => cases error <;> exact ⟨_, rfl⟩
  | ok result =>
    obtain ⟨row, db'⟩ := result
    obtain ⟨hid, hrows, -⟩ := Db.insertWalletEvent_ok hinsert
    obtain ⟨old, hold⟩ := Option.isSome_iff_exists.1 h
    have hrowKey : walletSchema.unique row = some key := by
      rw [hid]
      exact hkey
    have hsame : old.idempotencyKey = some key := by simpa using List.find?_some hold
    exact absurd hsame
      (Table.unique_ne_of_append hrows hrowKey (List.mem_of_find?_eq_some hold))

/-- A booking that was overtaken returns, if it returns, the event of the other
session, and nothing is left of the transaction. -/
theorem bookOnce_overtaken (h : session.Settled) {key : String} (hne : key ≠ "")
    (hkey : event.idempotencyKey = some key)
    (hseen : ((session.view moments.flush).walletEvents.findByIdempotencyKey key).isSome)
    (hreturns : (bookOnce moments (some key) event).exec session = (.ok row, left)) :
    left = UnitOfWork.Session.fresh ∧
      moments.reread.walletEvents.findByIdempotencyKey key = some row := by
  obtain ⟨error, herror⟩ := booking_fails hkey hseen
  unfold bookOnce at hreturns
  rw [Script.exec_bind_ok (Script.exec_add _), Script.exec_bind_ok Script.exec_attempt,
    Script.flush_add h, herror] at hreturns
  cases error with
  | data => cases hreturns
  | notPersisted => cases hreturns
  | integrity =>
    dsimp only at hreturns
    have hfresh : (UnitOfWork.Session.fresh : DbSession).Settled := ⟨rfl, rfl⟩
    rw [Script.exec_bind_ok Script.exec_rollback,
      Script.exec_bind_ok (findExisting_settled hfresh moments.reread),
      UnitOfWork.Session.view_fresh, Ledger.idempotentHit, if_neg hne] at hreturns
    cases hfound : moments.reread.walletEvents.findByIdempotencyKey key with
    | none =>
      rw [hfound] at hreturns
      cases hreturns
    | some existing =>
      rw [hfound] at hreturns
      cases hreturns
      exact ⟨rfl, rfl⟩

/-- A check leaves a settled session with the same writes. -/
theorem findExisting_some {moment : Db} {key : String} (hne : key ≠ "")
    {found : Option WalletEvent}
    (h : (findExisting moment (some key)).exec session = (.ok found, left)) :
    left.Settled ∧ left.contents = session.contents := by
  unfold findExisting at h
  dsimp only at h
  rw [if_neg hne] at h
  obtain ⟨hsettled, hcontents, -⟩ := Script.query_ok h
  exact ⟨hsettled, hcontents⟩

end Calls

/-! ## The calls -/

namespace IdempotentCall

variable {call : IdempotentCall} {moments : CallMoments} {session checked left : DbSession}
  {idempotencyKey : Option String} {event : WalletEvent} {workflowId : UUID}

/-- A call that finds an event of its key at the check returns it, and keeps the
earlier writes of the session. -/
theorem runIn_hit {key : String} (hne : key ≠ "") {existing : WalletEvent}
    (hcheck : (findExisting moments.check (some key)).exec session = (.ok (some existing), checked))
    (hreturns : (call.runIn moments workflowId (some key)).exec session = (.ok event, left)) :
    event = existing ∧ session.StillWritten left := by
  have hsame : event = existing ∧ left = checked := by
    cases call with
    | reserve agentId estimatedCost reason =>
      unfold runIn reserveBudgetIn at hreturns
      dsimp only at hreturns
      split at hreturns
      · cases hreturns
      · rw [Script.exec_bind_ok hcheck] at hreturns
        cases hreturns
        exact ⟨rfl, rfl⟩
    | release reservationEventId reason =>
      unfold runIn releaseReservationIn at hreturns
      dsimp only at hreturns
      rw [Script.exec_bind_ok hcheck] at hreturns
      cases hreturns
      exact ⟨rfl, rfl⟩
  obtain ⟨hevent, rfl⟩ := hsame
  exact ⟨hevent, DbSession.stillWritten_of_eq (findExisting_some hne hcheck).2⟩

/-- A call that returns after its check has found nothing has booked an event of
its key. -/
theorem runIn_books (hsettled : checked.Settled)
    (hcheck : (findExisting moments.check idempotencyKey).exec session = (.ok none, checked))
    (hreturns : (call.runIn moments workflowId idempotencyKey).exec session = (.ok event, left)) :
    ∃ booked, booked.idempotencyKey = idempotencyKey ∧
      (bookOnce moments idempotencyKey booked).exec checked = (.ok event, left) := by
  cases call with
  | reserve agentId estimatedCost reason =>
    unfold runIn reserveBudgetIn at hreturns
    dsimp only at hreturns
    split at hreturns
    · cases hreturns
    · rw [Script.exec_bind_ok hcheck] at hreturns
      dsimp only at hreturns
      rw [Script.exec_bind_ok (Script.query_settled hsettled)] at hreturns
      cases hworkflow : (UnitOfWork.Session.view checked moments.lock).workflow? workflowId with
      | none =>
        rw [hworkflow] at hreturns
        cases hreturns
      | some workflow =>
        rw [hworkflow] at hreturns
        dsimp only at hreturns
        rw [Script.exec_bind_ok (Script.query_settled hsettled),
          Script.exec_bind_ok (Script.query_settled hsettled)] at hreturns
        split at hreturns
        · cases hreturns
        · exact ⟨_, rfl, hreturns⟩
  | release reservationEventId reason =>
    unfold runIn releaseReservationIn at hreturns
    dsimp only at hreturns
    rw [Script.exec_bind_ok hcheck] at hreturns
    dsimp only at hreturns
    rw [Script.exec_bind_ok (Script.query_settled hsettled)] at hreturns
    cases hreservation : (UnitOfWork.Session.view checked
        moments.reservation).walletEvents.findReservation reservationEventId with
    | none =>
      rw [hreservation] at hreturns
      cases hreturns
    | some reservation =>
      rw [hreservation] at hreturns
      exact ⟨_, rfl, hreturns⟩

/-- Without other sessions the call returns what it returns on the database that
the session sees, and keeps what the session has written. -/
theorem runIn_quiet {db db' : Db} (h : session.Settled)
    (hreturns : call.run (session.view db) workflowId idempotencyKey = .ok (event, db')) :
    ∃ left, (call.runIn (.quiet db) workflowId idempotencyKey).exec session = (.ok event, left) ∧
      left.view db = db' ∧ session.StillWritten left := by
  have hkept : session.StillWritten session := fun statement hmem => hmem
  have hbooks : ∀ {booked : WalletEvent},
      (session.view db).insertWalletEvent booked = .ok (event, db') →
      ∃ left, (bookOnce (.quiet db) idempotencyKey booked).exec session = (.ok event, left) ∧
        left.view db = db' ∧ session.StillWritten left := by
    intro booked hinsert
    have hatFlush : (UnitOfWork.Session.view session (CallMoments.quiet db).flush).insertWalletEvent
        booked = .ok (event, db') := hinsert
    obtain ⟨hexec, hview⟩ := bookOnce_ok h hatFlush
    refine ⟨_, hexec, hview, fun statement hmem => ?_⟩
    rw [h.contents_wrote]
    exact List.mem_append_left _ hmem
  cases call with
  | reserve agentId estimatedCost reason =>
    unfold run reserveBudget at hreturns
    unfold runIn reserveBudgetIn
    dsimp only [CallMoments.quiet] at hreturns ⊢
    by_cases hpositive : estimatedCost ≤ 0
    · rw [if_pos hpositive] at hreturns
      cases hreturns
    · rw [if_neg hpositive] at hreturns
      rw [if_neg hpositive, Script.exec_bind_ok (findExisting_settled h db)]
      cases hhit : (session.view db).walletEvents.idempotentHit idempotencyKey with
      | some existing =>
        rw [hhit] at hreturns
        cases hreturns
        exact ⟨session, rfl, rfl, hkept⟩
      | none =>
        rw [hhit] at hreturns
        dsimp only at hreturns ⊢
        rw [Script.exec_bind_ok (Script.query_settled h)]
        cases hworkflow : (session.view db).workflow? workflowId with
        | none =>
          rw [hworkflow] at hreturns
          cases hreturns
        | some workflow =>
          rw [hworkflow] at hreturns
          dsimp only at hreturns ⊢
          rw [Script.exec_bind_ok (Script.query_settled h),
            Script.exec_bind_ok (Script.query_settled h)]
          split at hreturns
          · cases hreturns
          · rename_i haffordable
            rw [if_neg haffordable]
            exact hbooks hreturns
  | release reservationEventId reason =>
    unfold run releaseReservation at hreturns
    unfold runIn releaseReservationIn
    dsimp only [CallMoments.quiet] at hreturns ⊢
    rw [Script.exec_bind_ok (findExisting_settled h db)]
    cases hhit : (session.view db).walletEvents.idempotentHit idempotencyKey with
    | some existing =>
      rw [hhit] at hreturns
      cases hreturns
      exact ⟨session, rfl, rfl, hkept⟩
    | none =>
      rw [hhit] at hreturns
      dsimp only at hreturns ⊢
      rw [Script.exec_bind_ok (Script.query_settled h)]
      cases hreservation :
          (session.view db).walletEvents.findReservation reservationEventId with
      | none =>
        rw [hreservation] at hreturns
        cases hreturns
      | some reservation =>
        rw [hreservation] at hreturns
        exact hbooks hreturns

end IdempotentCall

/-! ## A lost race -/

/-- The check finds no event of the key, and at the flush the session sees the
one that another session has committed. -/
def LostRace (moments : CallMoments) (key : String) (session : DbSession) : Prop :=
  key ≠ "" ∧ ∃ checked, (findExisting moments.check (some key)).exec session = (.ok none, checked) ∧
    ((checked.view moments.flush).walletEvents.findByIdempotencyKey key).isSome

/-- A call that loses the race and returns an event returns the one of the other
session, on a transaction with nothing in it.  The writes of the caller are still
part of it only if there were none. -/
theorem lostRace_keeps_iff (call : IdempotentCall) (moments : CallMoments) (workflowId : UUID)
    (key : String) (session left : DbSession) (event : WalletEvent)
    (hlost : LostRace moments key session)
    (hreturns : (call.runIn moments workflowId (some key)).exec session = (.ok event, left)) :
    moments.reread.walletEvents.findByIdempotencyKey key = some event ∧ left.contents = [] ∧
      (session.StillWritten left ↔ session.contents = []) := by
  obtain ⟨hne, checked, hcheck, hseen⟩ := hlost
  obtain ⟨hsettled, -⟩ := findExisting_some hne hcheck
  obtain ⟨booked, hkey, hbooked⟩ := IdempotentCall.runIn_books hsettled hcheck hreturns
  obtain ⟨rfl, hfound⟩ := bookOnce_overtaken hsettled hne hkey hseen hbooked
  exact ⟨hfound, rfl, DbSession.stillWritten_iff_of_empty rfl⟩

namespace LostRaceExample

open WalletExample

/-- The row of the first task of a batch. -/
def task : Task where
  taskId := UUID.ofNat 2
  workflowId := UUID.ofNat 1
  assignedAgentId := none
  stepNumber := 0
  capability := "search"
  description := "Task t0"
  status := .running
  output := none
  confidence := none
  retryCount := 0
  costUsed := 0
  latencyMs := none
  errorMessage := none
  completedAt := none

/-- The session of the batch, which has written the row. -/
def batch : DbSession :=
  { UnitOfWork.Session.fresh with
    recent := [fun db => .ok { db with tasks := db.tasks ++ [task] }] }

/-- Another run of the workflow reserves for the second task first. -/
def overtaken : CallMoments := { CallMoments.quiet reserved with check := start }

/-- What the reservation for the second task ends with. -/
def outcome : Except (UnitOfWork.Failure DbError WalletError) WalletEvent × DbSession :=
  ((IdempotentCall.reserve none 10 "Task t1").runIn overtaken (UUID.ofNat 1)
    (some "t1:reserve")).exec batch

theorem batch_loses : LostRace overtaken "t1:reserve" batch := by
  refine ⟨by decide, batch, ?_, by decide +kernel⟩
  have hunseen : (UnitOfWork.Session.view batch start).walletEvents.idempotentHit
      (some "t1:reserve") = none := by
    decide +kernel
  refine (findExisting_settled ⟨rfl, rfl⟩ start).trans ?_
  rw [hunseen]

theorem outcome_returns : ∃ event left, outcome = (.ok event, left) := by
  have hok : outcome.1.isOk = true := by decide +kernel
  cases houtcome : outcome with
  | mk result left =>
    rw [houtcome] at hok
    cases result with
    | ok event => exact ⟨event, left, rfl⟩
    | error failure => cases hok

end LostRaceExample

open LostRaceExample in
/-- The row of the first task is lost, although the reservation returns. -/
theorem lostRace_keeps_iff_batch :
    ∃ event left, outcome = (.ok event, left) ∧ ¬batch.StillWritten left := by
  obtain ⟨event, left, houtcome⟩ := outcome_returns
  refine ⟨event, left, houtcome, fun hkept => ?_⟩
  have hnil := (lostRace_keeps_iff (.reserve none 10 "Task t1") overtaken (UUID.ofNat 1)
    "t1:reserve" batch left event batch_loses houtcome).2.2.1 hkept
  cases hnil

open LostRaceExample in
/-- A caller with earlier writes loses them. -/
theorem lostRace_keeps_fails :
    ¬∀ (call : IdempotentCall) (moments : CallMoments) (workflowId : UUID) (key : String)
      (session left : DbSession) (event : WalletEvent), session.contents ≠ [] →
      LostRace moments key session →
      (call.runIn moments workflowId (some key)).exec session = (.ok event, left) →
      session.StillWritten left := by
  intro h
  obtain ⟨event, left, houtcome⟩ := outcome_returns
  have hkept := h (.reserve none 10 "Task t1") overtaken (UUID.ofNat 1) "t1:reserve" batch left
    event (List.cons_ne_nil _ _) batch_loses houtcome
  have hempty : outcome.2.contents.isEmpty = true := by decide +kernel
  rw [houtcome, List.isEmpty_iff] at hempty
  have hmem := hkept _ List.mem_cons_self
  rw [hempty] at hmem
  cases hmem

end WalletService

end MassClaw
