import MassClaw.Wallet.Ledger

/-!
# What each wallet operation books

One lemma for each operation that returns normally.  An operation either is
answered by its idempotency key and changes nothing, or it appends the events
named here and touches nothing else but the `budget_used` column.  Every
later proof about the wallet starts from these lemmas.
-/

namespace MassClaw

namespace Ledger

/-- An idempotency hit is a booked event with that key. -/
theorem idempotentHit_eq_some {ledger : Ledger} {key : Option String} {event : WalletEvent}
    (h : ledger.idempotentHit key = some event) :
    event ∈ ledger.rows ∧ key.isSome ∧ event.idempotencyKey = key := by
  unfold idempotentHit at h
  split at h
  · cases h
  · rename_i key
    split_ifs at h
    unfold findByIdempotencyKey at h
    exact ⟨List.mem_of_find?_eq_some h, rfl, by simpa using List.find?_some h⟩

end Ledger

namespace WalletService

variable {db db' : Db} {workflowId : UUID} {event : WalletEvent}

/-- `reserve_budget` returned: a hit, or one RESERVE event within the
available budget. -/
theorem reserveBudget_cases {agentId : Option UUID} {estimatedCost : ℚ} {reason : String}
    {key : Option String}
    (h : reserveBudget db workflowId agentId estimatedCost reason key = .ok (event, db')) :
    (db.walletEvents.idempotentHit key = some event ∧ db' = db) ∨
    (db.walletEvents.idempotentHit key = none ∧
      (∃ workflow, db.workflow? workflowId = some workflow ∧ 0 < estimatedCost ∧
        estimatedCost ≤ toFloat workflow.budgetLimit -
          toFloat (db.walletEvents.computeBalance workflowId) -
          toFloat (db.walletEvents.computeReserved workflowId)) ∧
      event.walletEventId = db.walletEvents.nextId ∧ event.workflowId = workflowId ∧
      event.actionType = .reserve ∧ event.creditDelta = numeric4 (-estimatedCost) ∧
      event.idempotencyKey = key ∧
      db'.walletEvents.rows = db.walletEvents.rows ++ [event] ∧
      db' = { db with walletEvents := db'.walletEvents }) := by
  unfold reserveBudget at h
  split_ifs at h with hpos
  split at h
  · rename_i existing hhit
    cases h
    exact Or.inl ⟨hhit, rfl⟩
  · rename_i hmiss
    split at h
    · cases h
    · rename_i workflow hworkflow
      simp only at h
      split_ifs at h with hexhausted
      obtain ⟨rfl, hrows, hdb⟩ := Db.insertWalletEvent_ok h
      exact Or.inr ⟨hmiss, ⟨workflow, hworkflow, not_le.1 hpos, not_lt.1 hexhausted⟩,
        rfl, rfl, rfl, rfl, rfl, hrows, hdb⟩

/-- `charge` returned: a hit, or a RELEASE and a DEBIT event for an existing
reservation, and the new balance in the row. -/
theorem charge_cases {agentId : Option UUID} {actualCost : ℚ} {reservationEventId : RowId}
    {reason : String} {key : Option String}
    (h : charge db workflowId agentId actualCost reservationEventId reason key
      = .ok (event, db')) :
    (db.walletEvents.idempotentHit key = some event ∧ db' = db) ∨
    (db.walletEvents.idempotentHit key = none ∧
      ∃ reservation release,
        db.walletEvents.findReservation reservationEventId = some reservation ∧
        release.walletEventId = db.walletEvents.nextId ∧ release.workflowId = workflowId ∧
        release.actionType = .release ∧ release.creditDelta = |reservation.creditDelta| ∧
        release.reservationEventId = some reservationEventId ∧ release.idempotencyKey = none ∧
        event.workflowId = workflowId ∧ event.actionType = .debit ∧
        event.creditDelta = numeric4 (-actualCost) ∧ event.idempotencyKey = key ∧
        db'.walletEvents.rows = db.walletEvents.rows ++ [release, event] ∧
        db' = { db with walletEvents := db'.walletEvents }.updateWorkflow workflowId
          (fun workflow => { workflow with
            budgetUsed := numeric4 (toFloat (db.walletEvents.computeBalance workflowId) + actualCost) })) := by
  unfold charge at h
  split at h
  · rename_i existing hhit
    cases h
    exact Or.inl ⟨hhit, rfl⟩
  · rename_i hmiss
    split at h
    · cases h
    · rename_i reservation hreservation
      refine Or.inr ⟨hmiss, reservation, ?_⟩
      simp only [bind, Except.bind, pure, Except.pure] at h
      split at h
      · cases h
      · rename_i released hrelease
        obtain ⟨release, db₁⟩ := released
        split at h
        · cases h
        · rename_i debited hdebit
          obtain ⟨debit, db₂⟩ := debited
          cases h
          obtain ⟨hrow₁, hrows₁, hdb₁⟩ := Db.insertWalletEvent_ok hrelease
          obtain ⟨hrow₂, hrows₂, hdb₂⟩ := Db.insertWalletEvent_ok hdebit
          refine ⟨release, hreservation, by rw [hrow₁], by rw [hrow₁], by rw [hrow₁],
            by rw [hrow₁], by rw [hrow₁], by rw [hrow₁], by rw [hrow₂], by rw [hrow₂],
            by rw [hrow₂], by rw [hrow₂], ?_, ?_⟩
          · simp only [Db.walletEvents_updateWorkflow]
            rw [hrows₂, hrows₁, List.append_assoc]
            rfl
          · have hbalance : db₁.walletEvents.computeBalance workflowId =
                db.walletEvents.computeBalance workflowId := by
              unfold Ledger.computeBalance
              rw [hrows₁]
              exact WalletEvents.computeBalance_concat _ (by simp [hrow₁]) (by simp [hrow₁]) workflowId
            rw [hbalance, hdb₂, hdb₁]
            rfl

/-- `release_reservation` returned: a hit, or one RELEASE event for an existing
reservation. -/
theorem releaseReservation_cases {reservationEventId : RowId} {reason : String}
    {key : Option String}
    (h : releaseReservation db workflowId reservationEventId reason key = .ok (event, db')) :
    (db.walletEvents.idempotentHit key = some event ∧ db' = db) ∨
    (db.walletEvents.idempotentHit key = none ∧
      ∃ reservation,
        db.walletEvents.findReservation reservationEventId = some reservation ∧
        event.walletEventId = db.walletEvents.nextId ∧ event.workflowId = workflowId ∧
        event.actionType = .release ∧ event.creditDelta = |reservation.creditDelta| ∧
        event.reservationEventId = some reservationEventId ∧ event.idempotencyKey = key ∧
        db'.walletEvents.rows = db.walletEvents.rows ++ [event] ∧
        db' = { db with walletEvents := db'.walletEvents }) := by
  unfold releaseReservation at h
  split at h
  · rename_i existing hhit
    cases h
    exact Or.inl ⟨hhit, rfl⟩
  · rename_i hmiss
    split at h
    · cases h
    · rename_i reservation hreservation
      obtain ⟨rfl, hrows, hdb⟩ := Db.insertWalletEvent_ok h
      exact Or.inr ⟨hmiss, reservation, hreservation, rfl, rfl, rfl, rfl, rfl, rfl, hrows, hdb⟩

/-- `record_internal_cost` returned: nothing, or one DEBIT event within the
limit, and the new balance in the row. -/
theorem recordInternalCost_cases {amount : ℚ} {reason : String} {agentId : Option UUID}
    (h : recordInternalCost db workflowId amount reason agentId = .ok (event, db')) :
    (amount ≤ 0 ∧ db' = db) ∨
    (∃ workflow, 0 < amount ∧ db.workflow? workflowId = some workflow ∧
      toFloat (db.walletEvents.computeBalance workflowId) + amount
        ≤ toFloat workflow.budgetLimit ∧
      event.workflowId = workflowId ∧ event.actionType = .debit ∧
      event.creditDelta = numeric4 (-amount) ∧ event.idempotencyKey = none ∧
      db'.walletEvents.rows = db.walletEvents.rows ++ [event] ∧
      db' = { db with walletEvents := db'.walletEvents }.updateWorkflow workflowId
        (fun workflow => { workflow with
          budgetUsed := numeric4 (toFloat (db.walletEvents.computeBalance workflowId) + amount) })) := by
  unfold recordInternalCost at h
  split_ifs at h with hpos
  · cases h
    exact Or.inl ⟨hpos, rfl⟩
  · split at h
    · cases h
    · rename_i workflow hworkflow
      simp only at h
      split_ifs at h with hexhausted
      simp only [bind, Except.bind, pure, Except.pure] at h
      split at h
      · cases h
      · rename_i debited hdebit
        obtain ⟨debit, db₁⟩ := debited
        cases h
        obtain ⟨hrow, hrows, hdb⟩ := Db.insertWalletEvent_ok hdebit
        refine Or.inr ⟨workflow, not_le.1 hpos, hworkflow, not_lt.1 hexhausted, by rw [hrow],
          by rw [hrow], by rw [hrow], by rw [hrow], ?_, ?_⟩
        · simpa using hrows
        · rw [hdb]
          rfl

/-- `credit` returned: one CREDIT event over the amount. -/
theorem credit_cases {amount : ℚ} {reason : String}
    (h : credit db workflowId amount reason = .ok (event, db')) :
    event.workflowId = workflowId ∧ event.actionType = .credit ∧
      event.creditDelta = numeric4 amount ∧ event.idempotencyKey = none ∧
      db'.walletEvents.rows = db.walletEvents.rows ++ [event] ∧
      db' = { db with walletEvents := db'.walletEvents } := by
  unfold credit at h
  split at h
  · cases h
  · obtain ⟨rfl, hrows, hdb⟩ := Db.insertWalletEvent_ok h
    exact ⟨rfl, rfl, rfl, rfl, hrows, hdb⟩

end WalletService

end MassClaw
