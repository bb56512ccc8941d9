import MassClaw.Wallet.History

/-!
# The two views of the remaining budget

`get_balance` takes for the used amount the larger one of the ledger's and the
workflow row's; `reserve_budget` looks at the ledger only.  A charge and an
internal cost write the row, a credit does not, so the ledger can fall below it.

`reservesAvailable_iff` says in which states the two agree, and `RowFollows`
is the condition on one call that keeps the row within the ledger.
-/

namespace MassClaw

/-! ## Stored and unrounded amounts -/

theorem toFloat_le {a b : Numeric} : toFloat a ≤ toFloat b ↔ a ≤ b := by
  unfold toFloat
  rw [div_le_div_iff_of_pos_right (by norm_num)]
  exact Int.cast_le

theorem toFloat_lt {a b : Numeric} : toFloat a < toFloat b ↔ a < b :=
  lt_iff_lt_of_le_iff_le toFloat_le

theorem toFloat_nonneg {a : Numeric} (h : 0 ≤ a) : 0 ≤ toFloat a := by
  rw [← toFloat_zero]
  exact toFloat_le.2 h

/-- A cost that is not negative is rounded apart from the amount it is added to. -/
theorem numeric4_toFloat_add {stored : Numeric} {cost : ℚ} (hstored : 0 ≤ stored)
    (hcost : 0 ≤ cost) : numeric4 (toFloat stored + cost) = stored + numeric4 cost := by
  have hsum : 0 ≤ toFloat stored + cost := add_nonneg (toFloat_nonneg hstored) hcost
  have hscaled : (toFloat stored + cost) * 10000 + 1 / 2 = stored + (cost * 10000 + 1 / 2) := by
    unfold toFloat
    ring
  rw [numeric4, if_pos hsum, hscaled, Int.floor_intCast_add, numeric4, if_pos hcost]

namespace WalletService

/-! ## `get_balance` -/

/-- `WalletBalanceResponse`. -/
structure BalanceResponse where
  workflowId : UUID
  budgetLimit : ℚ
  budgetUsed : ℚ
  budgetRemaining : ℚ
  reserved : ℚ
  available : ℚ

/-- `round(amount, 4)`: to four decimals, ties to even. -/
def round4 (amount : ℚ) : ℚ :=
  let lower := ⌊amount * 10000⌋
  let rest := amount * 10000 - lower
  toFloat (if rest < 1 / 2 then lower else if 1 / 2 < rest then lower + 1
    else if lower % 2 = 0 then lower else lower + 1)

/-- `get_balance`, with `round4` for the rounding of the reported amounts, and
with what the balance cache holds. -/
def getBalance (rounding : ℚ → ℚ) (db : Db) (cached : Option ℚ) (workflowId : UUID) :
    Except WalletError BalanceResponse :=
  match db.workflow? workflowId with
  | none => .error (.notFound "Workflow")
  | some workflow =>
    let ledgerUsed := cached.getD (toFloat (db.walletEvents.computeBalance workflowId))
    let rowUsed := toFloat workflow.budgetUsed
    let budgetUsed := max ledgerUsed rowUsed
    let reserved := toFloat (db.walletEvents.computeReserved workflowId)
    let budgetLimit := toFloat workflow.budgetLimit
    let budgetRemaining := budgetLimit - budgetUsed
    let available := budgetRemaining - reserved
    .ok { workflowId, budgetLimit, budgetUsed := rounding budgetUsed
          budgetRemaining := rounding (max 0 budgetRemaining), reserved := rounding reserved
          available := rounding (max 0 available) }

/-- What is reported are the roundings of the amounts without rounding. -/
theorem getBalance_rounding (rounding : ℚ → ℚ) (db : Db) (cached : Option ℚ) (workflowId : UUID) :
    getBalance rounding db cached workflowId =
      (getBalance id db cached workflowId).map (fun balance => { balance with
        budgetUsed := rounding balance.budgetUsed
        budgetRemaining := rounding balance.budgetRemaining
        reserved := rounding balance.reserved
        available := rounding balance.available }) := by
  unfold getBalance
  cases db.workflow? workflowId with
  | none => rfl
  | some workflow => rfl

example : round4 (1 / 20000) = 0 ∧ round4 (3 / 20000) = 2 / 10000 := by decide +kernel

/-! ## When a reservation succeeds -/

/-- The key is not in use. -/
def FreshKey (db : Db) (key : Option String) : Prop :=
  ∀ row ∈ db.walletEvents.rows, ∀ used ∈ key, row.idempotencyKey ≠ some used

theorem computeBalance_nonneg (ledger : Ledger) (workflowId : UUID) :
    0 ≤ ledger.computeBalance workflowId := le_max_left ..

theorem computeReserved_nonneg (ledger : Ledger) (workflowId : UUID) :
    0 ≤ ledger.computeReserved workflowId := le_max_left ..

theorem numericFits_of_le {amount limit : Numeric} (hamount : 0 ≤ amount) (h : amount ≤ limit)
    (hlimit : numericFits limit = true) : numericFits amount = true := by
  unfold numericFits at hlimit ⊢
  rw [decide_eq_true_eq] at hlimit ⊢
  have hnatAbs : amount.natAbs ≤ limit.natAbs := by
    rw [← Int.ofNat_le, Int.natAbs_of_nonneg hamount, Int.natAbs_of_nonneg (hamount.trans h)]
    exact h
  exact lt_of_le_of_lt hnatAbs hlimit

/-- With a fresh key a reservation succeeds exactly when it fits what the ledger
leaves of the limit. -/
theorem reserveBudget_ok_iff {db : Db} {workflowId : UUID} {workflow : Workflow}
    (hworkflow : db.workflow? workflowId = some workflow)
    (hlimit : numericFits workflow.budgetLimit = true) {agentId : Option UUID}
    (hagent : db.hasAgent agentId = true) {key : Option String} (hfresh : FreshKey db key)
    {estimatedCost : ℚ} (hpos : 0 < estimatedCost) (reason : String) :
    (∃ result, reserveBudget db workflowId agentId estimatedCost reason key = .ok result) ↔
      estimatedCost ≤ toFloat workflow.budgetLimit -
        toFloat (db.walletEvents.computeBalance workflowId) -
        toFloat (db.walletEvents.computeReserved workflowId) := by
  have hmiss : db.walletEvents.idempotentHit key = none := by
    cases hhit : db.walletEvents.idempotentHit key with
    | none => rfl
    | some event =>
      obtain ⟨hmem, hsome, hkey⟩ := Ledger.idempotentHit_eq_some hhit
      obtain ⟨used, rfl⟩ := Option.isSome_iff_exists.1 hsome
      exact absurd hkey (hfresh event hmem used rfl)
  have hbalance := toFloat_nonneg (computeBalance_nonneg db.walletEvents workflowId)
  have hreserved := toFloat_nonneg (computeReserved_nonneg db.walletEvents workflowId)
  constructor
  · rintro ⟨⟨event, db'⟩, hresult⟩
    rcases reserveBudget_cases hresult with ⟨hhit, -⟩ | ⟨-, ⟨other, hother, -, hfits⟩, -⟩
    · rw [hmiss] at hhit
      cases hhit
    · rw [hworkflow] at hother
      cases hother
      exact hfits
  · intro hfits
    unfold reserveBudget
    rw [if_neg (not_le.2 hpos), hmiss, hworkflow]
    dsimp only
    rw [if_neg (not_lt.2 hfits)]
    apply Db.insertWalletEvent_eq_ok
    · simp [Db.hasWorkflow, hworkflow]
    · exact hagent
    · have hamount : numeric4 estimatedCost ≤ workflow.budgetLimit :=
        numeric4_le_of_le hpos.le (by linarith)
      have hfitsAmount := numericFits_of_le (numeric4_nonneg hpos.le) hamount hlimit
      rw [numeric4_neg, numericFits, Int.natAbs_neg]
      exact hfitsAmount
    · have hsum : 0 ≤ toFloat (db.walletEvents.computeBalance workflowId) + estimatedCost := by
        linarith
      exact numericFits_of_le (numeric4_nonneg hsum) (numeric4_le_of_le hsum (by linarith)) hlimit
    · intro used hused row hrow
      exact hfresh row hrow used hused

/-! ## When the two views agree -/

/-- With a fresh key, a positive amount can be reserved exactly when it is at
most the unrounded available amount, the balance cache being empty. -/
def ReservesAvailable (db : Db) (workflowId : UUID) : Prop :=
  ∀ balance, getBalance id db none workflowId = .ok balance →
    ∀ agentId reason key estimatedCost, db.hasAgent agentId = true → FreshKey db key →
      0 < estimatedCost →
      ((∃ result, reserveBudget db workflowId agentId estimatedCost reason key = .ok result) ↔
        estimatedCost ≤ balance.available)

/-- The row reports no more than the ledger, or the ledger leaves nothing of the
limit. -/
def RowCovered (db : Db) (workflowId : UUID) : Prop :=
  ∀ workflow, db.workflow? workflowId = some workflow →
    workflow.budgetUsed ≤ db.walletEvents.computeBalance workflowId ∨
      workflow.budgetLimit ≤ db.walletEvents.computeBalance workflowId +
        db.walletEvents.computeReserved workflowId

/-- Every limit fits its column. -/
def LimitsFit (db : Db) : Prop :=
  ∀ workflowId workflow, db.workflow? workflowId = some workflow →
    numericFits workflow.budgetLimit = true

/-- A positive amount is at most `max 0 b` exactly when it is at most `b`. -/
private theorem le_max_zero {e b : ℚ} (he : 0 < e) : e ≤ max 0 b ↔ e ≤ b := by
  rw [le_max_iff]
  exact or_iff_right (not_le.2 he)

/-- The two views agree exactly when the row is covered. -/
theorem reservesAvailable_iff {db : Db} (hlimits : LimitsFit db) (workflowId : UUID) :
    ReservesAvailable db workflowId ↔ RowCovered db workflowId := by
  cases hworkflow : db.workflow? workflowId with
  | none =>
    have hbalance : getBalance id db none workflowId = .error (.notFound "Workflow") := by
      rw [getBalance, hworkflow]
    constructor
    · intro _ workflow hfound
      rw [hworkflow] at hfound
      cases hfound
    · intro _ balance hfound
      rw [hbalance] at hfound
      cases hfound
  | some workflow =>
    have hlimit := hlimits workflowId workflow hworkflow
    have hbalance : getBalance id db none workflowId = .ok
        { workflowId, budgetLimit := toFloat workflow.budgetLimit
          budgetUsed := max (toFloat (db.walletEvents.computeBalance workflowId))
            (toFloat workflow.budgetUsed)
          budgetRemaining := max 0 (toFloat workflow.budgetLimit -
            max (toFloat (db.walletEvents.computeBalance workflowId))
              (toFloat workflow.budgetUsed))
          reserved := toFloat (db.walletEvents.computeReserved workflowId)
          available := max 0 (toFloat workflow.budgetLimit -
            max (toFloat (db.walletEvents.computeBalance workflowId))
              (toFloat workflow.budgetUsed) -
            toFloat (db.walletEvents.computeReserved workflowId)) } := by
      rw [getBalance, hworkflow]
      rfl
    constructor
    · intro h other hother
      rw [hworkflow] at hother
      cases hother
      by_contra hnot
      rw [not_or, not_le, not_le] at hnot
      obtain ⟨hrow, hroom⟩ := hnot
      rw [← toFloat_lt] at hrow
      rw [← toFloat_lt, toFloat_add] at hroom
      -- what the ledger leaves can be reserved, and is more than what is reported
      have hpos : 0 < toFloat workflow.budgetLimit -
          toFloat (db.walletEvents.computeBalance workflowId) -
          toFloat (db.walletEvents.computeReserved workflowId) := by linarith
      have hfresh : FreshKey db none := by
        intro _ _ _ hused
        cases hused
      have hreserved := (reserveBudget_ok_iff hworkflow hlimit (rfl : db.hasAgent none = true)
        hfresh hpos "").2 le_rfl
      have hreported := (h _ hbalance none "" none _ rfl hfresh hpos).1 hreserved
      rw [le_max_zero hpos] at hreported
      have hmax := le_max_right (toFloat (db.walletEvents.computeBalance workflowId))
        (toFloat workflow.budgetUsed)
      linarith
    · intro h balance hreported agentId reason key estimatedCost hagent hfresh hpos
      rw [hbalance] at hreported
      cases hreported
      rw [reserveBudget_ok_iff hworkflow hlimit hagent hfresh hpos, le_max_zero hpos]
      rcases h workflow hworkflow with hrow | hnothing
      · rw [max_eq_left (toFloat_le.2 hrow)]
      · rw [← toFloat_le, toFloat_add] at hnothing
        have hmax := le_max_left (toFloat (db.walletEvents.computeBalance workflowId))
          (toFloat workflow.budgetUsed)
        constructor
        · intro hfits
          linarith
        · intro hfits
          linarith

end WalletService

/-! ## What keeps the row covered -/

open WalletEvents WalletService

namespace WalletCall

/-- A call that returns leaves the row within the ledger: a cost is not negative,
and unless it rounds to zero the credits of the workflow do not exceed its
debits; a credit leaves at least the row's amount used. -/
def RowFollows (db : Db) (call : WalletCall) : Prop :=
  ∀ booked, call.perform db = .ok booked →
    match call with
    | charge workflowId _ actualCost _ _ idempotencyKey =>
      db.walletEvents.idempotentHit idempotencyKey = none →
        0 ≤ actualCost ∧ (numeric4 actualCost = 0 ∨
          sumDeltas db.walletEvents.rows workflowId .credit ≤
            |sumDeltas db.walletEvents.rows workflowId .debit|)
    | recordInternalCost workflowId amount _ _ =>
      0 < amount → numeric4 amount = 0 ∨
        sumDeltas db.walletEvents.rows workflowId .credit ≤
          |sumDeltas db.walletEvents.rows workflowId .debit|
    | credit workflowId amount _ =>
      ∀ workflow, db.workflow? workflowId = some workflow →
        workflow.budgetUsed ≤ max 0 (|sumDeltas db.walletEvents.rows workflowId .debit| -
          (sumDeltas db.walletEvents.rows workflowId .credit + numeric4 amount))
    | _ => True

end WalletCall

/-- The limits fit their column, the debits of no workflow are positive in
total, and no row reports more than the ledger. -/
structure RowsFollow (events : List WalletEvent) (workflow? : UUID → Option Workflow) : Prop where
  limits : ∀ workflowId workflow, workflow? workflowId = some workflow →
    numericFits workflow.budgetLimit = true
  debits : ∀ workflowId, sumDeltas events workflowId .debit ≤ 0
  row : ∀ workflowId workflow, workflow? workflowId = some workflow →
    workflow.budgetUsed ≤ computeBalance events workflowId

namespace RowsFollow

variable {events : List WalletEvent} {event : WalletEvent} {workflow? : UUID → Option Workflow}

/-- An event that is neither a debit nor a credit. -/
theorem other (h : RowsFollow events workflow?) (hdebit : event.actionType ≠ .debit)
    (hcredit : event.actionType ≠ .credit) : RowsFollow (events ++ [event]) workflow? where
  limits := h.limits
  debits workflowId := by
    rw [sumDeltas_concat, if_neg (fun hboth => hdebit hboth.2), add_zero]
    exact h.debits workflowId
  row workflowId workflow hfound := by
    rw [computeBalance_concat _ hdebit hcredit]
    exact h.row workflowId workflow hfound

/-- A credit that leaves at least the row's amount used. -/
theorem credit (h : RowsFollow events workflow?) (haction : event.actionType = .credit)
    (hleaves : ∀ workflow, workflow? event.workflowId = some workflow →
      workflow.budgetUsed ≤ max 0 (|sumDeltas events event.workflowId .debit| -
        (sumDeltas events event.workflowId .credit + event.creditDelta))) :
    RowsFollow (events ++ [event]) workflow? where
  limits := h.limits
  debits workflowId := by
    rw [sumDeltas_concat, if_neg (by simp [haction]), add_zero]
    exact h.debits workflowId
  row workflowId workflow hfound := by
    unfold computeBalance
    rw [sumDeltas_concat, sumDeltas_concat, if_neg (by simp [haction]), add_zero]
    by_cases hsame : event.workflowId = workflowId
    · subst hsame
      rw [if_pos ⟨rfl, haction⟩]
      exact hleaves workflow hfound
    · rw [if_neg (fun hboth => hsame hboth.1), add_zero]
      exact h.row workflowId workflow hfound

/-- A debit, and the new balance in the row. -/
theorem debit (h : RowsFollow events workflow?) {cost : ℚ} (haction : event.actionType = .debit)
    (hdelta : event.creditDelta = numeric4 (-cost)) (hcost : 0 ≤ cost)
    (hcredits : numeric4 cost = 0 ∨
      sumDeltas events event.workflowId .credit ≤ |sumDeltas events event.workflowId .debit|)
    {next? : UUID → Option Workflow}
    (hrow : next? event.workflowId = (workflow? event.workflowId).map (fun workflow =>
      { workflow with
        budgetUsed := numeric4 (toFloat (computeBalance events event.workflowId) + cost) }))
    (hothers : ∀ workflowId, workflowId ≠ event.workflowId →
      next? workflowId = workflow? workflowId) :
    RowsFollow (events ++ [event]) next? := by
  have hnonneg := numeric4_nonneg hcost
  rw [numeric4_neg] at hdelta
  refine ⟨?_, ?_, ?_⟩
  · intro workflowId workflow hfound
    by_cases hsame : workflowId = event.workflowId
    · rw [hsame, hrow, Option.map_eq_some_iff] at hfound
      obtain ⟨old, hold, rfl⟩ := hfound
      exact h.limits _ old hold
    · rw [hothers workflowId hsame] at hfound
      exact h.limits workflowId workflow hfound
  · intro workflowId
    rw [sumDeltas_concat]
    have hold := h.debits workflowId
    split
    · rw [hdelta]
      lia
    · lia
  · intro workflowId workflow hfound
    by_cases hsame : workflowId = event.workflowId
    · rw [hsame, hrow, Option.map_eq_some_iff] at hfound
      obtain ⟨old, hold, rfl⟩ := hfound
      show numeric4 _ ≤ computeBalance _ workflowId
      have hdebits := h.debits event.workflowId
      have hafter : sumDeltas events event.workflowId .debit + -numeric4 cost ≤ 0 := by lia
      have hbalance : 0 ≤ computeBalance events event.workflowId := le_max_left ..
      rw [numeric4_toFloat_add hbalance hcost, hsame]
      unfold computeBalance
      rw [sumDeltas_concat, sumDeltas_concat, if_pos ⟨rfl, haction⟩, if_neg (by simp [haction]),
        hdelta, add_zero, abs_of_nonpos hafter]
      rw [abs_of_nonpos hdebits] at hcredits ⊢
      rcases hcredits with hzero | hcredits
      · rw [hzero]
        lia
      · lia
    · rw [hothers workflowId hsame] at hfound
      have hold := h.row workflowId workflow hfound
      unfold computeBalance at hold ⊢
      rw [sumDeltas_concat, sumDeltas_concat, if_neg (fun hboth => hsame hboth.1.symm),
        if_neg (fun hboth => hsame hboth.1.symm), add_zero, add_zero]
      exact hold

end RowsFollow

namespace WalletCall

/-- The rows follow the ledger of a database. -/
abbrev Follows (db : Db) : Prop := RowsFollow db.walletEvents.rows db.workflow?

/-- One call that meets the condition keeps the rows within the ledger. -/
theorem run_follows {db : Db} {call : WalletCall} (h : Follows db) (hfollows : call.RowFollows db) :
    Follows (call.run db) := by
  unfold run
  split
  case h_2 => exact h
  case h_1 event db' hperform =>
    have hcondition := hfollows _ hperform
    cases call with
    | reserveBudget workflowId agentId estimatedCost reason key =>
      rcases reserveBudget_cases hperform with ⟨-, rfl⟩ | ⟨-, -, -, -, haction, -, -, hrows, hdb⟩
      · exact h
      · have hworkflow : db'.workflow? = db.workflow? := by rw [hdb]; rfl
        unfold Follows
        rw [hrows, hworkflow]
        exact RowsFollow.other h (by simp [haction]) (by simp [haction])
    | charge workflowId agentId actualCost reservationEventId reason key =>
      rcases charge_cases hperform with ⟨-, rfl⟩ | ⟨hmiss, reservation, release, -, -, -, hrelease,
        -, -, -, rfl, haction, hdelta, -, hrows, hdb⟩
      · exact h
      · obtain ⟨hcost, hcredits⟩ := hcondition hmiss
        have hreleased : RowsFollow (db.walletEvents.rows ++ [release]) db.workflow? :=
          RowsFollow.other h (by simp [hrelease]) (by simp [hrelease])
        have hsum : ∀ actionType, actionType ≠ .release →
            sumDeltas (db.walletEvents.rows ++ [release]) event.workflowId actionType =
              sumDeltas db.walletEvents.rows event.workflowId actionType := by
          intro actionType hne
          rw [sumDeltas_concat, if_neg (fun hboth => hne (hboth.2.symm.trans hrelease)), add_zero]
        have hdebited : RowsFollow (db.walletEvents.rows ++ [release] ++ [event]) db'.workflow? :=
          hreleased.debit haction hdelta hcost
            (by rwa [hsum _ (by decide), hsum _ (by decide)])
            (by
              rw [computeBalance_concat _ (by simp [hrelease]) (by simp [hrelease]), hdb]
              exact Db.workflow?_updateWorkflow _ _ _ (fun _ => rfl))
            (by
              intro other hother
              rw [hdb]
              exact Db.workflow?_updateWorkflow_ne _ _ (fun _ => rfl) hother)
        rw [List.append_assoc] at hdebited
        unfold Follows
        rw [hrows]
        exact hdebited
    | releaseReservation workflowId reservationEventId reason key =>
      rcases releaseReservation_cases hperform with
        ⟨-, rfl⟩ | ⟨-, reservation, -, -, -, haction, -, -, -, hrows, hdb⟩
      · exact h
      · have hworkflow : db'.workflow? = db.workflow? := by rw [hdb]; rfl
        unfold Follows
        rw [hrows, hworkflow]
        exact RowsFollow.other h (by simp [haction]) (by simp [haction])
    | recordInternalCost workflowId amount reason agentId =>
      rcases recordInternalCost_cases hperform with
        ⟨-, rfl⟩ | ⟨workflow, hpos, -, -, rfl, haction, hdelta, -, hrows, hdb⟩
      · exact h
      · unfold Follows
        rw [hrows]
        refine RowsFollow.debit h haction hdelta hpos.le (hcondition hpos) ?_ ?_
        · rw [hdb]
          exact Db.workflow?_updateWorkflow _ _ _ (fun _ => rfl)
        · intro other hother
          rw [hdb]
          exact Db.workflow?_updateWorkflow_ne _ _ (fun _ => rfl) hother
    | credit workflowId amount reason =>
      obtain ⟨rfl, haction, hdelta, -, hrows, hdb⟩ := credit_cases hperform
      have hworkflow : db'.workflow? = db.workflow? := by rw [hdb]; rfl
      unfold Follows
      rw [hrows, hworkflow]
      apply RowsFollow.credit h haction
      rw [hdelta]
      exact hcondition

/-- No call changes a limit. -/
theorem run_limitsFit {db : Db} (call : WalletCall) (h : LimitsFit db) :
    LimitsFit (call.run db) := by
  have hsame : ∀ {db' : Db}, db' = { db with walletEvents := db'.walletEvents } →
      LimitsFit db' := by
    intro db' hdb
    rw [hdb]
    exact h
  have hrow : ∀ {db' : Db} {workflowId : UUID} {newBalance : Numeric},
      db' = { db with walletEvents := db'.walletEvents }.updateWorkflow workflowId
        (fun workflow => { workflow with budgetUsed := newBalance }) → LimitsFit db' := by
    intro db' workflowId newBalance hdb other workflow hfound
    rw [hdb] at hfound
    by_cases hother : other = workflowId
    · rw [hother, Db.workflow?_updateWorkflow] at hfound
      case hf => intro _; rfl
      obtain ⟨old, hold, rfl⟩ := Option.map_eq_some_iff.1 hfound
      exact h _ old hold
    · rw [Db.workflow?_updateWorkflow_ne _ _ ?_ hother] at hfound
      · exact h other workflow hfound
      · intro _
        rfl
  unfold run
  split
  case h_2 => exact h
  case h_1 event db' hperform =>
    cases call with
    | reserveBudget workflowId agentId estimatedCost reason key =>
      rcases reserveBudget_cases hperform with ⟨-, rfl⟩ | ⟨-, -, -, -, -, -, -, -, hdb⟩
      · exact h
      · exact hsame hdb
    | charge workflowId agentId actualCost reservationEventId reason key =>
      rcases charge_cases hperform with
        ⟨-, rfl⟩ | ⟨-, _, _, -, -, -, -, -, -, -, -, -, -, -, -, hdb⟩
      · exact h
      · exact hrow hdb
    | releaseReservation workflowId reservationEventId reason key =>
      rcases releaseReservation_cases hperform with ⟨-, rfl⟩ | ⟨-, _, -, -, -, -, -, -, -, -, hdb⟩
      · exact h
      · exact hsame hdb
    | recordInternalCost workflowId amount reason agentId =>
      rcases recordInternalCost_cases hperform with ⟨-, rfl⟩ | ⟨_, -, -, -, -, -, -, -, -, hdb⟩
      · exact h
      · exact hrow hdb
    | credit workflowId amount reason =>
      obtain ⟨-, -, -, -, -, hdb⟩ := credit_cases hperform
      exact hsame hdb

end WalletCall

/-! ## Histories -/

/-- Before the first wallet event: nothing is used, and the limits fit. -/
def Opened (db : Db) : Prop :=
  NoWalletEvents db ∧ ∀ workflowId workflow, db.workflow? workflowId = some workflow →
    workflow.budgetUsed = 0 ∧ numericFits workflow.budgetLimit = true

/-- One call that keeps the row within the ledger. -/
def FollowingCall (db db' : Db) : Prop :=
  ∃ call : WalletCall, call.RowFollows db ∧ db' = call.run db

theorem limitsFit_of_reachable {db : Db} (h : Transition.Reachable Opened AnyCall db) :
    LimitsFit db := by
  refine h.invariant ?_ ?_
  · intro start hstart workflowId workflow hfound
    exact (hstart.2 workflowId workflow hfound).2
  · rintro before after hbefore ⟨call, rfl⟩
    exact call.run_limitsFit hbefore

theorem follows_of_reachable {db : Db} (h : Transition.Reachable Opened FollowingCall db) :
    WalletCall.Follows db := by
  refine h.invariant (I := WalletCall.Follows) ?_ ?_
  · rintro start ⟨hempty, hrows⟩
    rw [NoWalletEvents] at hempty
    unfold WalletCall.Follows
    rw [hempty]
    refine ⟨fun workflowId workflow hfound => (hrows workflowId workflow hfound).2,
      fun _ => le_refl _, fun workflowId workflow hfound => ?_⟩
    rw [(hrows workflowId workflow hfound).1]
    exact le_max_left ..
  · rintro before after hbefore ⟨call, hfollows, rfl⟩
    exact call.run_follows hbefore hfollows

/-- In every state that a history reaches, the amounts that can be reserved are
those that `get_balance` reports exactly when the row is covered; and along a
history whose calls keep the row within the ledger they always are. -/
theorem reserves_available (db : Db) :
    (Transition.Reachable Opened AnyCall db →
      ∀ workflowId, ReservesAvailable db workflowId ↔ RowCovered db workflowId) ∧
    (Transition.Reachable Opened FollowingCall db →
      ∀ workflowId, ReservesAvailable db workflowId) := by
  constructor
  · intro hreach workflowId
    exact reservesAvailable_iff (limitsFit_of_reachable hreach) workflowId
  · intro hreach workflowId
    have hfollows := follows_of_reachable hreach
    apply (reservesAvailable_iff hfollows.limits workflowId).2
    intro workflow hfound
    exact Or.inl (hfollows.row workflowId workflow hfound)

namespace WalletExample

theorem opened : Opened start := by
  refine ⟨rfl, fun workflowId found hfound => ?_⟩
  have hfound : found = workflow := by
    have hmem := List.mem_of_find?_eq_some hfound
    exact List.mem_singleton.1 hmem
  rw [hfound]
  exact ⟨rfl, by decide +kernel⟩

/-- After a charge of the whole reservation, half of it is refunded. -/
def refunded : Db :=
  WalletCall.run
    (WalletCall.run
      (WalletCall.run start (.reserveBudget (UUID.ofNat 1) none 10 "Task t1" none))
      (.charge (UUID.ofNat 1) none 10 0 "Task t1 completed" none))
    (.credit (UUID.ofNat 1) 5 "refund")

end WalletExample

open WalletExample in
theorem reserves_available_charged :
    (ReservesAvailable charged (UUID.ofNat 1) ↔ RowCovered charged (UUID.ofNat 1)) ∧
      ReservesAvailable charged (UUID.ofNat 1) := by
  have hany : Transition.Reachable Opened AnyCall charged :=
    (((Transition.Reachable.start opened).next ⟨_, rfl⟩).next ⟨_, rfl⟩).next ⟨_, rfl⟩
  have hreserved : Transition.Reachable Opened FollowingCall reserved :=
    ((Transition.Reachable.start opened).next ⟨_, fun _ _ => trivial, rfl⟩).next
      ⟨_, fun _ _ => trivial, rfl⟩
  have hcharge : (WalletCall.charge (UUID.ofNat 1) none 4 0 "Task t1 completed"
      (some "t1:charge")).RowFollows reserved := by
    intro _ _ _
    exact ⟨by norm_num, Or.inr (by decide +kernel)⟩
  have hfollowing : Transition.Reachable Opened FollowingCall charged :=
    hreserved.next ⟨_, hcharge, rfl⟩
  exact ⟨(reserves_available charged).1 hany _, (reserves_available charged).2 hfollowing _⟩

/-- After the refund the row still reports the whole charge: 90 credits are
reported as available, and 95 can be reserved. -/
theorem reserves_available_fails :
    ¬∀ db, Transition.Reachable Opened AnyCall db →
      ∀ workflowId, ReservesAvailable db workflowId := by
  intro h
  have hreach : Transition.Reachable Opened AnyCall WalletExample.refunded :=
    (((Transition.Reachable.start WalletExample.opened).next ⟨_, rfl⟩).next ⟨_, rfl⟩).next ⟨_, rfl⟩
  have hagree := h _ hreach (UUID.ofNat 1)
  have hbalance : (getBalance id WalletExample.refunded none (UUID.ofNat 1)).toOption.map
      (·.available) = some 90 := by decide +kernel
  have hreserve : (reserveBudget WalletExample.refunded (UUID.ofNat 1) none 95 "" none).toOption.isSome
      = true := by decide +kernel
  have hreserves : ∃ result,
      reserveBudget WalletExample.refunded (UUID.ofNat 1) none 95 "" none = .ok result := by
    cases hresult : reserveBudget WalletExample.refunded (UUID.ofNat 1) none 95 "" none with
    | ok result => exact ⟨result, rfl⟩
    | error error =>
      rw [hresult] at hreserve
      cases hreserve
  cases hget : getBalance id WalletExample.refunded none (UUID.ofNat 1) with
  | error error =>
    rw [hget] at hbalance
    cases hbalance
  | ok balance =>
    rw [hget] at hbalance
    have havailable : balance.available = 90 := Option.some.inj hbalance
    have hfresh : FreshKey WalletExample.refunded none := by
      intro _ _ _ hused
      cases hused
    have hfits := (hagree balance hget none "" none 95 rfl hfresh (by norm_num)).1 hreserves
    rw [havailable] at hfits
    norm_num at hfits

end MassClaw
