import MassClaw.Scheduler.Completion

/-!
# Reservations of a run

Phase 1 obtains a reservation for a node under a key of the workflow and the
node.  A charge or a release closes it, except where a node leaves its batch by
a denial, or where the release itself raises.

A charge that is answered by its idempotency key books nothing, so the ledger a
run starts from must have closed the reservations whose nodes are charged
already.  Every run keeps that.
-/

namespace MassClaw

open WalletEvents

namespace WorkflowScheduler

/-! ## The keys -/

theorem chargeKey_injective {workflowId : UUID} {a b : String}
    (h : chargeKey workflowId a = chargeKey workflowId b) : a = b := by
  have hlists := congrArg String.toList h
  unfold chargeKey at hlists
  exact String.toList_inj.1 (by simpa [ToString.toString] using hlists)

theorem reserveKey_ne_chargeKey (workflowId : UUID) (a b : String) :
    reserveKey workflowId a ≠ chargeKey workflowId b := by
  intro h
  have hlists := congrArg (fun key => (String.toList key).reverse) h
  unfold reserveKey chargeKey at hlists
  simp [ToString.toString] at hlists

/-! ## The ledger -/

/-- A node that is charged has a reservation, and it is closed. -/
def ChargesSettled (workflowId : UUID) (events : List WalletEvent) : Prop :=
  ∀ nodeId, ∀ charge ∈ events, charge.idempotencyKey = some (chargeKey workflowId nodeId) →
    ∃ reservation ∈ events,
      reservation.idempotencyKey = some (reserveKey workflowId nodeId) ∧
        (reservation.actionType = .reserve → IsReleased events reservation.walletEventId)

end WorkflowScheduler

theorem WalletEvents.IsReleased.mono {events events' : List WalletEvent} {reservationId : RowId}
    (h : IsReleased events reservationId) (hsub : events ⊆ events') :
    IsReleased events' reservationId := by
  obtain ⟨event, hevent, hrelease⟩ := h
  exact ⟨event, hsub hevent, hrelease⟩

namespace WorkflowScheduler

/-- More events, each of which is settled if it is a charge of a node. -/
theorem ChargesSettled.append {workflowId : UUID} {events more : List WalletEvent}
    (h : ChargesSettled workflowId events)
    (hmore : ∀ nodeId, ∀ charge ∈ more,
      charge.idempotencyKey = some (chargeKey workflowId nodeId) →
        ∃ reservation ∈ events,
          reservation.idempotencyKey = some (reserveKey workflowId nodeId) ∧
            (reservation.actionType = .reserve →
              IsReleased (events ++ more) reservation.walletEventId)) :
    ChargesSettled workflowId (events ++ more) := by
  intro nodeId charge hcharge hkey
  rcases List.mem_append.1 hcharge with hold | hnew
  · obtain ⟨reservation, hmem, hreserve, hreleased⟩ := h nodeId charge hold hkey
    refine ⟨reservation, List.mem_append_left _ hmem, hreserve, fun haction => ?_⟩
    exact (hreleased haction).mono (List.subset_append_left _ _)
  · obtain ⟨reservation, hmem, hreserve, hreleased⟩ := hmore nodeId charge hnew hkey
    exact ⟨reservation, List.mem_append_left _ hmem, hreserve, hreleased⟩

/-- More events without a charge of a node. -/
theorem ChargesSettled.append_other {workflowId : UUID} {events more : List WalletEvent}
    (h : ChargesSettled workflowId events)
    (hmore : ∀ event ∈ more, ∀ nodeId, event.idempotencyKey ≠ some (chargeKey workflowId nodeId)) :
    ChargesSettled workflowId (events ++ more) :=
  h.append (fun nodeId charge hcharge hkey => absurd hkey (hmore charge hcharge nodeId))

/-- What `reserve_budget` returns is a row under its key. -/
theorem reserveBudget_row {db db' : Db} {workflowId : UUID} {agentId : Option UUID} {cost : ℚ}
    {reason nodeId : String} {reservation : WalletEvent}
    (h : WalletService.reserveBudget db workflowId agentId cost reason
      (some (reserveKey workflowId nodeId)) = .ok (reservation, db')) :
    db.walletEvents.rows ⊆ db'.walletEvents.rows ∧ reservation ∈ db'.walletEvents.rows ∧
      reservation.idempotencyKey = some (reserveKey workflowId nodeId) := by
  rcases WalletService.reserveBudget_cases h with ⟨hhit, rfl⟩ | ⟨-, -, -, -, -, -, hkey, hrows, -⟩
  · obtain ⟨hmem, -, hkey⟩ := Ledger.idempotentHit_eq_some hhit
    exact ⟨List.Subset.refl _, hmem, hkey⟩
  · rw [hrows]
    exact ⟨List.subset_append_left _ _, List.mem_append_right _ (List.mem_singleton_self _), hkey⟩

/-- A reservation is not a charge. -/
theorem ChargesSettled.reserveBudget {db db' : Db} {workflowId : UUID} {agentId : Option UUID}
    {cost : ℚ} {reason nodeId : String} {reservation : WalletEvent}
    (hledger : ChargesSettled workflowId db.walletEvents.rows)
    (h : WalletService.reserveBudget db workflowId agentId cost reason
      (some (reserveKey workflowId nodeId)) = .ok (reservation, db')) :
    ChargesSettled workflowId db'.walletEvents.rows := by
  rcases WalletService.reserveBudget_cases h with ⟨-, rfl⟩ | ⟨-, -, -, -, -, -, hkey, hrows, -⟩
  · exact hledger
  · rw [hrows]
    refine hledger.append_other (fun event hevent other heq => ?_)
    rw [List.mem_singleton.1 hevent, hkey] at heq
    exact reserveKey_ne_chargeKey workflowId nodeId other (Option.some.inj heq)

/-- A charge that returns closes the reservation it is given. -/
theorem charge_closes {db db' : Db} {workflowId : UUID} {agentId : Option UUID} {cost : ℚ}
    {reason nodeId : String} {reservation event : WalletEvent}
    (h : WalletService.charge db workflowId agentId cost reservation.walletEventId reason
      (some (chargeKey workflowId nodeId)) = .ok (event, db'))
    (hledger : ChargesSettled workflowId db.walletEvents.rows)
    (hmem : reservation ∈ db.walletEvents.rows)
    (hkey : reservation.idempotencyKey = some (reserveKey workflowId nodeId)) :
    ChargesSettled workflowId db'.walletEvents.rows ∧
      (reservation.actionType = .reserve →
        IsReleased db'.walletEvents.rows reservation.walletEventId) := by
  rcases WalletService.charge_cases h with ⟨hhit, rfl⟩ | ⟨-, found, release, -, -, -, hrelease, -,
    htarget, hnokey, -, -, -, hevent, hrows, -⟩
  · refine ⟨hledger, fun haction => ?_⟩
    obtain ⟨hcharge, -, hchargeKey⟩ := Ledger.idempotentHit_eq_some hhit
    obtain ⟨other, hother, hotherKey, hreleased⟩ := hledger nodeId event hcharge hchargeKey
    have heq : other = reservation := Table.eq_of_unique hother hmem hotherKey hkey
    rw [heq] at hreleased
    exact hreleased haction
  · have hclosed : IsReleased (db.walletEvents.rows ++ [release, event])
        reservation.walletEventId :=
      ⟨release, List.mem_append_right _ List.mem_cons_self, hrelease, htarget⟩
    rw [hrows]
    refine ⟨hledger.append ?_, fun _ => hclosed⟩
    intro other charge hcharge hchargeKey
    rcases List.mem_cons.1 hcharge with rfl | hdebit
    · rw [hnokey] at hchargeKey
      cases hchargeKey
    · rw [List.mem_singleton.1 hdebit, hevent] at hchargeKey
      have hsame := chargeKey_injective (Option.some.inj hchargeKey)
      exact ⟨reservation, hmem, hsame ▸ hkey, fun _ => hclosed⟩

/-- A release without a key closes the reservation it is given. -/
theorem release_closes {db db' : Db} {workflowId : UUID} {reservationId : RowId} {reason : String}
    {event : WalletEvent}
    (h : WalletService.releaseReservation db workflowId reservationId reason none =
      .ok (event, db'))
    (hledger : ChargesSettled workflowId db.walletEvents.rows) :
    ChargesSettled workflowId db'.walletEvents.rows ∧
      IsReleased db'.walletEvents.rows reservationId := by
  rcases WalletService.releaseReservation_cases h with ⟨hhit, -⟩ | ⟨-, found, -, -, -, hrelease, -,
    htarget, hnokey, hrows, -⟩
  · cases hhit
  · rw [hrows]
    refine ⟨hledger.append_other ?_, event,
      List.mem_append_right _ (List.mem_singleton_self _), hrelease, htarget⟩
    intro other hother nodeId hkey
    rw [List.mem_singleton.1 hother, hnokey] at hkey
    cases hkey

/-! ## The reservations of a batch -/

section Keyed

variable {env : Environment} {workflowId : UUID} {agents : String → Option Agent} {run run' : Run}

/-- The reservations of the batch are rows under the keys of their nodes. -/
def Held (workflowId : UUID) (run : Run) : Prop :=
  ∀ nodeId reservation, run.reservation? nodeId = some reservation →
    reservation ∈ run.db.walletEvents.rows ∧
      reservation.idempotencyKey = some (reserveKey workflowId nodeId)

/-- The lookup reads the reservations only. -/
theorem reservation?_congr (h : run'.reservations = run.reservations) (nodeId : String) :
    run'.reservation? nodeId = run.reservation? nodeId := by
  rw [Run.reservation?, Run.reservation?, h]

/-- A reservation that is added last is the one of its node, unless the node
has an earlier one. -/
theorem reservation?_append {nodeId : String} {reservation : WalletEvent}
    (h : run'.reservations = run.reservations ++ [(nodeId, reservation)]) (other : String) :
    run'.reservation? other = (run.reservation? other).or
      (if nodeId = other then some reservation else none) := by
  rw [Run.reservation?, Run.reservation?, h, List.find?_append]
  cases run.reservations.find? (fun entry => entry.1 = other) with
  | some entry => rfl
  | none =>
    by_cases hid : nodeId = other
    · simp [hid]
    · simp [hid]

/-- The ledger grows, and the reservations stay the same. -/
theorem Held.grow (h : Held workflowId run)
    (hrows : run.db.walletEvents.rows ⊆ run'.db.walletEvents.rows)
    (hreservations : run'.reservations = run.reservations) : Held workflowId run' := by
  intro nodeId reservation hreservation
  rw [reservation?_congr hreservations] at hreservation
  obtain ⟨hmem, hkey⟩ := h nodeId reservation hreservation
  exact ⟨hrows hmem, hkey⟩

/-- A batch starts without reservations. -/
theorem held_of_nil (h : run.reservations = []) : Held workflowId run := by
  intro nodeId reservation hreservation
  rw [Run.reservation?, h] at hreservation
  cases hreservation

/-- Phase 1 only adds to the ledger. -/
theorem Prepared.rows {node : DAGNode} (h : Prepared env workflowId agents run node run') :
    run.db.walletEvents.rows ⊆ run'.db.walletEvents.rows := by
  cases h with
  | noAgent error _ hrun => rw [hrun]; exact List.Subset.refl _
  | starved error tasks dag taskId _ hrun => rw [hrun]; exact List.Subset.refl _
  | started agent reservation db tasks dag taskId _ hreserve _ hrun =>
    rw [hrun]
    exact (reserveBudget_row hreserve).1

/-- A charge only adds to the ledger. -/
theorem Charged.rows {visit : Visit} {context : NodeContext} {response : LLMResponse}
    {charged : Bool} (h : Charged workflowId visit run context response charged run') :
    run.db.walletEvents.rows ⊆ run'.db.walletEvents.rows := by
  cases h with
  | unreserved _ _ hrun => rw [hrun]; exact List.Subset.refl _
  | failed _ _ _ _ _ hrun => rw [hrun]; exact List.Subset.refl _
  | booked reservation event reason db _ hcharge hrun =>
    rw [hrun]
    rcases WalletService.charge_cases hcharge with ⟨-, rfl⟩ | ⟨-, _, _, -, -, -, -, -, -, -, -, -,
      -, -, hrows, -⟩
    · exact List.Subset.refl _
    · exact hrows ▸ List.subset_append_left _ _

/-- Giving a reservation back only adds to the ledger. -/
theorem Released.rows {nodeId : String} (h : Released workflowId run nodeId run') :
    run.db.walletEvents.rows ⊆ run'.db.walletEvents.rows := by
  cases h with
  | unreserved _ hrun => rw [hrun]; exact List.Subset.refl _
  | failed _ _ hrun => rw [hrun]; exact List.Subset.refl _
  | released reservation event reason db _ hrelease hrun =>
    rw [hrun]
    rcases WalletService.releaseReservation_cases hrelease with ⟨-, rfl⟩ | ⟨-, _, -, -, -, -, -, -,
      -, hrows, -⟩
    · exact List.Subset.refl _
    · exact hrows ▸ List.subset_append_left _ _

theorem Wrote.walletEvents {visit : Visit} {context : NodeContext} {content : String} {db db' : Db}
    (h : Wrote env workflowId visit context content db db') :
    db'.walletEvents = db.walletEvents := by
  obtain ⟨hlength, record, hwrite⟩ := h
  rcases MemoryService.writeMemory_cases ⟨rfl, rfl, rfl, rfl⟩ hwrite with
    ⟨-, rfl⟩ | ⟨-, -, -, -, hdb⟩
  · rfl
  · rw [hdb]

/-- Phase 3 only adds to the ledger and leaves the reservations alone. -/
theorem Settled.rows {visit : Visit} {context : NodeContext}
    (h : Settled env workflowId visit run context run') :
    run.db.walletEvents.rows ⊆ run'.db.walletEvents.rows ∧
      run'.reservations = run.reservations := by
  cases h with
  | llmFailed message tasks run₁ _ hreleased hrun =>
    rw [hrun]
    exact ⟨hreleased.rows, by rw [hreleased.eq]⟩
  | completed response _ hcompleted =>
    obtain ⟨_, run₁, db, _, _, _, _, hcharged, -, hwrote, -, hrun⟩ := hcompleted
    rw [hrun]
    refine ⟨?_, rfl⟩
    show run.db.walletEvents.rows ⊆ db.walletEvents.rows
    rw [hwrote.walletEvents]
    exact hcharged.rows
  | rejected response charged run₁ run₂ tasks error _ hrejected hreleased hrun =>
    obtain ⟨run₀, db, _, hcharged, hwrote, hrun₁⟩ := hrejected
    have hrows : run.db.walletEvents.rows ⊆ run₁.db.walletEvents.rows := by
      rw [hrun₁]
      show run.db.walletEvents.rows ⊆ db.walletEvents.rows
      rcases hwrote with rfl | hwrote
      · exact hcharged.rows
      · rw [hwrote.walletEvents]
        exact hcharged.rows
    rw [hrun]
    rcases hreleased with ⟨-, rfl⟩ | ⟨-, hreleased⟩
    · exact ⟨hrows, by rw [hrun₁]; rfl⟩
    · exact ⟨List.Subset.trans hrows hreleased.rows, by rw [hreleased.eq, hrun₁]; rfl⟩

theorem Held.prepared {node : DAGNode} (h : Held workflowId run)
    (hprepared : Prepared env workflowId agents run node run') : Held workflowId run' := by
  have hrows := hprepared.rows
  cases hprepared with
  | noAgent error _ hrun => exact h.grow hrows (by rw [hrun])
  | starved error tasks dag taskId _ hrun => exact h.grow hrows (by rw [hrun])
  | started agent reservation db tasks dag taskId _ hreserve _ hrun =>
    obtain ⟨-, hmem, hkey⟩ := reserveBudget_row hreserve
    intro other found hfound
    have happend : run'.reservations = run.reservations ++ [(node.nodeId, reservation)] := by
      rw [hrun]
    rw [reservation?_append happend, Option.or_eq_some_iff] at hfound
    rcases hfound with hold | ⟨-, hnew⟩
    · obtain ⟨hmem', hkey'⟩ := h other found hold
      exact ⟨hrows hmem', hkey'⟩
    · split at hnew
      · rename_i hid
        cases hnew
        rw [hrun]
        exact ⟨hmem, hid ▸ hkey⟩
      · cases hnew

/-- The ledger is settled, too. -/
structure Keyed (workflowId : UUID) (run : Run) : Prop where
  settled : ChargesSettled workflowId run.db.walletEvents.rows
  held : Held workflowId run

/-- The ledger and the reservations stay the same. -/
theorem Keyed.same (h : Keyed workflowId run) (hledger : run'.db.walletEvents = run.db.walletEvents)
    (hreservations : run'.reservations = run.reservations) : Keyed workflowId run' where
  settled := by
    rw [hledger]
    exact h.settled
  held := h.held.grow (by rw [hledger]; exact List.Subset.refl _) hreservations

theorem Keyed.prepared {node : DAGNode} (h : Keyed workflowId run)
    (hprepared : Prepared env workflowId agents run node run') : Keyed workflowId run' where
  held := h.held.prepared hprepared
  settled := by
    cases hprepared with
    | noAgent error _ hrun => rw [hrun]; exact h.settled
    | starved error tasks dag taskId _ hrun => rw [hrun]; exact h.settled
    | started agent reservation db tasks dag taskId _ hreserve _ hrun =>
      have hsettled : ChargesSettled workflowId db.walletEvents.rows :=
        h.settled.reserveBudget hreserve
      rw [hrun]
      exact hsettled

/-- A charge keeps the ledger settled; one that is flagged as charged has
closed the reservation of the node. -/
theorem Keyed.charged {visit : Visit} {context : NodeContext} {response : LLMResponse}
    {charged : Bool} (h : Keyed workflowId run)
    (hcharged : Charged workflowId visit run context response charged run') :
    ChargesSettled workflowId run'.db.walletEvents.rows ∧
      (charged = true → ∀ reservation, run.reservation? context.node.nodeId = some reservation →
        reservation.actionType = .reserve →
          IsReleased run'.db.walletEvents.rows reservation.walletEventId) := by
  cases hcharged with
  | unreserved hreservation hflag hrun =>
    rw [hrun, hflag]
    exact ⟨h.settled, fun hfalse => Bool.noConfusion hfalse⟩
  | failed reservation reason hreservation hfailed hflag hrun =>
    rw [hrun, hflag]
    exact ⟨h.settled, fun hfalse => Bool.noConfusion hfalse⟩
  | booked reservation event reason db hreservation hcharge hrun =>
    obtain ⟨hmem, hkey⟩ := h.held _ _ hreservation
    obtain ⟨hsettled, hclosed⟩ := charge_closes hcharge h.settled hmem hkey
    rw [hrun]
    refine ⟨hsettled, fun _ found hfound => ?_⟩
    rw [hreservation] at hfound
    cases hfound
    exact hclosed

/-- Giving a reservation back keeps the ledger settled and closes it, unless
the call raises. -/
theorem released_closes {nodeId : String} (h : ChargesSettled workflowId run.db.walletEvents.rows)
    (hreleased : Released workflowId run nodeId run') :
    ChargesSettled workflowId run'.db.walletEvents.rows ∧
      ∀ reservation, run.reservation? nodeId = some reservation →
        .released nodeId reservation true ∈ run'.log ∨
          IsReleased run'.db.walletEvents.rows reservation.walletEventId := by
  cases hreleased with
  | unreserved hreservation hrun =>
    rw [hrun]
    refine ⟨h, fun found hfound => ?_⟩
    rw [hreservation] at hfound
    cases hfound
  | failed reservation hreservation hrun =>
    rw [hrun]
    refine ⟨h, fun found hfound => ?_⟩
    rw [hreservation] at hfound
    cases hfound
    exact Or.inl (List.mem_append_right _ (List.mem_singleton_self _))
  | released reservation event reason db hreservation hrelease hrun =>
    obtain ⟨hsettled, hclosed⟩ := release_closes hrelease h
    rw [hrun]
    refine ⟨hsettled, fun found hfound => ?_⟩
    rw [hreservation] at hfound
    cases hfound
    exact Or.inr hclosed

/-- Phase 3 keeps the ledger settled and closes the reservation of the node,
unless a release raises. -/
theorem Keyed.settledNode {visit : Visit} {context : NodeContext} (h : Keyed workflowId run)
    (hsettled : Settled env workflowId visit run context run') :
    Keyed workflowId run' ∧
      ∀ reservation, run.reservation? context.node.nodeId = some reservation →
        reservation.actionType = .reserve →
        .released context.node.nodeId reservation true ∈ run'.log ∨
          IsReleased run'.db.walletEvents.rows reservation.walletEventId := by
  have hheld : Held workflowId run' := h.held.grow hsettled.rows.1 hsettled.rows.2
  have hprocessed : ∀ event, Keyed workflowId (run.record event) :=
    fun event => h.same rfl rfl
  cases hsettled with
  | llmFailed message tasks run₁ _ hreleased hrun =>
    have hstart : ChargesSettled workflowId
        { run with db := { run.db with tasks } }.db.walletEvents.rows := h.settled
    obtain ⟨hledger, hclosed⟩ := released_closes hstart hreleased
    refine ⟨⟨?_, hheld⟩, ?_⟩
    · rw [hrun]
      exact hledger
    · rw [hrun]
      exact fun found hfound _ => hclosed found hfound
  | completed response _ hcompleted =>
    obtain ⟨charged, run₁, db, workflows, tasks, dag, replanCount, hcharged, hreserved, hwrote, -,
      hrun⟩ := hcompleted
    obtain ⟨hledger, hclosed⟩ := (hprocessed _).charged hcharged
    have hwallet : run'.db.walletEvents = run₁.db.walletEvents := by
      rw [hrun]
      exact hwrote.walletEvents
    rw [← hwallet] at hledger hclosed
    refine ⟨⟨hledger, hheld⟩, fun found hfound haction => ?_⟩
    cases charged with
    | false =>
      have hnone : run.reservation? context.node.nodeId = none := hreserved rfl
      rw [hnone] at hfound
      cases hfound
    | true => exact Or.inr (hclosed rfl found hfound haction)
  | rejected response charged run₁ run₂ tasks error _ hrejected hreleased hrun =>
    obtain ⟨run₀, db, tasks₀, hcharged, hwrote, hrun₁⟩ := hrejected
    obtain ⟨hledger, hclosed⟩ := (hprocessed _).charged hcharged
    have hwallet : run₁.db.walletEvents = run₀.db.walletEvents := by
      rw [hrun₁]
      rcases hwrote with rfl | hwrote
      · rfl
      · exact hwrote.walletEvents
    have hreservations : run₁.reservations = run.reservations := by
      rw [hrun₁]
      rfl
    rw [← hwallet] at hledger hclosed
    rcases hreleased with ⟨rfl, rfl⟩ | ⟨rfl, hreleased⟩
    · rw [hrun] at hheld ⊢
      exact ⟨⟨hledger, hheld⟩, fun found hfound haction => Or.inr (hclosed rfl found hfound haction)⟩
    · obtain ⟨hledger₂, hclosed₂⟩ := released_closes hledger hreleased
      rw [hrun] at hheld ⊢
      refine ⟨⟨hledger₂, hheld⟩, fun found hfound _ => hclosed₂ found ?_⟩
      rw [reservation?_congr hreservations]
      exact hfound

end Keyed

/-! ## The ledger between runs -/

/-- The run keeps its keys at every point of a batch. -/
def keyedPhases (workflowId : UUID) : Phases where
  between := Keyed workflowId
  preparing _ := Keyed workflowId
  evaluating := Keyed workflowId
  gating _ _ := Keyed workflowId
  settling _ := Keyed workflowId

/-- The steps of the gate do not touch the ledger. -/
theorem Keyed.evaluated {workflowId : UUID} {run : Run} {escalated : List DAGNode}
    {context : NodeContext} {state : Run × List DAGNode} (h : Keyed workflowId run)
    (hevaluated : Evaluated run escalated context state) : Keyed workflowId state.1 := by
  cases hevaluated with
  | failed hstate => exact h.same (by rw [hstate]) (by rw [hstate])
  | denied ruleId reason tasks hrun _ => exact h.same (by rw [hrun]) (by rw [hrun]; rfl)
  | kept verdict _ hrun _ => exact h.same (by rw [hrun]; rfl) (by rw [hrun]; rfl)

theorem Keyed.gated {env : Environment} {workflowId : UUID} {run run' : Run} {visit : Visit}
    {context : NodeContext} (h : Keyed workflowId run)
    (hgated : Gated env workflowId visit run context run') : Keyed workflowId run' := by
  cases hgated with
  | denied decision tasks error _ hrun => exact h.same (by rw [hrun]) (by rw [hrun]; rfl)
  | passed decision _ _ hrun => exact h.same (by rw [hrun]; rfl) (by rw [hrun]; rfl)
  | fellThrough tasks _ hrun => exact h.same (by rw [hrun]) (by rw [hrun])

/-- The batch starts without reservations. -/
theorem Keyed.openBatch {workflowId : UUID} {run : Run} (h : Keyed workflowId run) :
    Keyed workflowId (openBatch run) where
  settled := h.settled
  held := held_of_nil rfl

/-- Every run keeps the ledger settled, up to its end or to its pause. -/
theorem keyedPhases_kept (env : Environment) (workflowId : UUID)
    (agents : String → Option Agent) :
    (keyedPhases workflowId).Kept env workflowId agents (fun _ => True)
      (fun stopped => stopped.1 ≠ .raised →
        ChargesSettled workflowId stopped.2.db.walletEvents.rows) where
  opened := fun h => h.openBatch
  prepared := fun h hprepared _ => h.prepared hprepared
  evaluate := fun h => h
  evaluated := fun h hevaluated _ => h.evaluated hevaluated
  gate := fun _ h => h
  gated := fun h _ _ hgated _ => h.gated hgated
  paused := by
    intro all node rest run visit context stopped h _ _ hpaused _ _
    obtain ⟨workflows, tasks, hstate⟩ := hpaused.state
    rw [hstate]
    exact h.settled
  called := fun h => h.same rfl rfl
  settled := fun h hsettled _ => (h.settledNode hsettled).1
  persist := fun f h => h.same rfl rfl
  raised := fun _ hraised _ hne => absurd hraised.1 hne

/-- The ledger a run hands over is settled when the one it started from is. -/
theorem chargesSettled_of_executed {env : Environment} {workflowId : UUID}
    {agents : String → Option Agent} {db : Db} {dag : DAG}
    (hledger : ChargesSettled workflowId db.walletEvents.rows) :
    Outcome.Holds (fun result => ChargesSettled workflowId result.2.db.walletEvents.rows)
      (fun stopped => stopped.1 ≠ .raised →
        ChargesSettled workflowId stopped.2.db.walletEvents.rows)
      (executeWorkflow env workflowId agents db dag) := by
  have hstart : Keyed workflowId (startRun env workflowId db dag) := ⟨hledger, held_of_nil rfl⟩
  refine ((keyedPhases_kept env workflowId agents).executeWorkflow_holds db dag hstart).mono
    ?_ ?_
  · rintro ⟨result, run'⟩ ⟨run, hrun, hended⟩
    show ChargesSettled workflowId run'.db.walletEvents.rows
    rw [show run' = _ from hended.eq]
    exact (hrun (fun _ _ => trivial)).settled
  · exact fun stopped h => h (fun _ _ => trivial)

/-! ## The reservations a run obtains -/

/-- A node leaves its batch by a denial, or a reservation cannot be given
back. -/
def leavesReservation : Event → Bool
  | .policy _ (.deny _ _) => true
  | .decisionFound _ _ decision => decision.status = "denied"
  | .released _ _ raised => raised
  | _ => false

/-- Every RESERVE event that was obtained is closed, or is the reservation of
an active node. -/
structure Covered (workflowId : UUID) (active : List String) (run : Run) : Prop extends
    Keyed workflowId run where
  obtained : ∀ nodeId reservation, .reserved nodeId reservation ∈ run.log →
    reservation.actionType = .reserve →
      IsReleased run.db.walletEvents.rows reservation.walletEventId ∨
        (nodeId ∈ active ∧ run.reservation? nodeId = some reservation)

section Covered

variable {env : Environment} {workflowId : UUID} {agents : String → Option Agent} {run run' : Run}
  {active rest : List String}

/-- The ledger grows, and nothing is obtained. -/
theorem Covered.carry (h : Covered workflowId active run) (hkeyed : Keyed workflowId run')
    (hrows : run.db.walletEvents.rows ⊆ run'.db.walletEvents.rows)
    (hreservations : run'.reservations = run.reservations)
    (hlog : ∀ nodeId reservation, .reserved nodeId reservation ∈ run'.log →
      .reserved nodeId reservation ∈ run.log) : Covered workflowId active run' where
  toKeyed := hkeyed
  obtained := by
    intro nodeId reservation hobtained haction
    rcases h.obtained nodeId reservation (hlog _ _ hobtained) haction with hclosed | ⟨hactive, hheld⟩
    · exact Or.inl (hclosed.mono hrows)
    · refine Or.inr ⟨hactive, ?_⟩
      rw [reservation?_congr hreservations, hheld]

/-- A node whose reservation is closed is not active any more. -/
theorem Covered.close {nodeId : String} (h : Covered workflowId (nodeId :: rest) run)
    (hclosed : ∀ reservation, run.reservation? nodeId = some reservation →
      reservation.actionType = .reserve →
        IsReleased run.db.walletEvents.rows reservation.walletEventId) :
    Covered workflowId rest run where
  toKeyed := h.toKeyed
  obtained := by
    intro other reservation hobtained haction
    rcases h.obtained other reservation hobtained haction with hdone | ⟨hactive, hheld⟩
    · exact Or.inl hdone
    · rcases List.mem_cons.1 hactive with rfl | hrest
      · exact Or.inl (hclosed reservation hheld haction)
      · exact Or.inr ⟨hrest, hheld⟩

theorem Covered.openBatch (h : Covered workflowId [] run) :
    Covered workflowId [] (openBatch run) where
  toKeyed := h.toKeyed.openBatch
  obtained := by
    intro nodeId reservation hobtained haction
    have hold : .reserved nodeId reservation ∈ run.log := by
      simpa [WorkflowScheduler.openBatch] using hobtained
    rcases h.obtained nodeId reservation hold haction with hdone | ⟨hactive, -⟩
    · exact Or.inl hdone
    · cases hactive

/-- The first reservation of a node in its batch. -/
theorem Covered.prepared {node : DAGNode} {rest : List String}
    (h : Covered workflowId (contextIds run) run)
    (hfresh : (run.reservations.map Prod.fst ++ node.nodeId :: rest).Nodup)
    (hprepared : Prepared env workflowId agents run node run') :
    Covered workflowId (contextIds run') run' ∧
      (run'.reservations.map Prod.fst ++ rest).Nodup := by
  have hkeyed := h.toKeyed.prepared hprepared
  have hrest : (run.reservations.map Prod.fst ++ rest).Nodup ∧
      node.nodeId ∉ run.reservations.map Prod.fst ++ rest := nodup_split hfresh
  cases hprepared with
  | noAgent error _ hrun =>
    rw [hrun] at hkeyed ⊢
    exact ⟨h.carry hkeyed (List.Subset.refl _) rfl (fun _ _ h => h), hrest.1⟩
  | starved error tasks dag taskId _ hrun =>
    rw [hrun] at hkeyed ⊢
    exact ⟨h.carry hkeyed (List.Subset.refl _) rfl (fun _ _ h => h), hrest.1⟩
  | started agent reservation db tasks dag taskId _ hreserve _ hrun =>
    have hledger : run'.db.walletEvents = db.walletEvents := by rw [hrun]
    have hnone : run.reservation? node.nodeId = none := by
      rw [Run.reservation?, Option.map_eq_none_iff, List.find?_eq_none]
      intro entry hentry heq
      have hmem : node.nodeId ∈ run.reservations.map Prod.fst :=
        List.mem_map.2 ⟨entry, hentry, by simpa using heq⟩
      exact hrest.2 (List.mem_append_left _ hmem)
    have hheld : ∀ other, run'.reservation? other = (run.reservation? other).or
        (if node.nodeId = other then some reservation else none) :=
      reservation?_append (by rw [hrun])
    have hids : contextIds run' = contextIds run ++ [node.nodeId] := by
      rw [hrun]
      simp [contextIds]
    refine ⟨⟨hkeyed, ?_⟩, ?_⟩
    · intro other found hobtained haction
      rw [hids, hledger, hheld]
      have hcases : .reserved other found ∈ run.log ∨
          (other = node.nodeId ∧ found = reservation) := by
        rw [hrun] at hobtained
        simpa using hobtained
      rcases hcases with hold | ⟨rfl, rfl⟩
      · rcases h.obtained other found hold haction with hdone | ⟨hactive, hfound⟩
        · exact Or.inl (hdone.mono (reserveBudget_row hreserve).1)
        · refine Or.inr ⟨List.mem_append_left _ hactive, ?_⟩
          rw [hfound]
          rfl
      · refine Or.inr ⟨List.mem_append_right _ (List.mem_singleton_self _), ?_⟩
        rw [hnone, if_pos rfl]
        rfl
    · rw [hrun]
      show ((run.reservations ++ [(node.nodeId, reservation)]).map Prod.fst ++ rest).Nodup
      rw [List.map_append, List.append_assoc]
      exact hfresh

/-- Phase 3 closes the reservation of the node. -/
theorem Covered.settledNode {visit : Visit} {context : NodeContext}
    (h : Covered workflowId (context.node.nodeId :: rest) run)
    (hsettled : Settled env workflowId visit run context run')
    (hmeets : ∀ event ∈ run'.log, leavesReservation event = false) :
    Covered workflowId rest run' := by
  obtain ⟨hkeyed, hclosed⟩ := h.toKeyed.settledNode hsettled
  obtain ⟨hrows, hreservations⟩ := hsettled.rows
  obtain ⟨events, hlog, hevents⟩ := hsettled.events
  refine (h.carry hkeyed hrows hreservations ?_).close ?_
  · intro nodeId reservation hobtained
    rw [hlog] at hobtained
    rcases List.mem_append.1 hobtained with hfront | hback
    · rcases List.mem_append.1 hfront with hold | hattempt
      · exact hold
      · unfold attempt at hattempt
        split at hattempt <;> simp at hattempt
    · obtain ⟨_, _, hevent⟩ := hevents _ hback
      cases hevent
  · intro reservation hheld haction
    have hfound : run.reservation? context.node.nodeId = some reservation := by
      rw [← hheld, reservation?_congr hreservations]
    rcases hclosed reservation hfound haction with hraised | hdone
    · cases hmeets _ hraised
    · exact hdone

/-- The reservations of a run are covered at each point of a batch. -/
def coveredPhases (workflowId : UUID) : Phases where
  between := Covered workflowId []
  preparing rest run :=
    Covered workflowId (contextIds run) run ∧
      (run.reservations.map Prod.fst ++ rest.map DAGNode.nodeId).Nodup
  evaluating run := Covered workflowId (contextIds run) run
  gating _ _ run := Covered workflowId (contextIds run) run
  settling rest := Covered workflowId (rest.map (fun context => context.node.nodeId))

theorem coveredPhases_kept (env : Environment) (workflowId : UUID)
    (agents : String → Option Agent) :
    (coveredPhases workflowId).Kept env workflowId agents
      (leavesReservation · = false) (fun _ => True) where
  opened := fun {run} h => ⟨h.openBatch, DAG.getReadyNodes_nodup run.dag⟩
  prepared := fun h hprepared _ => h.1.prepared h.2 hprepared
  evaluate := fun h => h.1
  evaluated := by
    intro run escalated context state h hevaluated hmeets
    have hkeyed := h.toKeyed.evaluated hevaluated
    cases hevaluated with
    | failed hstate =>
      rw [hstate]
      exact h
    | denied ruleId reason tasks hrun _ =>
      have hdenied := hmeets (.policy context.node.nodeId (.deny ruleId reason))
        (by rw [hrun]; simp)
      cases hdenied
    | kept verdict _ hrun _ =>
      rw [hrun] at hkeyed ⊢
      exact h.carry hkeyed (List.Subset.refl _) rfl (by simp [Run.record])
  gate := fun _ h => h
  gated := by
    intro all node rest run visit context run' h _ _ hgated hmeets
    have hkeyed := h.toKeyed.gated hgated
    cases hgated with
    | denied decision tasks error hstatus hrun =>
      have hdenied := hmeets (.decisionFound context.node.nodeId (visit.twins.getD []) decision)
        (by rw [hrun]; simp)
      simp [leavesReservation, hstatus] at hdenied
    | passed decision _ _ hrun =>
      rw [hrun] at hkeyed ⊢
      exact h.carry hkeyed (List.Subset.refl _) rfl (by simp [Run.record])
    | fellThrough tasks _ hrun =>
      rw [hrun] at hkeyed ⊢
      exact h.carry hkeyed (List.Subset.refl _) rfl (by simp)
  paused := fun _ _ _ _ _ => trivial
  called := fun h =>
    h.carry (h.toKeyed.same rfl rfl) (List.Subset.refl _) rfl (by simp [Run.record])
  settled := fun h hsettled hmeets => h.settledNode hsettled hmeets
  persist := fun f h =>
    h.carry (h.toKeyed.same rfl rfl) (List.Subset.refl _) rfl (fun _ _ h => h)
  raised := fun _ _ _ => trivial

end Covered

/-- In a run without a denial and without a release that raises, every
reservation obtained for a node is charged or released when the run returns. -/
theorem isReleased_of_reserved (env : Environment) (workflowId : UUID)
    (agents : String → Option Agent) (db : Db) (dag : DAG)
    (hledger : ChargesSettled workflowId db.walletEvents.rows)
    (result : List (String × Json)) (run : Run)
    (hrun : executeWorkflow env workflowId agents db dag = .ok (result, run))
    (hmeets : ∀ event ∈ run.log, leavesReservation event = false) :
    ∀ nodeId reservation, .reserved nodeId reservation ∈ run.log →
      reservation.actionType = .reserve →
        IsReleased run.db.walletEvents.rows reservation.walletEventId := by
  have hstart : Covered workflowId [] (startRun env workflowId db dag) := by
    refine ⟨⟨hledger, held_of_nil rfl⟩, ?_⟩
    intro nodeId reservation hobtained
    cases hobtained
  have hholds := (coveredPhases_kept env workflowId agents).executeWorkflow_holds db dag hstart
  obtain ⟨last, hlast, hended⟩ := hholds.of_ok hrun
  have heq : run = _ := hended.eq
  have hlog : run.log = last.log := by rw [heq]
  have hwallet : run.db.walletEvents = last.db.walletEvents := by rw [heq]
  rw [hlog] at hmeets
  intro nodeId reservation hobtained haction
  rw [hlog] at hobtained
  rw [hwallet]
  rcases (hlast hmeets).obtained nodeId reservation hobtained haction with hdone | ⟨hactive, -⟩
  · exact hdone
  · cases hactive

end WorkflowScheduler

/-! ## A reservation that stays open -/

namespace SchedulerExample

/-- What a returned run obtained, as far as it can be decided: the nodes of its
RESERVE events, each with the question whether it is closed. -/
structure Obtained where
  reservations : List (String × Bool)
  leaves : Bool
  deriving DecidableEq

/-- A RESERVE event the run obtained, and whether it is closed. -/
def obtainedEvent? (ledger : Ledger) : Event → Option (String × Bool)
  | .reserved nodeId reservation =>
    if reservation.actionType = .reserve then
      some (nodeId, decide (IsReleased ledger.rows reservation.walletEventId))
    else none
  | _ => none

/-- What a returned run obtained. -/
def obtained? : Except Stopped (List (String × Json) × Run) → Option Obtained
  | .ok (_, run) => some
    { reservations := run.log.filterMap (obtainedEvent? run.db.walletEvents)
      leaves := run.log.any WorkflowScheduler.leavesReservation }
  | .error _ => none

theorem obtained?_eq_some {execution : Except Stopped (List (String × Json) × Run)}
    {obtained : Obtained} (h : obtained? execution = some obtained) :
    ∃ result run, execution = .ok (result, run) ∧
      run.log.filterMap (obtainedEvent? run.db.walletEvents) = obtained.reservations ∧
      run.log.any WorkflowScheduler.leavesReservation = obtained.leaves := by
  cases execution with
  | error stopped => cases h
  | ok returned =>
    cases h
    exact ⟨returned.1, returned.2, rfl, rfl, rfl⟩

/-- An entry of the list stands for an event of the log. -/
theorem mem_obtained {ledger : Ledger} {log : List Event} {nodeId : String} {closed : Bool}
    (h : (nodeId, closed) ∈ log.filterMap (obtainedEvent? ledger)) :
    ∃ reservation, .reserved nodeId reservation ∈ log ∧ reservation.actionType = .reserve ∧
      decide (IsReleased ledger.rows reservation.walletEventId) = closed := by
  obtain ⟨event, hevent, hentry⟩ := List.mem_filterMap.1 h
  unfold obtainedEvent? at hentry
  split at hentry
  · rename_i other reservation
    split at hentry
    · rename_i haction
      cases hentry
      exact ⟨reservation, hevent, haction, rfl⟩
    · cases hentry
  · cases hentry

end SchedulerExample

namespace WorkflowScheduler

open SchedulerExample in
/-- The reservation of a node that is executed and charged is closed. -/
theorem isReleased_of_executed :
    ∃ result run, execute (fun _ nodeId => visit nodeId) [root "t1" "research"] =
      .ok (result, run) ∧
      ∃ reservation, .reserved "t1" reservation ∈ run.log ∧
        IsReleased run.db.walletEvents.rows reservation.walletEventId := by
  have hobtained : obtained? (execute (fun _ nodeId => visit nodeId) [root "t1" "research"]) =
      some ⟨[("t1", true)], false⟩ := by decide +kernel
  obtain ⟨result, run, hrun, hreservations, hleaves⟩ := obtained?_eq_some hobtained
  have hentry : ("t1", true) ∈ run.log.filterMap (obtainedEvent? run.db.walletEvents) := by
    rw [hreservations]
    exact List.mem_singleton_self _
  obtain ⟨reservation, hevent, haction, -⟩ := mem_obtained hentry
  refine ⟨result, run, hrun, reservation, hevent, ?_⟩
  refine isReleased_of_reserved _ _ _ _ _ ?_ result run hrun ?_ "t1" reservation hevent haction
  · intro nodeId charge hcharge
    cases hcharge
  · intro event hevent
    simpa using List.any_eq_false.1 hleaves event hevent

open SchedulerExample in
/-- The reservation of a denied node is still open when the run returns. -/
theorem isReleased_fails :
    ¬∀ (env : Environment) (workflowId : UUID) (agents : String → Option Agent) (db : Db)
      (dag : DAG), ChargesSettled workflowId db.walletEvents.rows →
      ∀ (result : List (String × Json)) (run : Run),
        executeWorkflow env workflowId agents db dag = .ok (result, run) →
        ∀ nodeId reservation, .reserved nodeId reservation ∈ run.log →
          reservation.actionType = .reserve →
            IsReleased run.db.walletEvents.rows reservation.walletEventId := by
  intro h
  have hobtained : obtained? (execute denied [root "t1" "research"]) =
      some ⟨[("t1", false)], true⟩ := by decide +kernel
  obtain ⟨result, run, hrun, hreservations, -⟩ := obtained?_eq_some hobtained
  have hentry : ("t1", false) ∈ run.log.filterMap (obtainedEvent? run.db.walletEvents) := by
    rw [hreservations]
    exact List.mem_singleton_self _
  obtain ⟨reservation, hevent, haction, hopen⟩ := mem_obtained hentry
  refine of_decide_eq_false hopen (h _ _ _ _ _ ?_ result run hrun "t1" reservation hevent haction)
  intro nodeId charge hcharge
  cases hcharge

end WorkflowScheduler

end MassClaw
