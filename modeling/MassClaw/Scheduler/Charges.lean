import MassClaw.Scheduler.Reservations

/-!
# The cost of the attempts

Phase 3 charges each response it processes.  The idempotency key of a charge
belongs to the node, not to the attempt: when the reflection sends a node back,
its second charge is answered by the DEBIT event of the first one, and the
second cost is booked nowhere.
-/

namespace MassClaw

open WalletEvents

namespace WorkflowScheduler

/-! ## What is booked -/

/-- The DEBIT events of a workflow. -/
def debits (workflowId : UUID) (events : List WalletEvent) : List WalletEvent :=
  events.filter (fun event => event.workflowId = workflowId ∧ event.actionType = .debit)

/-- The cost of an attempt that Phase 3 processes, in credits. -/
def attemptCost? : Event → Option ℚ
  | .processed _ response _ _ => some (tokensToCredits response.cost)
  | _ => none

/-- The costs of the attempts of a run, in order. -/
def attemptCosts (log : List Event) : List ℚ := log.filterMap attemptCost?

/-- Since the ledger `start`, each attempt is booked in a DEBIT event of its
own, and nothing else is. -/
def BookedOnce (workflowId : UUID) (start : List WalletEvent) (run : Run) : Prop :=
  ∃ booked, debits workflowId run.db.walletEvents.rows = debits workflowId start ++ booked ∧
    booked.map (fun event => toFloat (-event.creditDelta)) = attemptCosts run.log

/-- The booked costs add up to the booked amounts. -/
private theorem sum_booked (booked : List WalletEvent) :
    (booked.map (fun event => toFloat (-event.creditDelta))).sum =
      toFloat (-(booked.map WalletEvent.creditDelta).sum) := by
  induction booked with
  | nil => simp
  | cons event rest ih =>
    rw [List.map_cons, List.sum_cons, List.map_cons, List.sum_cons, ih]
    unfold toFloat
    push_cast
    ring

/-- The DEBIT events add up to the costs of the attempts. -/
theorem BookedOnce.total {workflowId : UUID} {start : List WalletEvent} {run : Run}
    (h : BookedOnce workflowId start run) :
    toFloat (-sumDeltas run.db.walletEvents.rows workflowId .debit) =
      toFloat (-sumDeltas start workflowId .debit) + (attemptCosts run.log).sum := by
  obtain ⟨booked, hrows, hcosts⟩ := h
  have hsum : sumDeltas run.db.walletEvents.rows workflowId .debit =
      sumDeltas start workflowId .debit + (booked.map WalletEvent.creditDelta).sum := by
    unfold sumDeltas
    show ((debits workflowId run.db.walletEvents.rows).map WalletEvent.creditDelta).sum = _
    rw [hrows, List.map_append, List.sum_append]
    rfl
  rw [← hcosts, sum_booked, hsum]
  unfold toFloat
  push_cast
  ring

/-! ## When a charge books -/

/-- The charge of an attempt books its cost: the node has not been charged
before, its reservation is a RESERVE event, the call does not raise, its foreign
keys exist, and the amounts are storable. -/
structure Chargeable (workflowId : UUID) (context : NodeContext) (response : LLMResponse)
    (before : Db) (visit : Visit) : Prop where
  first : ∀ row ∈ before.walletEvents.rows,
    row.idempotencyKey ≠ some (chargeKey workflowId context.node.nodeId)
  reserved : ∃ reservation ∈ before.walletEvents.rows,
    reservation.idempotencyKey = some (reserveKey workflowId context.node.nodeId) ∧
      reservation.actionType = .reserve ∧ numericFits |reservation.creditDelta| = true
  answered : visit.raises .charge = false
  workflow : before.hasWorkflow workflowId = true
  agent : before.hasAgent (some context.agent.agentId) = true
  storable : ∃ credits : Numeric, tokensToCredits response.cost = toFloat credits ∧
    numericFits credits = true ∧
    numericFits (before.walletEvents.computeBalance workflowId + credits) = true

/-- The only candidate for the stored cost is its rounding. -/
theorem chargeable_iff {workflowId : UUID} {context : NodeContext} {response : LLMResponse}
    {before : Db} {visit : Visit} :
    Chargeable workflowId context response before visit ↔
      (∀ row ∈ before.walletEvents.rows,
        row.idempotencyKey ≠ some (chargeKey workflowId context.node.nodeId)) ∧
      (∃ reservation ∈ before.walletEvents.rows,
        reservation.idempotencyKey = some (reserveKey workflowId context.node.nodeId) ∧
          reservation.actionType = .reserve ∧ numericFits |reservation.creditDelta| = true) ∧
      visit.raises .charge = false ∧ before.hasWorkflow workflowId = true ∧
      before.hasAgent (some context.agent.agentId) = true ∧
      tokensToCredits response.cost = toFloat (numeric4 (tokensToCredits response.cost)) ∧
      numericFits (numeric4 (tokensToCredits response.cost)) = true ∧
      numericFits (before.walletEvents.computeBalance workflowId +
        numeric4 (tokensToCredits response.cost)) = true := by
  constructor
  · intro h
    obtain ⟨credits, hcost, hcredits, hbalance⟩ := h.storable
    have hround : numeric4 (tokensToCredits response.cost) = credits := by
      rw [hcost, numeric4_toFloat]
    rw [hround]
    exact ⟨h.first, h.reserved, h.answered, h.workflow, h.agent, hcost, hcredits, hbalance⟩
  · rintro ⟨hfirst, hreserved, hanswered, hworkflow, hagent, hstorable⟩
    exact ⟨hfirst, hreserved, hanswered, hworkflow, hagent, _, hstorable⟩

instance (workflowId : UUID) (context : NodeContext) (response : LLMResponse) (before : Db)
    (visit : Visit) : Decidable (Chargeable workflowId context response before visit) :=
  decidable_of_iff' _ chargeable_iff

section Charge

variable {workflowId : UUID} {context : NodeContext} {response : LLMResponse} {db : Db}
  {visit : Visit} {reservation : WalletEvent}

theorem Chargeable.miss (h : Chargeable workflowId context response db visit) :
    db.walletEvents.idempotentHit (some (chargeKey workflowId context.node.nodeId)) = none := by
  rw [← Option.not_isSome_iff_eq_none, Option.isSome_iff_exists]
  rintro ⟨event, hhit⟩
  obtain ⟨hmem, -, hkey⟩ := Ledger.idempotentHit_eq_some hhit
  exact h.first event hmem hkey

/-- The reservation of the node is found by its id. -/
theorem Chargeable.findReservation (h : Chargeable workflowId context response db visit)
    (hmem : reservation ∈ db.walletEvents.rows)
    (hkey : reservation.idempotencyKey = some (reserveKey workflowId context.node.nodeId)) :
    ∃ found, db.walletEvents.findReservation reservation.walletEventId = some found ∧
      numericFits |found.creditDelta| = true := by
  obtain ⟨other, hother, hotherKey, haction, hfits⟩ := h.reserved
  obtain rfl : other = reservation := Table.eq_of_unique hother hmem hotherKey hkey
  cases hfound : db.walletEvents.findReservation other.walletEventId with
  | none =>
    have hnone := List.find?_eq_none.1 hfound other hmem
    simp [haction] at hnone
  | some found =>
    obtain ⟨hmem', hid, -⟩ := Ledger.findReservation_eq_some hfound
    obtain rfl : found = other := Table.eq_of_rowId hmem' hmem hid
    exact ⟨found, rfl, hfits⟩

/-- The charge of a chargeable attempt returns. -/
theorem Chargeable.charge_ok (h : Chargeable workflowId context response db visit)
    (hmem : reservation ∈ db.walletEvents.rows)
    (hkey : reservation.idempotencyKey = some (reserveKey workflowId context.node.nodeId))
    (reason : String) :
    ∃ result, WalletService.charge db workflowId (some context.agent.agentId)
      (tokensToCredits response.cost) reservation.walletEventId reason
      (some (chargeKey workflowId context.node.nodeId)) = .ok result := by
  obtain ⟨found, hfound, hfits⟩ := h.findReservation hmem hkey
  obtain ⟨credits, hcost, hcredits, hbalance⟩ := h.storable
  unfold WalletService.charge
  rw [h.miss, hfound]
  refine Outcome.exists_bind ?_ ?_
  · exact Db.insertWalletEvent_eq_ok h.workflow h.agent hfits rfl (by intro key hkey; cases hkey)
  rintro ⟨release, db₁⟩ hrelease
  obtain ⟨hrow, hrows, hdb⟩ := Db.insertWalletEvent_ok hrelease
  have hsame : db₁.walletEvents.computeBalance workflowId =
      db.walletEvents.computeBalance workflowId := by
    show WalletEvents.computeBalance db₁.walletEvents.rows workflowId = _
    rw [hrows]
    exact computeBalance_concat _ (by simp [hrow]) (by simp [hrow]) workflowId
  have hnew : numeric4 (toFloat (db₁.walletEvents.computeBalance workflowId) +
      tokensToCredits response.cost) = db.walletEvents.computeBalance workflowId + credits := by
    rw [hsame, hcost, ← toFloat_add, numeric4_toFloat]
  refine Outcome.exists_bind ?_ ?_
  · refine Db.insertWalletEvent_eq_ok ?_ ?_ ?_ ?_ ?_
    · rw [hdb]
      exact h.workflow
    · rw [hdb]
      exact h.agent
    · show numericFits (numeric4 (-tokensToCredits response.cost)) = true
      rw [numeric4_neg, hcost, numeric4_toFloat, numericFits, Int.natAbs_neg]
      exact hcredits
    · show numericFits (numeric4 (_ + _)) = true
      rw [hnew]
      exact hbalance
    · intro key hnewKey row hmem'
      have hcharge : some (chargeKey workflowId context.node.nodeId) = some key := hnewKey
      rw [← hcharge]
      rw [hrows] at hmem'
      rcases List.mem_append.1 hmem' with hold | hlast
      · exact h.first row hold
      · rw [List.mem_singleton.1 hlast, hrow]
        nofun
  · exact fun result _ => ⟨_, rfl⟩

end Charge

/-! ## The attempts of a run -/

section Booked

variable {env : Environment} {workflowId : UUID} {agents : String → Option Agent} {run run' : Run}
  {start : List WalletEvent}

/-- Neither an attempt nor a DEBIT event is added. -/
theorem BookedOnce.same (h : BookedOnce workflowId start run)
    (hdebits : debits workflowId run'.db.walletEvents.rows =
      debits workflowId run.db.walletEvents.rows)
    (hlog : attemptCosts run'.log = attemptCosts run.log) : BookedOnce workflowId start run' := by
  obtain ⟨booked, hbooked, hcosts⟩ := h
  exact ⟨booked, hdebits.trans hbooked, hcosts.trans hlog.symm⟩

/-- An attempt and its DEBIT event are added. -/
theorem BookedOnce.book (h : BookedOnce workflowId start run) {debit : WalletEvent} {cost : ℚ}
    (hdebits : debits workflowId run'.db.walletEvents.rows =
      debits workflowId run.db.walletEvents.rows ++ [debit])
    (hcost : toFloat (-debit.creditDelta) = cost)
    (hlog : attemptCosts run'.log = attemptCosts run.log ++ [cost]) :
    BookedOnce workflowId start run' := by
  obtain ⟨booked, hbooked, hcosts⟩ := h
  refine ⟨booked ++ [debit], by rw [hdebits, hbooked, List.append_assoc], ?_⟩
  rw [List.map_append, hcosts, hlog, List.map_singleton, hcost]

/-- Events of other kinds are no attempts. -/
theorem attemptCosts_append {log more : List Event} (h : ∀ event ∈ more, attemptCost? event = none) :
    attemptCosts (log ++ more) = attemptCosts log := by
  unfold attemptCosts
  rw [List.filterMap_append, List.filterMap_eq_nil_iff.2 h, List.append_nil]

/-- Events of other kinds are no DEBIT events. -/
theorem debits_append {events more : List WalletEvent}
    (h : ∀ event ∈ more, event.actionType ≠ .debit) :
    debits workflowId (events ++ more) = debits workflowId events := by
  have hmore : debits workflowId more = [] :=
    List.filter_eq_nil_iff.2 (fun event hevent => by simp [h event hevent])
  unfold debits at hmore ⊢
  rw [List.filter_append, hmore, List.append_nil]

/-- Reserving books no DEBIT event. -/
theorem debits_reserveBudget {db db' : Db} {agentId : Option UUID} {cost : ℚ} {reason : String}
    {key : Option String} {reservation : WalletEvent}
    (h : WalletService.reserveBudget db workflowId agentId cost reason key =
      .ok (reservation, db')) :
    debits workflowId db'.walletEvents.rows = debits workflowId db.walletEvents.rows := by
  rcases WalletService.reserveBudget_cases h with ⟨-, rfl⟩ | ⟨-, -, -, -, haction, -, -, hrows, -⟩
  · rfl
  · rw [hrows]
    refine debits_append (fun event hevent => ?_)
    rw [List.mem_singleton.1 hevent, haction]
    decide

/-- Giving a reservation back books no DEBIT event. -/
theorem debits_released {nodeId : String} (h : Released workflowId run nodeId run') :
    debits workflowId run'.db.walletEvents.rows = debits workflowId run.db.walletEvents.rows := by
  cases h with
  | unreserved _ hrun => rw [hrun]
  | failed reservation _ hrun => rw [hrun]; rfl
  | released reservation event reason db _ hrelease hrun =>
    rw [hrun]
    show debits workflowId db.walletEvents.rows = _
    rcases WalletService.releaseReservation_cases hrelease with ⟨hhit, -⟩ | ⟨-, found, -, -, -,
      haction, -, -, -, hrows, -⟩
    · cases hhit
    · rw [hrows]
      refine debits_append (fun other hother => ?_)
      rw [List.mem_singleton.1 hother, haction]
      decide

/-- A chargeable attempt is booked by its charge. -/
theorem debits_charged {visit : Visit} {context : NodeContext} {response : LLMResponse}
    {charged : Bool} (hheld : Held workflowId run)
    (hreserved : (run.reservation? context.node.nodeId).isSome)
    (hchargeable : Chargeable workflowId context response run.db visit)
    (h : Charged workflowId visit run context response charged run') :
    ∃ debit, debits workflowId run'.db.walletEvents.rows =
        debits workflowId run.db.walletEvents.rows ++ [debit] ∧
      toFloat (-debit.creditDelta) = tokensToCredits response.cost := by
  cases h with
  | unreserved hreservation _ _ =>
    rw [hreservation] at hreserved
    cases hreserved
  | failed reservation reason hreservation hfailed _ _ =>
    obtain ⟨hmem, hkey⟩ := hheld _ _ hreservation
    rcases hfailed with hraises | ⟨error, herror⟩
    · rw [hchargeable.answered] at hraises
      cases hraises
    · obtain ⟨result, hresult⟩ := hchargeable.charge_ok hmem hkey reason
      rw [herror] at hresult
      cases hresult
  | booked reservation event reason db hreservation hcharge hrun =>
    rcases WalletService.charge_cases hcharge with ⟨hhit, -⟩ | ⟨-, found, release, -, -, -,
      hrelease, -, -, -, hworkflow, haction, hdelta, -, hrows, -⟩
    · rw [hchargeable.miss] at hhit
      cases hhit
    · obtain ⟨credits, hcost, -, -⟩ := hchargeable.storable
      refine ⟨event, ?_, ?_⟩
      · rw [hrun]
        show debits workflowId db.walletEvents.rows = _
        rw [hrows]
        unfold debits
        rw [List.filter_append]
        simp [hrelease, hworkflow, haction]
      · rw [hdelta, numeric4_neg, neg_neg, hcost, numeric4_toFloat]

/-- The charge of each attempt books its cost. -/
def booksAttempt (workflowId : UUID) : Event → Prop
  | .processed context response before visit =>
    Chargeable workflowId context response before visit
  | _ => True

instance (workflowId : UUID) : ∀ event, Decidable (booksAttempt workflowId event)
  | .processed context response before visit =>
    inferInstanceAs (Decidable (Chargeable workflowId context response before visit))
  | .batch _ | .reserved _ _ | .policy _ _ | .decisionFound _ _ _ | .statusRead _ _
  | .llmCalls _ _ | .released _ _ _ | .paused _ _ _ => isTrue trivial

/-- Phase 3 books the attempt it processes. -/
theorem BookedOnce.settled {visit : Visit} {context : NodeContext}
    (h : BookedOnce workflowId start run) (hheld : Held workflowId run)
    (hreserved : (run.reservation? context.node.nodeId).isSome)
    (hsettled : Settled env workflowId visit run context run')
    (hmeets : ∀ event ∈ run'.log, booksAttempt workflowId event) :
    BookedOnce workflowId start run' := by
  obtain ⟨events, hlog, hevents⟩ := hsettled.events
  have hquiet : ∀ event ∈ events, attemptCost? event = none := by
    intro event hevent
    obtain ⟨_, _, rfl⟩ := hevents event hevent
    rfl
  have hcosts : attemptCosts run'.log =
      attemptCosts run.log ++ attemptCosts (attempt visit run context) := by
    rw [hlog, attemptCosts_append hquiet, attemptCosts, List.filterMap_append]
    rfl
  have hcharged : ∀ {response charged run₁}, visit.response = .ok response →
      Charged workflowId visit (run.record (.processed context response run.db visit)) context
        response charged run₁ →
      ∃ debit, debits workflowId run₁.db.walletEvents.rows =
          debits workflowId run.db.walletEvents.rows ++ [debit] ∧
        toFloat (-debit.creditDelta) = tokensToCredits response.cost := by
    intro response charged run₁ hresponse hcharge
    have hmem : .processed context response run.db visit ∈ run'.log := by
      rw [hlog, attempt, hresponse]
      simp
    have hheld' : Held workflowId (run.record (.processed context response run.db visit)) :=
      hheld.grow (List.Subset.refl _) rfl
    have hchargeable : Chargeable workflowId context response
        (run.record (.processed context response run.db visit)).db visit := hmeets _ hmem
    have hdebits := debits_charged hheld' hreserved hchargeable hcharge
    exact hdebits
  cases hsettled with
  | llmFailed message tasks run₁ hresponse hreleased hrun =>
    refine h.same ?_ ?_
    · have hrows := debits_released hreleased
      rw [hrun]
      exact hrows
    · rw [hcosts, attempt, hresponse]
      exact List.append_nil _
  | completed response hresponse hcompleted =>
    obtain ⟨charged, run₁, db, _, _, _, _, hcharge, -, hwrote, -, hrun⟩ := hcompleted
    obtain ⟨debit, hdebits, hcost⟩ := hcharged hresponse hcharge
    refine h.book ?_ hcost ?_
    · rw [hrun]
      show debits workflowId db.walletEvents.rows = _
      rw [hwrote.walletEvents, hdebits]
    · rw [hcosts, attempt, hresponse]
      rfl
  | rejected response charged run₁ run₂ tasks error hresponse hrejected hreleased hrun =>
    obtain ⟨run₀, db, _, hcharge, hwrote, hrun₁⟩ := hrejected
    obtain ⟨debit, hdebits, hcost⟩ := hcharged hresponse hcharge
    have hrows : debits workflowId run₁.db.walletEvents.rows =
        debits workflowId run.db.walletEvents.rows ++ [debit] := by
      rw [← hdebits, hrun₁]
      rcases hwrote with rfl | hwrote
      · rfl
      · show debits workflowId db.walletEvents.rows = _
        rw [hwrote.walletEvents]
    refine h.book ?_ hcost ?_
    · rw [hrun]
      show debits workflowId run₂.db.walletEvents.rows = _
      rcases hreleased with ⟨-, rfl⟩ | ⟨-, hreleased⟩
      · exact hrows
      · rw [debits_released hreleased, hrows]
    · rw [hcosts, attempt, hresponse]
      rfl

/-- Every node with a context has a reservation. -/
def Reserved (contexts : List NodeContext) (run : Run) : Prop :=
  ∀ context ∈ contexts, (run.reservation? context.node.nodeId).isSome

theorem Reserved.mono {contexts contexts' : List NodeContext} (h : Reserved contexts run)
    (hsub : ∀ context ∈ contexts', context ∈ contexts)
    (hreservations : run'.reservations = run.reservations) : Reserved contexts' run' := by
  intro context hcontext
  rw [reservation?_congr hreservations]
  exact h context (hsub context hcontext)

theorem Reserved.prepared {node : DAGNode} (h : Reserved run.contexts run)
    (hprepared : Prepared env workflowId agents run node run') :
    Reserved run'.contexts run' := by
  cases hprepared with
  | noAgent error _ hrun => rw [hrun]; exact h.mono (fun _ h => h) rfl
  | starved error tasks dag taskId _ hrun => rw [hrun]; exact h.mono (fun _ h => h) rfl
  | started agent reservation db tasks dag taskId _ hreserve _ hrun =>
    have happend : run'.reservations = run.reservations ++ [(node.nodeId, reservation)] := by
      rw [hrun]
    intro context hcontext
    rw [reservation?_append happend, Option.isSome_or]
    rw [hrun] at hcontext
    rcases List.mem_append.1 hcontext with hold | hnew
    · rw [h context hold, Bool.true_or]
    · rw [List.mem_singleton.1 hnew, if_pos rfl, Option.isSome_some, Bool.or_true]

/-- What is booked at each point of a batch. -/
def bookingPhases (workflowId : UUID) (start : List WalletEvent) : Phases where
  between := BookedOnce workflowId start
  preparing _ run :=
    BookedOnce workflowId start run ∧ Held workflowId run ∧ Reserved run.contexts run
  evaluating run :=
    BookedOnce workflowId start run ∧ Held workflowId run ∧ Reserved run.contexts run
  gating _ _ run :=
    BookedOnce workflowId start run ∧ Held workflowId run ∧ Reserved run.contexts run
  settling rest run :=
    BookedOnce workflowId start run ∧ Held workflowId run ∧ Reserved rest run

theorem bookingPhases_kept (env : Environment) (workflowId : UUID)
    (agents : String → Option Agent) (start : List WalletEvent) :
    (bookingPhases workflowId start).Kept env workflowId agents (booksAttempt workflowId)
      (fun stopped => stopped.1 ≠ .raised → BookedOnce workflowId start stopped.2) where
  opened := by
    intro run h
    refine ⟨h.same rfl (attemptCosts_append (by simp [attemptCost?])), held_of_nil rfl, ?_⟩
    intro context hcontext
    cases hcontext
  prepared := by
    rintro node rest run run' ⟨h, hheld, hreserved⟩ hprepared -
    refine ⟨?_, hheld.prepared hprepared, hreserved.prepared hprepared⟩
    cases hprepared with
    | noAgent error _ hrun => exact h.same (by rw [hrun]) (by rw [hrun])
    | starved error tasks dag taskId _ hrun => exact h.same (by rw [hrun]) (by rw [hrun])
    | started agent reservation db tasks dag taskId _ hreserve _ hrun =>
      have hrows := debits_reserveBudget hreserve
      refine h.same ?_ ?_
      · rw [hrun]
        exact hrows
      · rw [hrun]
        exact attemptCosts_append (by simp [attemptCost?])
  evaluate := fun h => h
  evaluated := by
    rintro run escalated context state ⟨h, hheld, hreserved⟩ hevaluated -
    cases hevaluated with
    | failed hstate =>
      rw [hstate]
      exact ⟨h, hheld, hreserved⟩
    | denied ruleId reason tasks hrun _ =>
      rw [hrun]
      refine ⟨h.same rfl (attemptCosts_append (by simp [attemptCost?])),
        hheld.grow (List.Subset.refl _) rfl, hreserved.mono ?_ rfl⟩
      exact fun other hother => List.mem_of_mem_filter hother
    | kept verdict _ hrun _ =>
      rw [hrun]
      exact ⟨h.same rfl (attemptCosts_append (by simp [attemptCost?])),
        hheld.grow (List.Subset.refl _) rfl, hreserved.mono (fun _ h => h) rfl⟩
  gate := fun _ h => h
  gated := by
    rintro all node rest run visit context run' ⟨h, hheld, hreserved⟩ - - hgated -
    cases hgated with
    | denied decision tasks error _ hrun =>
      rw [hrun]
      refine ⟨h.same rfl (attemptCosts_append (by simp [attemptCost?])),
        hheld.grow (List.Subset.refl _) rfl, hreserved.mono ?_ rfl⟩
      exact fun other hother => List.mem_of_mem_filter hother
    | passed decision _ _ hrun =>
      rw [hrun]
      exact ⟨h.same rfl (attemptCosts_append (by simp [attemptCost?])),
        hheld.grow (List.Subset.refl _) rfl, hreserved.mono (fun _ h => h) rfl⟩
    | fellThrough tasks _ hrun =>
      rw [hrun]
      exact ⟨h.same rfl (attemptCosts_append (by simp [attemptCost?])),
        hheld.grow (List.Subset.refl _) rfl, hreserved.mono (fun _ h => h) rfl⟩
  paused := by
    rintro all node rest run visit context stopped ⟨h, -, -⟩ - - hpaused - -
    obtain ⟨workflows, tasks, hstate⟩ := hpaused.state
    rw [hstate]
    exact h.same rfl (attemptCosts_append (by simp [attemptCost?]))
  called := fun h => ⟨h.1.same rfl (attemptCosts_append (by simp [attemptCost?])),
    h.2.1.grow (List.Subset.refl _) rfl, h.2.2.mono (fun _ h => h) rfl⟩
  settled := by
    rintro context rest run visit run' ⟨h, hheld, hreserved⟩ hsettled hmeets
    obtain ⟨hrows, hreservations⟩ := hsettled.rows
    refine ⟨h.settled hheld (hreserved context List.mem_cons_self) hsettled hmeets,
      hheld.grow hrows hreservations, hreserved.mono ?_ hreservations⟩
    exact fun other hother => List.mem_cons_of_mem _ hother
  persist := fun f h => h.1.same rfl rfl
  raised := fun _ hraised _ hne => absurd hraised.1 hne

end Booked

/-- In a run whose charges all book, each attempt that Phase 3 processes is
booked in one DEBIT event, and the DEBIT events add up to the costs. -/
theorem bookedOnce_of_chargeable (env : Environment) (workflowId : UUID)
    (agents : String → Option Agent) (db : Db) (dag : DAG) (run : Run)
    (hrun : Delivers (executeWorkflow env workflowId agents db dag) run)
    (hmeets : ∀ event ∈ run.log, booksAttempt workflowId event) :
    BookedOnce workflowId db.walletEvents.rows run ∧
      toFloat (-sumDeltas run.db.walletEvents.rows workflowId .debit) =
        toFloat (-sumDeltas db.walletEvents.rows workflowId .debit) +
          (attemptCosts run.log).sum := by
  have hbooked : BookedOnce workflowId db.walletEvents.rows run := by
    refine (bookingPhases_kept env workflowId agents db.walletEvents.rows).of_delivers
      ⟨[], ?_, rfl⟩ (fun last h workflows => h.same rfl rfl) hrun hmeets
    rw [List.append_nil]
    rfl
  exact ⟨hbooked, hbooked.total⟩

end WorkflowScheduler

/-! ## A second attempt -/

namespace SchedulerExample

/-- The reflection sends the node back after its first attempt. -/
def retried (iteration : Nat) (nodeId : String) : Visit :=
  if iteration = 1 then
    { visit nodeId with
      reflection := some { action := "retry_task", confidence := 3 / 10 } }
  else visit nodeId

/-- What a returned run books, as far as it can be decided. -/
structure Booked where
  debits : List Numeric
  costs : List ℚ
  chargeable : Bool
  deriving DecidableEq

/-- What a returned run books. -/
def booked? : Except Stopped (List (String × Json) × Run) → Option Booked
  | .ok (_, run) => some
    { debits := (WorkflowScheduler.debits (UUID.ofNat 1) run.db.walletEvents.rows).map
        WalletEvent.creditDelta
      costs := WorkflowScheduler.attemptCosts run.log
      chargeable := run.log.all (fun event =>
        WorkflowScheduler.booksAttempt (UUID.ofNat 1) event) }
  | .error _ => none

theorem booked?_eq_some {execution : Except Stopped (List (String × Json) × Run)} {booked : Booked}
    (h : booked? execution = some booked) :
    ∃ result run, execution = .ok (result, run) ∧
      (WorkflowScheduler.debits (UUID.ofNat 1) run.db.walletEvents.rows).map
        WalletEvent.creditDelta = booked.debits ∧
      WorkflowScheduler.attemptCosts run.log = booked.costs ∧
      run.log.all (fun event => WorkflowScheduler.booksAttempt (UUID.ofNat 1) event) =
        booked.chargeable := by
  cases execution with
  | error stopped => cases h
  | ok returned =>
    cases h
    exact ⟨returned.1, returned.2, rfl, rfl, rfl, rfl⟩

end SchedulerExample

namespace WorkflowScheduler

open SchedulerExample in
/-- One attempt at twelve credits is booked. -/
theorem bookedOnce_of_first :
    ∃ result run, execute (fun _ nodeId => visit nodeId) [root "t1" "research"] =
      .ok (result, run) ∧ attemptCosts run.log = [12] ∧
        BookedOnce (UUID.ofNat 1) SchedulerExample.db.walletEvents.rows run := by
  have hbooked : booked? (execute (fun _ nodeId => visit nodeId) [root "t1" "research"]) =
      some ⟨[-120000], [12], true⟩ := by decide +kernel
  obtain ⟨result, run, hrun, -, hcosts, hchargeable⟩ := booked?_eq_some hbooked
  refine ⟨result, run, hrun, hcosts, ?_⟩
  refine (bookedOnce_of_chargeable _ _ _ _ _ run (Or.inl ⟨result, hrun⟩) ?_).1
  intro event hevent
  exact of_decide_eq_true (List.all_eq_true.1 hchargeable event hevent)

open SchedulerExample in
/-- Two attempts at twelve credits each are booked in one DEBIT event. -/
theorem bookedOnce_fails :
    ¬∀ (env : Environment) (workflowId : UUID) (agents : String → Option Agent) (db : Db)
      (dag : DAG) (run : Run), Delivers (executeWorkflow env workflowId agents db dag) run →
        BookedOnce workflowId db.walletEvents.rows run := by
  intro h
  have hbooked : booked? (execute retried [root "t1" "research"]) =
      some ⟨[-120000], [12, 12], false⟩ := by decide +kernel
  obtain ⟨result, run, hrun, hdebits, hcosts, -⟩ := booked?_eq_some hbooked
  obtain ⟨booked, hrows, hmap⟩ := h _ _ _ _ _ run (Or.inl ⟨result, hrun⟩)
  have hlength := congrArg List.length hdebits
  rw [hrows, List.length_map, List.length_append] at hlength
  have hmapLength := congrArg List.length hmap
  rw [hcosts, List.length_map] at hmapLength
  simp [hmapLength, debits, SchedulerExample.db] at hlength

end WorkflowScheduler

end MassClaw
