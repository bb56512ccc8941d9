import Mathlib.Algebra.Order.BigOperators.Group.List
import MassClaw.Lib.Escrow
import MassClaw.Lib.Transition
import MassClaw.Wallet.Service

/-!
# The ledger as an escrow journal

A RESERVE event holds its amount under its event id, a RELEASE event settles
the reservation that its metadata names.  `journal` reads a ledger that way,
and the sums of `_compute_reserved` are the totals of the journal.

A ledger is `Balanced` when its journal is sound: no reservation is released
twice, and each release repeats the workflow and the amount of its
reservation.  Then the reserved amount of a workflow is the sum of its open
reservations (`Balanced.reservedIsOpen`).
-/

namespace MassClaw

/-! ## What an insertion does -/

theorem Db.insertWalletEvent_ok {db db' : Db} {event row : WalletEvent}
    (h : db.insertWalletEvent event = .ok (row, db')) :
    row = { event with walletEventId := db.walletEvents.nextId } ∧
      db'.walletEvents.rows = db.walletEvents.rows ++ [row] ∧
      db' = { db with walletEvents := db'.walletEvents } := by
  unfold Db.insertWalletEvent at h
  split_ifs at h with hfk hfits
  split at h
  · cases h
  · rename_i row' ledger hinsert
    cases h
    obtain ⟨hrow, hrows, -, -⟩ := Table.insert?_eq_some hinsert
    exact ⟨hrow, hrows, rfl⟩

/-- An insertion succeeds when the foreign keys exist, the amounts fit, and the
key is free. -/
theorem Db.insertWalletEvent_eq_ok {db : Db} {event : WalletEvent}
    (hworkflow : db.hasWorkflow event.workflowId = true) (hagent : db.hasAgent event.agentId = true)
    (hdelta : numericFits event.creditDelta = true) (hbalance : numericFits event.balanceAfter = true)
    (hfree : ∀ key, event.idempotencyKey = some key →
      ∀ row ∈ db.walletEvents.rows, row.idempotencyKey ≠ some key) :
    ∃ result, db.insertWalletEvent event = .ok result := by
  have haccepts : db.walletEvents.Accepts event := by
    intro key hkey hused
    obtain ⟨row, hrow, hrowKey⟩ := List.mem_filterMap.1 hused
    exact hfree key hkey row hrow hrowKey
  unfold Db.insertWalletEvent
  rw [hworkflow, hagent, hdelta, hbalance]
  simp only [Bool.and_self, if_true, Table.insert?, dif_pos haccepts]
  exact ⟨_, rfl⟩

theorem WalletEvents.findReservation_eq_some {events : List WalletEvent} {eventId : RowId}
    {reservation : WalletEvent}
    (h : WalletEvents.findReservation events eventId = some reservation) :
    reservation ∈ events ∧ reservation.walletEventId = eventId ∧
      reservation.actionType = .reserve := by
  have := List.find?_some h
  simp only [decide_eq_true_eq] at this
  exact ⟨List.mem_of_find?_eq_some h, this⟩

/-- The id of a new event is not the id of a booked one. -/
theorem Ledger.fresh_id (ledger : Ledger) :
    ledger.nextId ∉ ledger.rows.map WalletEvent.walletEventId :=
  ledger.fresh

namespace WalletEvents

/-! ## The sums of an extended ledger -/

theorem sumDeltas_concat (events : List WalletEvent) (event : WalletEvent)
    (workflowId : UUID) (actionType : WalletActionType) :
    sumDeltas (events ++ [event]) workflowId actionType = sumDeltas events workflowId actionType +
      if event.workflowId = workflowId ∧ event.actionType = actionType then event.creditDelta
      else 0 := by
  unfold sumDeltas
  rw [List.filter_append, List.map_append, List.sum_append]
  by_cases h : event.workflowId = workflowId ∧ event.actionType = actionType <;> simp [h]

theorem sumAbsDeltas_concat (events : List WalletEvent) (event : WalletEvent)
    (workflowId : UUID) (actionType : WalletActionType) :
    sumAbsDeltas (events ++ [event]) workflowId actionType =
      sumAbsDeltas events workflowId actionType +
      if event.workflowId = workflowId ∧ event.actionType = actionType then |event.creditDelta|
      else 0 := by
  unfold sumAbsDeltas
  rw [List.filter_append, List.map_append, List.sum_append]
  by_cases h : event.workflowId = workflowId ∧ event.actionType = actionType <;> simp [h]

/-- A RESERVE or RELEASE event does not change the balance. -/
theorem computeBalance_concat (events : List WalletEvent) {event : WalletEvent}
    (hdebit : event.actionType ≠ .debit) (hcredit : event.actionType ≠ .credit)
    (workflowId : UUID) :
    computeBalance (events ++ [event]) workflowId = computeBalance events workflowId := by
  unfold computeBalance
  rw [sumDeltas_concat, sumDeltas_concat, if_neg (fun h => hdebit h.2),
    if_neg (fun h => hcredit h.2), add_zero, add_zero]

/-! ## The journal -/

/-- A wallet event as an entry of the escrow journal of all workflows. -/
def entry? (event : WalletEvent) : Option (Escrow.Entry RowId UUID Numeric) :=
  match event.actionType with
  | .reserve => some (.hold event.walletEventId event.workflowId |event.creditDelta|)
  | .release => event.reservationEventId.map (fun target =>
      .settle target event.workflowId event.creditDelta)
  | .debit => none
  | .credit => none

/-- The reservations and releases among the events. -/
def journal (events : List WalletEvent) : List (Escrow.Entry RowId UUID Numeric) :=
  events.filterMap entry?

@[simp] theorem journal_append (events more : List WalletEvent) :
    journal (events ++ more) = journal events ++ journal more := List.filterMap_append

/-- Every RELEASE event names the reservation it releases. -/
def ReleasesNameTarget (events : List WalletEvent) : Prop :=
  ∀ event ∈ events, event.actionType = .release → event.reservationEventId.isSome

/-- The holds of the journal are the RESERVE events. -/
theorem holds_journal (events : List WalletEvent) :
    Escrow.holds (journal events) = (events.filter (fun event => event.actionType = .reserve)).map
      (fun event => (event.walletEventId, event.workflowId, |event.creditDelta|)) := by
  induction events with
  | nil => rfl
  | cons event rest ih =>
    have hcons : journal (event :: rest) = journal [event] ++ journal rest :=
      journal_append [event] rest
    rw [hcons, Escrow.holds_append, ih, List.filter_cons]
    cases haction : event.actionType
    case release =>
      cases htarget : event.reservationEventId <;>
        simp [journal, entry?, haction, htarget, Escrow.holds, Escrow.Entry.asHold?]
    all_goals simp [journal, entry?, haction, Escrow.holds, Escrow.Entry.asHold?]

theorem mem_holds_journal {events : List WalletEvent} {reservation : WalletEvent}
    (hmem : reservation ∈ events) (haction : reservation.actionType = .reserve) :
    (reservation.walletEventId, reservation.workflowId, |reservation.creditDelta|) ∈
      Escrow.holds (journal events) := by
  rw [holds_journal]
  exact List.mem_map.2 ⟨reservation, List.mem_filter.2 ⟨hmem, by simpa using haction⟩, rfl⟩

/-- The settlements of the journal are the RELEASE events. -/
theorem settles_journal (events : List WalletEvent) :
    Escrow.settles (journal events) =
      events.filterMap (fun event =>
        if event.actionType = .release then
          event.reservationEventId.map (fun target => (target, event.workflowId, event.creditDelta))
        else none) := by
  induction events with
  | nil => rfl
  | cons event rest ih =>
    have hcons : journal (event :: rest) = journal [event] ++ journal rest :=
      journal_append [event] rest
    rw [hcons, Escrow.settles_append, ih, List.filterMap_cons]
    cases haction : event.actionType
    case release =>
      cases htarget : event.reservationEventId <;>
        simp [journal, entry?, haction, htarget, Escrow.settles, Escrow.Entry.asSettle?]
    all_goals simp [journal, entry?, haction, Escrow.settles, Escrow.Entry.asSettle?]

theorem mem_settles_journal {events : List WalletEvent} {entry : RowId × UUID × Numeric} :
    entry ∈ Escrow.settles (journal events) ↔
      ∃ event ∈ events, event.actionType = .release ∧
        event.reservationEventId = some entry.1 ∧ event.workflowId = entry.2.1 ∧
        event.creditDelta = entry.2.2 := by
  rw [settles_journal, List.mem_filterMap]
  refine exists_congr fun event => and_congr_right fun _ => ?_
  split
  · rename_i haction
    rw [Option.map_eq_some_iff]
    constructor
    · rintro ⟨target, htarget, rfl⟩
      exact ⟨haction, htarget, rfl, rfl⟩
    · rintro ⟨-, htarget, hworkflow, hdelta⟩
      exact ⟨entry.1, htarget, by rw [hworkflow, hdelta]⟩
  · rename_i haction
    simp [haction]

/-! ## Reservations of a workflow -/

/-- The RELEASE events that name a reservation. -/
def releasesOf (events : List WalletEvent) (reservationId : RowId) : List WalletEvent :=
  events.filter (fun event =>
    event.actionType = .release ∧ event.reservationEventId = some reservationId)

/-- A reservation has been charged or released: some RELEASE event names it. -/
def IsReleased (events : List WalletEvent) (reservationId : RowId) : Prop :=
  ∃ event ∈ events, event.actionType = .release ∧
    event.reservationEventId = some reservationId

instance (events : List WalletEvent) (reservationId : RowId) :
    Decidable (IsReleased events reservationId) := by
  unfold IsReleased; infer_instance

/-- The reservations of a workflow that have not been charged or released. -/
def openReservations (events : List WalletEvent) (workflowId : UUID) : List WalletEvent :=
  events.filter (fun event =>
    event.workflowId = workflowId ∧ event.actionType = .reserve ∧
      ¬IsReleased events event.walletEventId)

/-- Every RESERVE event is the target of at most one RELEASE event, which is
booked on the same workflow for the same amount. -/
def ReleasedOnce (events : List WalletEvent) : Prop :=
  ∀ reservation ∈ events, reservation.actionType = .reserve →
    (releasesOf events reservation.walletEventId).length ≤ 1 ∧
      ∀ release ∈ releasesOf events reservation.walletEventId,
        release.workflowId = reservation.workflowId ∧
          release.creditDelta = |reservation.creditDelta|

/-- `_compute_reserved` is the sum of the open reservations of the workflow. -/
def ReservedIsOpen (events : List WalletEvent) : Prop :=
  ∀ workflowId, computeReserved events workflowId =
    ((openReservations events workflowId).map (fun event => |event.creditDelta|)).sum

theorem isReleased_iff (events : List WalletEvent) (reservationId : RowId) :
    IsReleased events reservationId ↔ ¬Escrow.IsOpen (journal events) reservationId := by
  unfold IsReleased Escrow.IsOpen
  rw [not_not, List.mem_map]
  constructor
  · rintro ⟨event, hevent, haction, htarget⟩
    exact ⟨(reservationId, event.workflowId, event.creditDelta),
      mem_settles_journal.2 ⟨event, hevent, haction, htarget, rfl, rfl⟩, rfl⟩
  · rintro ⟨entry, hentry, rfl⟩
    obtain ⟨event, hevent, haction, htarget, -, -⟩ := mem_settles_journal.1 hentry
    exact ⟨event, hevent, haction, htarget⟩

/-- The number of releases of a reservation is its multiplicity among the
settlements. -/
theorem length_releasesOf (events : List WalletEvent) (reservationId : RowId) :
    (releasesOf events reservationId).length =
      ((Escrow.settles (journal events)).map Prod.fst).count reservationId := by
  unfold releasesOf
  rw [settles_journal]
  induction events with
  | nil => rfl
  | cons event rest ih =>
    rw [List.filter_cons, List.filterMap_cons]
    by_cases haction : event.actionType = .release
    · cases htarget : event.reservationEventId with
      | none => simpa [haction, htarget] using ih
      | some target =>
        by_cases hself : target = reservationId
        · simpa [haction, htarget, hself] using ih
        · simpa [haction, htarget, hself, List.count_cons] using ih
    · simpa [haction] using ih

/-! ## Balanced ledgers -/

/-- Events whose journal is sound and whose releases all name a target. -/
structure Balanced (events : List WalletEvent) : Prop where
  sound : Escrow.Sound (journal events)
  named : ReleasesNameTarget events

theorem Balanced.nil : Balanced [] := ⟨Escrow.Sound.nil, by simp [ReleasesNameTarget]⟩

section Append

variable {events : List WalletEvent} {event : WalletEvent}

private theorem named_append {more : List WalletEvent} (h : ReleasesNameTarget events)
    (hmore : ∀ event ∈ more, event.actionType = .release → event.reservationEventId.isSome) :
    ReleasesNameTarget (events ++ more) := by
  intro event hevent
  rcases List.mem_append.1 hevent with hold | hnew
  · exact h event hold
  · exact hmore event hnew

/-- A RESERVE event under a fresh id. -/
theorem Balanced.reserve (h : Balanced events) (haction : event.actionType = .reserve)
    (hid : event.walletEventId ∉ events.map WalletEvent.walletEventId) :
    Balanced (events ++ [event]) where
  sound := by
    have hentry : journal [event] =
        [.hold event.walletEventId event.workflowId |event.creditDelta|] := by
      simp [journal, entry?, haction]
    rw [journal_append, hentry]
    refine h.sound.hold ?_
    rw [holds_journal, List.map_map, List.mem_map]
    rintro ⟨other, hother, heq⟩
    exact hid (List.mem_map.2 ⟨other, List.mem_of_mem_filter hother, heq⟩)
  named := by
    refine named_append h.named (fun other hother hrelease => ?_)
    obtain rfl := List.mem_singleton.1 hother
    rw [haction] at hrelease
    cases hrelease

/-- A RELEASE event for an open reservation of the same workflow. -/
theorem Balanced.release (h : Balanced events) {reservation : WalletEvent}
    {reservationEventId : RowId}
    (hreservation : findReservation events reservationEventId = some reservation)
    (hopen : ¬IsReleased events reservationEventId)
    (hworkflow : event.workflowId = reservation.workflowId)
    (haction : event.actionType = .release)
    (hdelta : event.creditDelta = |reservation.creditDelta|)
    (htarget : event.reservationEventId = some reservationEventId) :
    Balanced (events ++ [event]) where
  sound := by
    obtain ⟨hmem, rfl, hreserve⟩ := findReservation_eq_some hreservation
    have hentry : journal [event] =
        [.settle reservation.walletEventId reservation.workflowId |reservation.creditDelta|] := by
      simp [journal, entry?, haction, htarget, hworkflow, hdelta]
    rw [journal_append, hentry]
    refine h.sound.settle (mem_holds_journal hmem hreserve) ?_
    rw [isReleased_iff, not_not] at hopen
    exact hopen
  named := by
    refine named_append h.named (fun other hother _ => ?_)
    obtain rfl := List.mem_singleton.1 hother
    rw [htarget]
    rfl

/-- An event that neither reserves nor releases. -/
theorem Balanced.other (h : Balanced events)
    (hreserve : event.actionType ≠ .reserve) (hrelease : event.actionType ≠ .release) :
    Balanced (events ++ [event]) where
  sound := by
    have hentry : journal [event] = [] := by
      cases haction : event.actionType
      case reserve => exact absurd haction hreserve
      case release => exact absurd haction hrelease
      all_goals simp [journal, entry?, haction]
    rw [journal_append, hentry, List.append_nil]
    exact h.sound
  named := by
    refine named_append h.named (fun other hother hkind => ?_)
    obtain rfl := List.mem_singleton.1 hother
    exact absurd hkind hrelease

end Append

theorem Balanced.releasedOnce {events : List WalletEvent} (h : Balanced events) :
    ReleasedOnce events := by
  intro reservation hmem haction
  refine ⟨?_, ?_⟩
  · rw [length_releasesOf]
    exact List.nodup_iff_count_le_one.1 h.sound.settlesOnce _
  · intro release hrelease
    rw [releasesOf, List.mem_filter, decide_eq_true_eq] at hrelease
    obtain ⟨hrow, hkind, htarget⟩ := hrelease
    have hsettled : (reservation.walletEventId, release.workflowId, release.creditDelta) ∈
        Escrow.settles (journal events) :=
      mem_settles_journal.2 ⟨release, hrow, hkind, htarget, rfl, rfl⟩
    have heq := h.sound.hold_unique (h.sound.matched _ hsettled)
      (mem_holds_journal hmem haction) rfl
    simpa using heq

private theorem total_holds (events : List WalletEvent) (workflowId : UUID) :
    Escrow.total (Escrow.holds (journal events)) workflowId =
      sumAbsDeltas events workflowId .reserve := by
  rw [holds_journal, Escrow.total, List.filter_map, List.map_map, List.filter_filter]
  simp [sumAbsDeltas, Function.comp_def]

private theorem total_settles {events : List WalletEvent} (h : ReleasesNameTarget events)
    (workflowId : UUID) :
    Escrow.total (Escrow.settles (journal events)) workflowId =
      sumDeltas events workflowId .release := by
  rw [settles_journal]
  unfold sumDeltas
  induction events with
  | nil => rfl
  | cons event rest ih =>
    have ih := ih (fun other hother => h other (List.mem_cons_of_mem _ hother))
    rw [List.filterMap_cons, List.filter_cons]
    by_cases haction : event.actionType = .release
    · obtain ⟨target, htarget⟩ := Option.isSome_iff_exists.1
        (h event List.mem_cons_self haction)
      by_cases hworkflow : event.workflowId = workflowId
      · simpa [haction, htarget, hworkflow, Escrow.total] using ih
      · simpa [haction, htarget, hworkflow, Escrow.total] using ih
    · simpa [haction] using ih

private theorem total_openHolds (events : List WalletEvent) (workflowId : UUID) :
    Escrow.total (Escrow.openHolds (journal events)) workflowId =
      ((openReservations events workflowId).map (fun event => |event.creditDelta|)).sum := by
  rw [Escrow.openHolds, holds_journal, Escrow.total, List.filter_map, List.filter_map,
    List.map_map, List.filter_filter, List.filter_filter]
  congr 2
  refine List.filter_congr (fun event _ => ?_)
  have := isReleased_iff events event.walletEventId
  rw [Escrow.IsOpen, not_not] at this
  rw [Bool.eq_iff_iff]
  simp only [Function.comp_apply, Bool.and_eq_true, decide_eq_true_eq, this]
  tauto

/-- What is reserved minus what is released is never negative in a balanced
ledger, so `_compute_reserved` does not cut it off. -/
theorem Balanced.computeReserved_eq {events : List WalletEvent} (h : Balanced events)
    (workflowId : UUID) :
    computeReserved events workflowId =
      sumAbsDeltas events workflowId .reserve - sumDeltas events workflowId .release := by
  unfold computeReserved
  refine max_eq_right ?_
  rw [← total_holds, ← total_settles h.named, h.sound.outstanding_eq, total_openHolds]
  refine List.sum_nonneg (fun amount hamount => ?_)
  obtain ⟨event, -, rfl⟩ := List.mem_map.1 hamount
  exact abs_nonneg _

theorem Balanced.reservedIsOpen {events : List WalletEvent} (h : Balanced events) :
    ReservedIsOpen events := by
  intro workflowId
  rw [h.computeReserved_eq, ← total_holds, ← total_settles h.named, h.sound.outstanding_eq,
    total_openHolds]

end WalletEvents

namespace Ledger

theorem findReservation_eq_some {ledger : Ledger} {eventId : RowId} {reservation : WalletEvent}
    (h : ledger.findReservation eventId = some reservation) :
    reservation ∈ ledger.rows ∧ reservation.walletEventId = eventId ∧
      reservation.actionType = .reserve :=
  WalletEvents.findReservation_eq_some h

/-- A reservation of the table has been charged or released. -/
def IsReleased (ledger : Ledger) (reservationId : RowId) : Prop :=
  WalletEvents.IsReleased ledger.rows reservationId

instance (ledger : Ledger) (reservationId : RowId) :
    Decidable (ledger.IsReleased reservationId) := by
  unfold IsReleased; infer_instance

end Ledger

end MassClaw
