import MassClaw.Lib.Transition
import MassClaw.Wallet.Interleaving

/-!
# The budget bound under concurrency

The invariant behind `bound_of_commitMeets`.  The committed ledger is balanced
and within the limit.  A session that has a reservation pending holds the
workflow row, and then no other session has anything pending; that is what
keeps the two sums it has read up to date until it commits.  A session without
the row only relies on facts that a growing ledger keeps.
-/

namespace MassClaw

namespace Interleaving

variable {workflowId : UUID} {limit : Numeric}

open WalletEvents

/-! ## The ledger -/

/-- A ledger of one workflow without credits, balanced and within the limit. -/
structure LedgerOk (workflowId : UUID) (limit : Numeric) (events : List WalletEvent) : Prop where
  balanced : Balanced events
  sameWorkflow : ∀ event ∈ events, event.workflowId = workflowId
  noCredit : sumDeltas events workflowId .credit = 0
  debits : sumDeltas events workflowId .debit ≤ 0
  within : sumAbsDeltas events workflowId .reserve - sumDeltas events workflowId .release
    - sumDeltas events workflowId .debit ≤ limit

theorem LedgerOk.computeBalance_eq {events : List WalletEvent}
    (h : LedgerOk workflowId limit events) :
    computeBalance events workflowId = -sumDeltas events workflowId .debit := by
  unfold computeBalance
  rw [h.noCredit, abs_of_nonpos h.debits, sub_zero]
  exact max_eq_right (neg_nonneg.2 h.debits)

/-- The invariant of the ledger gives the bound of the claim. -/
theorem LedgerOk.withinLimit {events : List WalletEvent} (h : LedgerOk workflowId limit events) :
    WithinLimit workflowId limit events := by
  unfold WithinLimit
  rw [h.computeBalance_eq, h.balanced.computeReserved_eq]
  have := h.within
  lia

/-- A RELEASE event for a reservation of the ledger. -/
def IsReleaseOf (workflowId : UUID) (events : List WalletEvent) (event : WalletEvent) : Prop :=
  event.workflowId = workflowId ∧ event.actionType = .release ∧
    ∃ reservation ∈ events, reservation.actionType = .reserve ∧
      event.reservationEventId = some reservation.walletEventId ∧
      event.creditDelta = |reservation.creditDelta|

/-- A DEBIT event for a cost. -/
def IsDebitOf (workflowId : UUID) (cost : ℚ) (event : WalletEvent) : Prop :=
  event.workflowId = workflowId ∧ event.actionType = .debit ∧
    event.creditDelta = numeric4 (-cost)

/-- What the inserts of a call guarantee about its booking.  It stays true
when the ledger grows. -/
def Formed (workflowId : UUID) (events : List WalletEvent) : Booking → Prop
  | .reserve event => event.workflowId = workflowId ∧ event.actionType = .reserve
  | .release event => IsReleaseOf workflowId events event
  | .charge actualCost release debit =>
    IsReleaseOf workflowId events release ∧ IsDebitOf workflowId actualCost debit
  | .internalCost amount debit => 0 < amount ∧ IsDebitOf workflowId amount debit

/-- What the check of `reserve_budget` guarantees as long as the row is held. -/
def Room (workflowId : UUID) (limit : Numeric) (events : List WalletEvent) : Booking → Prop
  | .reserve event =>
    event.walletEventId ∉ events.map WalletEvent.walletEventId ∧
      computeBalance events workflowId + computeReserved events workflowId +
        |event.creditDelta| ≤ limit
  | _ => True

theorem IsReleaseOf.mono {events more : List WalletEvent} {event : WalletEvent}
    (h : IsReleaseOf workflowId events event) (hsub : events ⊆ more) :
    IsReleaseOf workflowId more event := by
  obtain ⟨hworkflow, haction, reservation, hmem, hrest⟩ := h
  exact ⟨hworkflow, haction, reservation, hsub hmem, hrest⟩

theorem Formed.mono {events more : List WalletEvent} {booking : Booking}
    (h : Formed workflowId events booking) (hsub : events ⊆ more) :
    Formed workflowId more booking := by
  cases booking with
  | reserve event => exact h
  | release event => exact IsReleaseOf.mono h hsub
  | charge actualCost release debit => exact ⟨h.1.mono hsub, h.2⟩
  | internalCost amount debit => exact h

/-- The release of an open reservation gives its amount back. -/
private theorem LedgerOk.release {events : List WalletEvent} {event reservation : WalletEvent}
    (h : LedgerOk workflowId limit events) (hrelease : IsReleaseOf workflowId events event)
    (htarget : event.reservationEventId = some reservation.walletEventId)
    (hfound : findReservation events reservation.walletEventId = some reservation)
    (hopen : ¬IsReleased events reservation.walletEventId) :
    LedgerOk workflowId (limit - |reservation.creditDelta|) (events ++ [event]) := by
  obtain ⟨hworkflow, haction, booked, hbooked, hreserve, hbookedTarget, hdelta⟩ := hrelease
  obtain ⟨hmem, -, hkind⟩ := findReservation_eq_some hfound
  -- the reservation found at the insert is the one found at the commit
  have hsame : |booked.creditDelta| = |reservation.creditDelta| := by
    have hid : booked.walletEventId = reservation.walletEventId :=
      Option.some.inj (hbookedTarget.symm.trans htarget)
    have := h.balanced.sound.hold_unique (mem_holds_journal hbooked hreserve)
      (mem_holds_journal hmem hkind) hid
    exact congrArg (fun entry => entry.2.2) this
  have hnot : ∀ actionType, actionType ≠ .release → ¬(event.workflowId = workflowId ∧
      event.actionType = actionType) := by
    rintro actionType hne ⟨-, hact⟩
    exact hne (hact.symm.trans haction)
  refine ⟨?_, ?_, ?_, ?_, ?_⟩
  · exact h.balanced.release hfound hopen
      (hworkflow.trans (h.sameWorkflow reservation hmem).symm) haction (hdelta.trans hsame) htarget
  · intro other hother
    rcases List.mem_append.1 hother with hold | hnew
    · exact h.sameWorkflow other hold
    · exact List.mem_singleton.1 hnew ▸ hworkflow
  · rw [sumDeltas_concat, if_neg (hnot _ (by decide)), add_zero, h.noCredit]
  · rw [sumDeltas_concat, if_neg (hnot _ (by decide)), add_zero]
    exact h.debits
  · rw [sumAbsDeltas_concat, sumDeltas_concat, sumDeltas_concat, if_neg (hnot _ (by decide)),
      if_pos ⟨hworkflow, haction⟩, if_neg (hnot _ (by decide)), hdelta, hsame]
    have := h.within
    lia

/-- A cost within what is left can be booked. -/
private theorem LedgerOk.debit {events : List WalletEvent} {event : WalletEvent} {cost : ℚ}
    {left : Numeric} (h : LedgerOk workflowId (limit - left) events)
    (hdebit : IsDebitOf workflowId cost event) (hpos : 0 ≤ cost) (hle : cost ≤ toFloat left) :
    LedgerOk workflowId limit (events ++ [event]) := by
  obtain ⟨hworkflow, haction, hdelta⟩ := hdebit
  have hnonneg : 0 ≤ numeric4 cost := numeric4_nonneg hpos
  have hbound : numeric4 cost ≤ left := numeric4_le_of_le hpos hle
  rw [numeric4_neg] at hdelta
  have hnot : ∀ actionType, actionType ≠ .debit → ¬(event.workflowId = workflowId ∧
      event.actionType = actionType) := by
    rintro actionType hne ⟨-, hact⟩
    exact hne (hact.symm.trans haction)
  refine ⟨?_, ?_, ?_, ?_, ?_⟩
  · exact h.balanced.other (by rw [haction]; decide) (by rw [haction]; decide)
  · intro other hother
    rcases List.mem_append.1 hother with hold | hnew
    · exact h.sameWorkflow other hold
    · exact List.mem_singleton.1 hnew ▸ hworkflow
  · rw [sumDeltas_concat, if_neg (hnot _ (by decide)), add_zero, h.noCredit]
  · rw [sumDeltas_concat, if_pos ⟨hworkflow, haction⟩, hdelta]
    have := h.debits
    lia
  · rw [sumAbsDeltas_concat, sumDeltas_concat, sumDeltas_concat, if_neg (hnot _ (by decide)),
      if_neg (hnot _ (by decide)), if_pos ⟨hworkflow, haction⟩, hdelta]
    have := h.within
    lia

/-- Committing one booking keeps the ledger within the limit. -/
theorem LedgerOk.booking {events : List WalletEvent} {booking : Booking}
    (h : LedgerOk workflowId limit events) (hformed : Formed workflowId events booking)
    (hroom : Room workflowId limit events booking)
    (hmeets : CommitMeets workflowId limit events booking) :
    LedgerOk workflowId limit (events ++ booking.events) := by
  cases booking with
  | reserve event =>
    obtain ⟨hworkflow, haction⟩ := hformed
    obtain ⟨hfresh, hfits⟩ := hroom
    rw [h.computeBalance_eq, h.balanced.computeReserved_eq] at hfits
    have hnot : ∀ actionType, actionType ≠ .reserve → ¬(event.workflowId = workflowId ∧
        event.actionType = actionType) := by
      rintro actionType hne ⟨-, hact⟩
      exact hne (hact.symm.trans haction)
    refine ⟨h.balanced.reserve haction hfresh, ?_, ?_, ?_, ?_⟩
    · intro other hother
      rcases List.mem_append.1 hother with hold | hnew
      · exact h.sameWorkflow other hold
      · exact List.mem_singleton.1 hnew ▸ hworkflow
    · rw [Booking.events, sumDeltas_concat, if_neg (hnot _ (by decide)), add_zero, h.noCredit]
    · rw [Booking.events, sumDeltas_concat, if_neg (hnot _ (by decide)), add_zero]
      exact h.debits
    · rw [Booking.events, sumAbsDeltas_concat, sumDeltas_concat, sumDeltas_concat,
        if_pos ⟨hworkflow, haction⟩, if_neg (hnot _ (by decide)), if_neg (hnot _ (by decide))]
      lia
  | release event =>
    obtain ⟨reservation, htarget, hfound, hopen⟩ := hmeets
    have hreleased := h.release hformed htarget hfound hopen
    refine { hreleased with within := ?_ }
    have := hreleased.within
    have := abs_nonneg reservation.creditDelta
    exact hreleased.within.trans (by lia)
  | charge actualCost release debit =>
    obtain ⟨hpos, reservation, htarget, hfound, hopen, hcost⟩ := hmeets
    have hreleased := h.release hformed.1 htarget hfound hopen
    have hevents : events ++ (Booking.charge actualCost release debit).events =
        events ++ [release] ++ [debit] := by simp [Booking.events]
    rw [hevents]
    exact hreleased.debit hformed.2 hpos hcost
  | internalCost amount debit =>
    have hleft : toFloat limit - toFloat (computeBalance events workflowId) -
        toFloat (computeReserved events workflowId) =
        toFloat (limit - computeBalance events workflowId - computeReserved events workflowId) := by
      unfold toFloat
      push_cast
      ring
    rw [CommitMeets, hleft] at hmeets
    refine LedgerOk.debit ?_ hformed.2 hformed.1.le hmeets
    refine { h with within := ?_ }
    rw [h.computeBalance_eq, h.balanced.computeReserved_eq]
    lia

theorem bookedEvents_append (bookings more : List Booking) :
    bookedEvents (bookings ++ more) = bookedEvents bookings ++ bookedEvents more :=
  List.flatMap_append

@[simp] theorem bookedEvents_singleton (booking : Booking) :
    bookedEvents [booking] = booking.events := by
  simp [bookedEvents]

/-- Committing all bookings of a session, one after the other. -/
theorem LedgerOk.commit {events : List WalletEvent} {bookings : List Booking}
    (h : LedgerOk workflowId limit events)
    (hall : Prefixwise (fun before booking =>
      Formed workflowId (events ++ bookedEvents before) booking ∧
      Room workflowId limit (events ++ bookedEvents before) booking ∧
      CommitMeets workflowId limit (events ++ bookedEvents before) booking) bookings) :
    LedgerOk workflowId limit (events ++ bookedEvents bookings) := by
  induction bookings generalizing events with
  | nil => simpa [bookedEvents] using h
  | cons booking rest ih =>
    rw [Prefixwise.cons_iff] at hall
    obtain ⟨⟨hformed, hroom, hmeets⟩, hrest⟩ := hall
    simp only [bookedEvents, List.flatMap_nil, List.append_nil] at hformed hroom hmeets
    have hnext := ih (h.booking hformed hroom hmeets) (hrest.mono (by
      intro before next _ hnext
      simpa [bookedEvents, List.append_assoc] using hnext))
    simpa [bookedEvents, List.append_assoc] using hnext

/-! ## The sessions -/

/-- What a session knows at its program counter. -/
def PcOk (workflowId : UUID) (committed : List WalletEvent) (session : Session) : Prop :=
  let seen := committed ++ bookedEvents session.bookings
  match session.pc with
  | .idle => True
  | .reserving estimatedCost => 0 < estimatedCost
  | .rowLocked estimatedCost => 0 < estimatedCost ∧ session.holdsRow = true
  | .balanceRead estimatedCost budgetUsed =>
    0 < estimatedCost ∧ session.holdsRow = true ∧ budgetUsed = computeBalance seen workflowId
  | .reservedRead estimatedCost budgetUsed reserved =>
    0 < estimatedCost ∧ session.holdsRow = true ∧ budgetUsed = computeBalance seen workflowId ∧
      reserved = computeReserved seen workflowId
  | .releasing reservation => reservation ∈ seen ∧ reservation.actionType = .reserve
  | .charging reservation _ => reservation ∈ seen ∧ reservation.actionType = .reserve
  | .chargeReleased release _ => IsReleaseOf workflowId seen release
  | .recording amount _ => 0 < amount

/-- The invariant of one session over the committed ledger. -/
structure SessionOk (workflowId : UUID) (limit : Numeric) (committed : List WalletEvent)
    (nextId : RowId) (session : Session) : Prop where
  formed : Prefixwise (fun before booking =>
    Formed workflowId (committed ++ bookedEvents before) booking ∧
    Room workflowId limit (committed ++ bookedEvents before) booking) session.bookings
  locked : session.holdsRow = false → ∀ event, Booking.reserve event ∉ session.bookings
  pc : PcOk workflowId committed session
  ids : ∀ event ∈ session.pending, event.walletEventId < nextId

/-- The invariant of the system. -/
structure Inv (workflowId : UUID) (limit : Numeric) (s : System) : Prop where
  ledger : LedgerOk workflowId limit s.committed
  ids : ∀ event ∈ s.committed, event.walletEventId < s.nextId
  session : ∀ i, SessionOk workflowId limit s.committed s.nextId (s.sessions i)
  exclusive : ∀ i, (s.sessions i).holdsRow = true → s.RowFree i ∧ s.RowUnshared i

theorem SessionOk.empty {committed : List WalletEvent} {nextId : RowId} :
    SessionOk workflowId limit committed nextId {} where
  formed := Prefixwise.nil
  locked := by simp
  pc := trivial
  ids := by simp [Session.pending, bookedEvents]

theorem SessionOk.mono {committed : List WalletEvent} {nextId nextId' : RowId}
    {session : Session} (h : SessionOk workflowId limit committed nextId session)
    (hle : nextId ≤ nextId') : SessionOk workflowId limit committed nextId' session :=
  { h with ids := fun event hevent => Nat.lt_of_lt_of_le (h.ids event hevent) hle }

/-- A session without the row does not mind that others commit. -/
theorem SessionOk.grow {committed more : List WalletEvent} {nextId : RowId} {session : Session}
    (h : SessionOk workflowId limit committed nextId session) (hrow : session.holdsRow = false) :
    SessionOk workflowId limit (committed ++ more) nextId session := by
  have hsub : ∀ bookings, committed ++ bookedEvents bookings ⊆
      committed ++ more ++ bookedEvents bookings := by
    intro bookings event hevent
    simp only [List.mem_append] at hevent ⊢
    tauto
  refine { h with formed := ?_, pc := ?_ }
  · refine h.formed.mono (fun before booking hmem hboth => ⟨hboth.1.mono (hsub before), ?_⟩)
    cases booking with
    | reserve event => exact absurd hmem (h.locked hrow event)
    | _ => trivial
  · have hpc := h.pc
    unfold PcOk at hpc ⊢
    split at hpc
    · trivial
    · exact hpc
    · rw [hrow] at hpc; cases hpc.2
    · rw [hrow] at hpc; cases hpc.2.1
    · rw [hrow] at hpc; cases hpc.2.1
    · exact ⟨hsub _ hpc.1, hpc.2⟩
    · exact ⟨hsub _ hpc.1, hpc.2⟩
    · exact hpc.mono (hsub _)
    · exact hpc

/-! ## Steps of one session -/

/-- A step that commits nothing: session `i` moves on, the generated ids grow,
and exclusion is kept. -/
private theorem Inv.local {s : System} {i : Nat} {session : Session} {nextId : RowId}
    (h : Inv workflowId limit s) (hle : s.nextId ≤ nextId)
    (hsession : SessionOk workflowId limit s.committed nextId session)
    (hown : session.holdsRow = true → s.RowFree i ∧ s.RowUnshared i)
    (hother : ∀ j, j ≠ i → (s.sessions j).holdsRow = true →
      session.holdsRow = false ∧ session.pending = []) :
    Inv workflowId limit { s.set i session with nextId := nextId } := by
  have hself : ({ s.set i session with nextId := nextId } : System).sessions i = session := by
    simp [System.set]
  have hne : ∀ j, j ≠ i →
      ({ s.set i session with nextId := nextId } : System).sessions j = s.sessions j := by
    intro j hj
    simp [System.set, hj]
  refine ⟨h.ledger, fun event hevent => Nat.lt_of_lt_of_le (h.ids event hevent) hle, ?_, ?_⟩
  · intro j
    by_cases hj : j = i
    · subst hj; rw [hself]; exact hsession
    · rw [hne j hj]; exact (h.session j).mono hle
  · intro j hrow
    by_cases hj : j = i
    · subst hj
      rw [hself] at hrow
      obtain ⟨hfree, hunshared⟩ := hown hrow
      exact ⟨fun k hk => by rw [hne k hk]; exact hfree k hk,
        fun k hk => by rw [hne k hk]; exact hunshared k hk⟩
    · rw [hne j hj] at hrow
      obtain ⟨hfree, hunshared⟩ := h.exclusive j hrow
      obtain ⟨hnotHeld, hnoPending⟩ := hother j hj hrow
      refine ⟨fun k hk => ?_, fun k hk => ?_⟩
      · by_cases hki : k = i
        · subst hki; rw [hself]; exact hnotHeld
        · rw [hne k hki]; exact hfree k hk
      · by_cases hki : k = i
        · subst hki; rw [hself]; exact hnoPending
        · rw [hne k hki]; exact hunshared k hk

/-- A step that only moves the program counter. -/
private theorem Inv.read {s : System} {i : Nat} {pc : Pc} (h : Inv workflowId limit s)
    (hpending : ({ s.sessions i with pc } : Session).pending = (s.sessions i).pending)
    (hpc : PcOk workflowId s.committed { s.sessions i with pc }) :
    Inv workflowId limit (s.set i { s.sessions i with pc }) := by
  have hold := h.session i
  refine h.local (le_refl s.nextId) { hold with pc := hpc, ids := ?_ }
    (fun hrow => h.exclusive i hrow) ?_
  · intro event hevent
    rw [hpending] at hevent
    exact hold.ids event hevent
  · intro j hj hrow
    obtain ⟨hfree, hunshared⟩ := h.exclusive j hrow
    rw [hpending]
    exact ⟨hfree i (Ne.symm hj), hunshared i (Ne.symm hj)⟩

/-- A step that inserts events: nobody else holds the row. -/
private theorem Inv.write {s : System} {i : Nat} {session : Session}
    (h : Inv workflowId limit s) (hfree : s.RowFree i)
    (hrow : session.holdsRow = (s.sessions i).holdsRow)
    (hsession : SessionOk workflowId limit s.committed (s.nextId + 1) session) :
    Inv workflowId limit (s.insert i session) := by
  refine h.local (Nat.le_succ _) hsession (fun hheld => ?_) (fun j hj hheld => ?_)
  · exact h.exclusive i (hrow ▸ hheld)
  · rw [hfree j hj] at hheld
    cases hheld

/-- The rest of a session when a call ends with a new booking. -/
private theorem SessionOk.book {s : System} {i : Nat} {booking : Booking}
    (h : Inv workflowId limit s)
    (hformed : Formed workflowId (s.committed ++ bookedEvents (s.sessions i).bookings) booking)
    (hroom : Room workflowId limit (s.committed ++ bookedEvents (s.sessions i).bookings) booking)
    (hheld : (∃ event, booking = .reserve event) → (s.sessions i).holdsRow = true)
    (hids : ∀ event ∈ booking.events, event.walletEventId < s.nextId + 1) :
    SessionOk workflowId limit s.committed (s.nextId + 1)
      { s.sessions i with pc := .idle, bookings := (s.sessions i).bookings ++ [booking] } where
  formed := (h.session i).formed.concat ⟨hformed, hroom⟩
  locked := by
    intro hrow event hmem
    rcases List.mem_append.1 hmem with hold | hnew
    · exact (h.session i).locked hrow event hold
    · have := hheld ⟨event, (List.mem_singleton.1 hnew).symm⟩
      rw [show (s.sessions i).holdsRow = false from hrow] at this
      cases this
  pc := trivial
  ids := by
    intro event hevent
    simp only [Session.pending, bookedEvents_append, bookedEvents_singleton, List.append_nil,
      List.mem_append] at hevent
    rcases hevent with hold | hnew
    · refine Nat.lt_succ_of_lt ((h.session i).ids event ?_)
      exact List.mem_append_left _ hold
    · exact hids event hnew

/-- What a statement sees when the call has nothing half booked. -/
private theorem view_eq {s : System} {i : Nat}
    (hpc : ∀ release cost, (s.sessions i).pc ≠ .chargeReleased release cost) :
    s.view i = s.committed ++ bookedEvents (s.sessions i).bookings := by
  unfold System.view Session.pending
  split
  · rename_i release cost heq
    exact absurd heq (hpc release cost)
  · rw [List.append_nil]

private theorem pending_eq {session : Session}
    (hpc : ∀ release cost, session.pc ≠ .chargeReleased release cost) :
    session.pending = bookedEvents session.bookings := by
  unfold Session.pending
  split
  · rename_i release cost heq
    exact absurd heq (hpc release cost)
  · rw [List.append_nil]

/-- Every statement keeps the invariant, as long as commits meet the
condition. -/
theorem Inv.step {s t : System} (h : Inv workflowId limit s)
    (hstep : Step workflowId limit (CommitMeets workflowId limit) s t) :
    Inv workflowId limit t := by
  cases hstep with
  | startReserve i estimatedCost hpc hpos =>
    exact h.read (by simp [Session.pending, hpc]) hpos
  | lockRow i hpc hfree hunshared =>
    rename_i estimatedCost
    have hold := h.session i
    have hpos : 0 < estimatedCost := by simpa [PcOk, hpc] using hold.pc
    refine h.local (le_refl s.nextId)
      ⟨hold.formed, by simp, ⟨hpos, rfl⟩, ?_⟩ (fun _ => ⟨hfree, hunshared⟩) ?_
    · intro event hevent
      exact hold.ids event (by simpa [Session.pending, hpc] using hevent)
    · intro j hj hrow
      rw [hfree j hj] at hrow
      cases hrow
  | readBalance i hpc =>
    have hold := (h.session i).pc
    simp only [PcOk, hpc] at hold
    refine h.read (by simp [Session.pending, hpc]) ⟨hold.1, hold.2, ?_⟩
    rw [view_eq (by simp [hpc])]
  | readReserved i hpc =>
    have hold := (h.session i).pc
    simp only [PcOk, hpc] at hold
    refine h.read (by simp [Session.pending, hpc]) ⟨hold.1, hold.2.1, hold.2.2, ?_⟩
    rw [view_eq (by simp [hpc])]
  | bookReserve i hpc hfits event hnew hdelta =>
    rename_i estimatedCost budgetUsed reserved
    have hold := (h.session i).pc
    simp only [PcOk, hpc] at hold
    obtain ⟨hpos, hrow, rfl, rfl⟩ := hold
    obtain ⟨hid, hworkflow, haction⟩ := hnew
    refine h.write (h.exclusive i hrow).1 rfl (SessionOk.book h ⟨hworkflow, haction⟩ ⟨?_, ?_⟩
      (fun _ => hrow) ?_)
    · intro hmem
      obtain ⟨other, hother, heq⟩ := List.mem_map.1 hmem
      have hlt : other.walletEventId < s.nextId := by
        rcases List.mem_append.1 hother with hcommitted | hpending
        · exact h.ids other hcommitted
        · refine (h.session i).ids other ?_
          exact List.mem_append_left _ hpending
      lia
    · have hle : numeric4 estimatedCost ≤ limit -
          computeBalance (s.committed ++ bookedEvents (s.sessions i).bookings) workflowId -
          computeReserved (s.committed ++ bookedEvents (s.sessions i).bookings) workflowId := by
        refine numeric4_le_of_le hpos.le (hfits.trans (le_of_eq ?_))
        unfold toFloat
        push_cast
        ring
      have hnonneg := numeric4_nonneg hpos.le
      rw [hdelta, numeric4_neg, abs_neg, abs_of_nonneg hnonneg]
      lia
    · intro other hother
      obtain rfl := List.mem_singleton.1 hother
      lia
  | refuseReserve i hpc hexhausted =>
    exact h.read (by simp [Session.pending, hpc]) trivial
  | findRelease i eventId hpc hfound =>
    refine h.read (by simp [Session.pending, hpc]) ?_
    rw [view_eq (by simp [hpc])] at hfound
    obtain ⟨hmem, -, haction⟩ := findReservation_eq_some hfound
    exact ⟨hmem, haction⟩
  | bookRelease i hpc hfree event hnew hdelta htarget =>
    have hold := (h.session i).pc
    simp only [PcOk, hpc] at hold
    obtain ⟨hid, hworkflow, haction⟩ := hnew
    refine h.write hfree rfl (SessionOk.book h
      ⟨hworkflow, haction, _, hold.1, hold.2, htarget, hdelta⟩ trivial (by simp) ?_)
    intro other hother
    obtain rfl := List.mem_singleton.1 hother
    lia
  | findCharge i eventId actualCost hpc hfound =>
    refine h.read (by simp [Session.pending, hpc]) ?_
    rw [view_eq (by simp [hpc])] at hfound
    obtain ⟨hmem, -, haction⟩ := findReservation_eq_some hfound
    exact ⟨hmem, haction⟩
  | bookChargeRelease i hpc hfree release hnew hdelta htarget =>
    have hold := h.session i
    have hknown := hold.pc
    simp only [PcOk, hpc] at hknown
    obtain ⟨hid, hworkflow, haction⟩ := hnew
    refine h.write hfree rfl
      ⟨hold.formed, hold.locked, ⟨hworkflow, haction, _, hknown.1, hknown.2, htarget, hdelta⟩, ?_⟩
    intro other hother
    rcases List.mem_append.1 hother with hbooked | hnew
    · exact Nat.lt_succ_of_lt (hold.ids other (List.mem_append_left _ hbooked))
    · obtain rfl := List.mem_singleton.1 hnew
      lia
  | bookChargeDebit i hpc hfree debit hnew hdelta =>
    rename_i release actualCost
    have hold := h.session i
    have hrelease := hold.pc
    simp only [PcOk, hpc] at hrelease
    obtain ⟨hid, hworkflow, haction⟩ := hnew
    refine h.write hfree rfl (SessionOk.book h ⟨hrelease, hworkflow, haction, hdelta⟩ trivial
      (by simp) ?_)
    intro other hother
    simp only [Booking.events, List.mem_cons, List.not_mem_nil, or_false] at hother
    rcases hother with rfl | rfl
    · exact Nat.lt_succ_of_lt (hold.ids other (by simp [Session.pending, hpc]))
    · lia
  | readInternal i amount hpc hpos =>
    exact h.read (by simp [Session.pending, hpc]) hpos
  | bookInternal i hpc hfits hfree debit hnew hdelta =>
    have hold := (h.session i).pc
    simp only [PcOk, hpc] at hold
    obtain ⟨hid, hworkflow, haction⟩ := hnew
    refine h.write hfree rfl (SessionOk.book h ⟨hold, hworkflow, haction, hdelta⟩ trivial
      (by simp) ?_)
    intro other hother
    obtain rfl := List.mem_singleton.1 hother
    lia
  | refuseInternal i hpc hexhausted =>
    exact h.read (by simp [Session.pending, hpc]) trivial
  | commit i hpc hmeets =>
    have hold := h.session i
    have hpending : (s.sessions i).pending = bookedEvents (s.sessions i).bookings :=
      pending_eq (by simp [hpc])
    have hreset : Inv workflowId limit (s.set i {}) := by
      refine h.local (le_refl s.nextId) SessionOk.empty (by simp) (fun j hj hrow => ?_)
      simp [Session.pending, bookedEvents]
    refine ⟨h.ledger.commit ?_, ?_, ?_, hreset.exclusive⟩
    · intro before booking after hsplit
      obtain ⟨hformed, hroom⟩ := hold.formed before booking after hsplit
      exact ⟨hformed, hroom, hmeets before booking after hsplit⟩
    · intro event hevent
      rcases List.mem_append.1 hevent with hcommitted | hbooked
      · exact h.ids event hcommitted
      · exact hold.ids event (hpending ▸ hbooked)
    · intro j
      by_cases hj : j = i
      · subst hj
        simp only [System.set, Function.update_self]
        exact SessionOk.empty
      · simp only [System.set, Function.update_of_ne hj]
        have hother := h.session j
        cases hrow : (s.sessions j).holdsRow with
        | false => exact hother.grow hrow
        | true =>
          -- the holder of the row excludes pending events elsewhere
          have hnone := (h.exclusive j hrow).2 i (Ne.symm hj)
          rw [hpending] at hnone
          rw [hnone, List.append_nil]
          exact hother
  | rollback i =>
    refine h.local (le_refl s.nextId) SessionOk.empty (by simp) (fun j hj hrow => ?_)
    simp [Session.pending, bookedEvents]

/-- Only session 0 has an open transaction. -/
def working (committed : List WalletEvent) (nextId : RowId) (session : Session) : System where
  committed := committed
  nextId := nextId
  sessions := fun i => if i = 0 then session else {}

theorem working_set (committed : List WalletEvent) (nextId : RowId) (session next : Session) :
    (working committed nextId session).set 0 next = working committed nextId next := by
  unfold System.set working
  congr
  funext i
  by_cases hi : i = 0 <;> simp [hi]

theorem working_alone (committed : List WalletEvent) (nextId : RowId) (session : Session) :
    (working committed nextId session).RowFree 0 ∧
      (working committed nextId session).RowUnshared 0 := by
  refine ⟨fun j hj => ?_, fun j hj => ?_⟩
  · simp [working, hj]
  · simp [working, hj, Session.pending, bookedEvents]

section Calls

variable {Meets : List WalletEvent → Booking → Prop} {committed : List WalletEvent}
  {nextId : RowId} {event : WalletEvent}

/-- A reached state with one working session. -/
private abbrev Reached (workflowId : UUID) (limit : Numeric)
    (Meets : List WalletEvent → Booking → Prop) (committed : List WalletEvent) (nextId : RowId)
    (session : Session) : Prop :=
  Transition.Reachable (Initial limit) (Step workflowId limit Meets)
    (working committed nextId session)

/-- Session 0 takes a step. -/
private theorem Reached.step {session next : Session}
    (h : Reached workflowId limit Meets committed nextId session)
    (hstep : Step workflowId limit Meets (working committed nextId session)
      ((working committed nextId session).set 0 next)) :
    Reached workflowId limit Meets committed nextId next := by
  have hnext := h.next hstep
  rwa [working_set] at hnext

/-- Session 0 inserts an event. -/
private theorem Reached.insert {session next : Session}
    (h : Reached workflowId limit Meets committed nextId session)
    (hstep : Step workflowId limit Meets (working committed nextId session)
      ((working committed nextId session).insert 0 next)) :
    Reached workflowId limit Meets committed (nextId + 1) next := by
  have hnext := h.next hstep
  rwa [System.insert, working_set] at hnext

/-- Session 0 commits its one booking. -/
private theorem Reached.commit {booking : Booking} {row : Bool}
    (h : Reached workflowId limit Meets committed nextId
      { bookings := [booking], holdsRow := row })
    (hmeets : Meets committed booking) :
    Reached workflowId limit Meets (committed ++ booking.events) nextId {} := by
  have hbooked : bookedEvents [booking] = booking.events := by simp [bookedEvents]
  have hcommit := h.next (.commit 0 rfl (Prefixwise.nil.concat (by
    simpa [bookedEvents, working] using hmeets)))
  rw [working_set] at hcommit
  have hsessions : ((working committed nextId
      { bookings := [booking], holdsRow := row }).sessions 0).bookings = [booking] := rfl
  rw [hsessions, hbooked] at hcommit
  exact hcommit

/-- A call of `reserve_budget` that nobody interrupts, and its commit. -/
theorem reserveCall {estimatedCost : ℚ}
    (h : Transition.Reachable (Initial limit) (Step workflowId limit Meets)
      (working committed nextId {}))
    (hpos : 0 < estimatedCost)
    (hfits : estimatedCost ≤ toFloat limit - toFloat (computeBalance committed workflowId) -
      toFloat (computeReserved committed workflowId))
    (hid : event.walletEventId = nextId) (hworkflow : event.workflowId = workflowId)
    (haction : event.actionType = .reserve)
    (hdelta : event.creditDelta = numeric4 (-estimatedCost))
    (hmeets : Meets committed (.reserve event)) :
    Transition.Reachable (Initial limit) (Step workflowId limit Meets)
      (working (committed ++ [event]) (nextId + 1) {}) := by
  have hview : ∀ pc, (∀ release cost, pc ≠ .chargeReleased release cost) →
      (working committed nextId { pc, holdsRow := true }).view 0 = committed := by
    intro pc hpc
    rw [view_eq (s := working committed nextId { pc, holdsRow := true }) (i := 0) hpc]
    exact List.append_nil _
  have hstart : Reached workflowId limit Meets committed nextId
      { pc := .reserving estimatedCost } :=
    Reached.step h (.startReserve 0 estimatedCost rfl hpos)
  have hlocked : Reached workflowId limit Meets committed nextId
      { pc := .rowLocked estimatedCost, holdsRow := true } :=
    hstart.step (.lockRow 0 rfl (working_alone _ _ _).1 (working_alone _ _ _).2)
  have hbalance : Reached workflowId limit Meets committed nextId
      { pc := .balanceRead estimatedCost (computeBalance committed workflowId),
        holdsRow := true } := by
    have hread := hlocked.step (.readBalance 0 rfl)
    rwa [hview _ (by simp)] at hread
  have hreserved : Reached workflowId limit Meets committed nextId
      { pc := .reservedRead estimatedCost (computeBalance committed workflowId)
          (computeReserved committed workflowId),
        holdsRow := true } := by
    have hread := hbalance.step (.readReserved 0 rfl)
    rwa [hview _ (by simp)] at hread
  have hbooked : Reached workflowId limit Meets committed (nextId + 1)
      { bookings := [.reserve event], holdsRow := true } :=
    hreserved.insert (.bookReserve 0 rfl hfits event ⟨hid, hworkflow, haction⟩ hdelta)
  exact hbooked.commit hmeets

/-- A call of `record_internal_cost` that nobody interrupts, and its commit. -/
theorem internalCall {amount : ℚ}
    (h : Transition.Reachable (Initial limit) (Step workflowId limit Meets)
      (working committed nextId {}))
    (hpos : 0 < amount)
    (hfits : toFloat (computeBalance committed workflowId) + amount ≤ toFloat limit)
    (hid : event.walletEventId = nextId) (hworkflow : event.workflowId = workflowId)
    (haction : event.actionType = .debit)
    (hdelta : event.creditDelta = numeric4 (-amount))
    (hmeets : Meets committed (.internalCost amount event)) :
    Transition.Reachable (Initial limit) (Step workflowId limit Meets)
      (working (committed ++ [event]) (nextId + 1) {}) := by
  have hview : (working committed nextId {}).view 0 = committed := by
    rw [view_eq (s := working committed nextId {}) (i := 0) (by simp [working])]
    exact List.append_nil _
  have hread : Reached workflowId limit Meets committed nextId
      { pc := .recording amount (computeBalance committed workflowId) } := by
    have hstep := Reached.step h (.readInternal 0 amount rfl hpos)
    rwa [hview] at hstep
  have hbooked : Reached workflowId limit Meets committed (nextId + 1)
      { bookings := [.internalCost amount event] } :=
    hread.insert (.bookInternal 0 rfl hfits (working_alone _ _ _).1 event
      ⟨hid, hworkflow, haction⟩ hdelta)
  exact hbooked.commit hmeets

end Calls

namespace BoundExample

/-- A reservation of 80 credits. -/
def held : WalletEvent where
  walletEventId := 0
  workflowId := UUID.ofNat 1
  agentId := none
  actionType := .reserve
  creditDelta := -800000
  balanceAfter := 800000
  reason := "Task t1"

/-- An internal cost of 50 credits. -/
def spent : WalletEvent where
  walletEventId := 1
  workflowId := UUID.ofNat 1
  agentId := none
  actionType := .debit
  creditDelta := -500000
  balanceAfter := 500000
  reason := "direct response"

theorem initial : Initial 1000000 (working [] 0 {}) :=
  ⟨by decide, rfl, rfl, by simp [working]⟩

/-- The reservation of 80 of the 100 credits, committed. -/
theorem held_committed {Meets : List WalletEvent → Booking → Prop}
    (hmeets : Meets [] (.reserve held)) :
    Transition.Reachable (Initial 1000000) (Step (UUID.ofNat 1) 1000000 Meets)
      (working [held] 1 {}) := by
  have hfits : (80 : ℚ) ≤ toFloat 1000000 - toFloat (computeBalance [] (UUID.ofNat 1)) -
      toFloat (computeReserved [] (UUID.ofNat 1)) := by decide +kernel
  have hdelta : held.creditDelta = numeric4 (-80) := by decide +kernel
  have hcall := reserveCall (.start initial) (by norm_num) hfits rfl rfl rfl hdelta hmeets
  exact hcall

/-- The internal cost of 50 credits, committed after it. -/
theorem spent_committed {Meets : List WalletEvent → Booking → Prop}
    (hheld : Meets [] (.reserve held)) (hspent : Meets [held] (.internalCost 50 spent)) :
    Transition.Reachable (Initial 1000000) (Step (UUID.ofNat 1) 1000000 Meets)
      (working [held, spent] 2 {}) := by
  have hfits : toFloat (computeBalance [held] (UUID.ofNat 1)) + 50 ≤ toFloat 1000000 := by
    decide +kernel
  have hdelta : spent.creditDelta = numeric4 (-50) := by decide +kernel
  have hcall := internalCall (held_committed hheld) (by norm_num) hfits rfl rfl rfl hdelta hspent
  exact hcall

end BoundExample

end Interleaving

end MassClaw
