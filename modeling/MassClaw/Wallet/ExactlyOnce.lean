import MassClaw.Wallet.History

/-!
# Retried wallet calls

A caller that does not know whether its call went through sends it again, with
the same idempotency key.  A key that has been booked is answered from the
ledger from then on, and events are not taken out of it.  So a history in which
calls are repeated, at whatever distance, books what the history of the first
deliveries books.
-/

namespace MassClaw

/-! ## Keys in the ledger -/

namespace Ledger

/-- The ledger has an event with the key. -/
def Answers (ledger : Ledger) (key : String) : Prop :=
  ∃ event ∈ ledger.rows, event.idempotencyKey = some key

/-- Events have been added to the ledger, and nothing else. -/
def Extends (before after : Ledger) : Prop :=
  ∃ booked, after.rows = before.rows ++ booked

variable {a b c : Ledger}

theorem Extends.refl (ledger : Ledger) : ledger.Extends ledger :=
  ⟨[], (List.append_nil _).symm⟩

theorem Extends.trans (hab : a.Extends b) (hbc : b.Extends c) : a.Extends c := by
  obtain ⟨booked, hb⟩ := hab
  obtain ⟨further, hc⟩ := hbc
  exact ⟨booked ++ further, by rw [hc, hb, List.append_assoc]⟩

theorem Extends.mem (h : a.Extends b) {event : WalletEvent} (hmem : event ∈ a.rows) :
    event ∈ b.rows := by
  obtain ⟨booked, hrows⟩ := h
  rw [hrows]
  exact List.mem_append_left _ hmem

theorem Extends.answers (h : a.Extends b) {key : String} (hanswers : a.Answers key) :
    b.Answers key := by
  obtain ⟨event, hmem, hkey⟩ := hanswers
  exact ⟨event, h.mem hmem, hkey⟩

/-- The check finds the only event of the key. -/
theorem idempotentHit_of_mem {ledger : Ledger} {key : String} {event : WalletEvent}
    (hne : key ≠ "") (hmem : event ∈ ledger.rows) (hkey : event.idempotencyKey = some key) :
    ledger.idempotentHit (some key) = some event := by
  unfold idempotentHit findByIdempotencyKey
  dsimp only
  rw [if_neg hne]
  cases hfind : ledger.rows.find? (fun event => event.idempotencyKey = some key) with
  | none => exact absurd (decide_eq_true hkey) (List.find?_eq_none.1 hfind event hmem)
  | some found =>
    have hfound : found.idempotencyKey = some key := by simpa using List.find?_some hfind
    rw [ledger.eq_of_unique (List.mem_of_find?_eq_some hfind) hmem hfound hkey]

/-- The events of a key that the ledger has an event of. -/
theorem filter_key_of_mem {ledger : Ledger} {key : String} {event : WalletEvent}
    (hmem : event ∈ ledger.rows) (hkey : event.idempotencyKey = some key) :
    ledger.rows.filter (fun row => row.idempotencyKey = some key) = [event] := by
  have hnodup : (ledger.rows.filter (fun row => row.idempotencyKey = some key)).Nodup :=
    (List.Nodup.of_map _ ledger.nodupIds).filter _
  have hall : ∀ row ∈ ledger.rows.filter (fun row => row.idempotencyKey = some key),
      row = event := by
    intro row hrow
    obtain ⟨hold, hsame⟩ := List.mem_filter.1 hrow
    exact ledger.eq_of_unique hold hmem (of_decide_eq_true hsame) hkey
  have hfound : event ∈ ledger.rows.filter (fun row => row.idempotencyKey = some key) :=
    List.mem_filter.2 ⟨hmem, decide_eq_true hkey⟩
  rw [List.eq_replicate_of_mem hall] at hnodup hfound ⊢
  rw [Nat.le_antisymm (List.nodup_replicate.1 hnodup)
    (Nat.one_le_iff_ne_zero.2 (List.mem_replicate.1 hfound).1)]
  rfl

end Ledger

/-! ## One call -/

namespace WalletCall

/-- The idempotency key of a call that has one.  An empty key counts as none. -/
def key? : WalletCall → Option String
  | reserveBudget _ _ _ _ idempotencyKey | charge _ _ _ _ _ idempotencyKey
  | releaseReservation _ _ _ idempotencyKey => idempotencyKey.filter (· ≠ "")
  | recordInternalCost .. | credit .. => none

/-- The call gets past the check of its amount, which comes before that of the
key. -/
def AmountOk : WalletCall → Prop
  | reserveBudget _ _ estimatedCost _ _ => 0 < estimatedCost
  | _ => True

instance (call : WalletCall) : Decidable call.AmountOk := by
  cases call <;> unfold AmountOk <;> infer_instance

variable {db db' : Db} {call : WalletCall} {event : WalletEvent} {key : String}

theorem perform_extends (h : call.perform db = .ok (event, db')) :
    db.walletEvents.Extends db'.walletEvents := by
  cases call with
  | reserveBudget workflowId agentId estimatedCost reason key =>
    rcases WalletService.reserveBudget_cases h with ⟨-, rfl⟩ | ⟨-, -, -, -, -, -, -, hrows, -⟩
    · exact .refl _
    · exact ⟨_, hrows⟩
  | charge workflowId agentId actualCost reservationEventId reason key =>
    rcases WalletService.charge_cases h with
      ⟨-, rfl⟩ | ⟨-, _, _, -, -, -, -, -, -, -, -, -, -, -, hrows, -⟩
    · exact .refl _
    · exact ⟨_, hrows⟩
  | releaseReservation workflowId reservationEventId reason key =>
    rcases WalletService.releaseReservation_cases h with
      ⟨-, rfl⟩ | ⟨-, _, -, -, -, -, -, -, -, hrows, -⟩
    · exact .refl _
    · exact ⟨_, hrows⟩
  | recordInternalCost workflowId amount reason agentId =>
    rcases WalletService.recordInternalCost_cases h with
      ⟨-, rfl⟩ | ⟨_, -, -, -, -, -, -, -, hrows, -⟩
    · exact .refl _
    · exact ⟨_, hrows⟩
  | credit workflowId amount reason =>
    obtain ⟨-, -, -, -, hrows, -⟩ := WalletService.credit_cases h
    exact ⟨_, hrows⟩

theorem run_extends (db : Db) (call : WalletCall) :
    db.walletEvents.Extends (call.run db).walletEvents := by
  unfold run
  split
  · rename_i hperform
    exact perform_extends hperform
  · exact .refl _

/-- A call with a key returns the event of that key. -/
theorem perform_keyed (hkey : call.key? = some key) (h : call.perform db = .ok (event, db')) :
    event ∈ db'.walletEvents.rows ∧ event.idempotencyKey = some key := by
  cases call with
  | reserveBudget workflowId agentId estimatedCost reason idempotencyKey =>
    have hgiven : idempotencyKey = some key := (Option.filter_eq_some_iff.1 hkey).1
    rcases WalletService.reserveBudget_cases h with
      ⟨hhit, rfl⟩ | ⟨-, -, -, -, -, -, hbooked, hrows, -⟩
    · obtain ⟨hmem, -, hsame⟩ := Ledger.idempotentHit_eq_some hhit
      exact ⟨hmem, hsame.trans hgiven⟩
    · exact ⟨by simp [hrows], hbooked.trans hgiven⟩
  | charge workflowId agentId actualCost reservationEventId reason idempotencyKey =>
    have hgiven : idempotencyKey = some key := (Option.filter_eq_some_iff.1 hkey).1
    rcases WalletService.charge_cases h with
      ⟨hhit, rfl⟩ | ⟨-, _, _, -, -, -, -, -, -, -, -, -, -, hbooked, hrows, -⟩
    · obtain ⟨hmem, -, hsame⟩ := Ledger.idempotentHit_eq_some hhit
      exact ⟨hmem, hsame.trans hgiven⟩
    · exact ⟨by simp [hrows], hbooked.trans hgiven⟩
  | releaseReservation workflowId reservationEventId reason idempotencyKey =>
    have hgiven : idempotencyKey = some key := (Option.filter_eq_some_iff.1 hkey).1
    rcases WalletService.releaseReservation_cases h with
      ⟨hhit, rfl⟩ | ⟨-, _, -, -, -, -, -, -, hbooked, hrows, -⟩
    · obtain ⟨hmem, -, hsame⟩ := Ledger.idempotentHit_eq_some hhit
      exact ⟨hmem, hsame.trans hgiven⟩
    · exact ⟨by simp [hrows], hbooked.trans hgiven⟩
  | recordInternalCost workflowId amount reason agentId => cases hkey
  | credit workflowId amount reason => cases hkey

/-- A call whose key is in the ledger returns the event of the key and changes
nothing, unless its amount is refused. -/
theorem perform_answered (hkey : call.key? = some key) (hmem : event ∈ db.walletEvents.rows)
    (hsame : event.idempotencyKey = some key) (hamount : call.AmountOk) :
    call.perform db = .ok (event, db) := by
  have hhit : ∀ {idempotencyKey : Option String}, idempotencyKey.filter (· ≠ "") = some key →
      db.walletEvents.idempotentHit idempotencyKey = some event := by
    intro idempotencyKey hfilter
    obtain ⟨rfl, hne⟩ := Option.filter_eq_some_iff.1 hfilter
    exact Ledger.idempotentHit_of_mem (by simpa using hne) hmem hsame
  cases call with
  | reserveBudget workflowId agentId estimatedCost reason idempotencyKey =>
    unfold perform WalletService.reserveBudget
    dsimp only
    rw [if_neg (not_le.2 hamount), hhit hkey]
  | charge workflowId agentId actualCost reservationEventId reason idempotencyKey =>
    unfold perform WalletService.charge
    dsimp only
    rw [hhit hkey]
  | releaseReservation workflowId reservationEventId reason idempotencyKey =>
    unfold perform WalletService.releaseReservation
    dsimp only
    rw [hhit hkey]
  | recordInternalCost workflowId amount reason agentId => cases hkey
  | credit workflowId amount reason => cases hkey

/-- A refused amount is a reservation's. -/
theorem perform_refused (hamount : ¬call.AmountOk) : call.perform db = .error .validation := by
  cases call with
  | reserveBudget workflowId agentId estimatedCost reason idempotencyKey =>
    exact if_pos (not_lt.1 hamount)
  | charge workflowId agentId actualCost reservationEventId reason idempotencyKey =>
    exact absurd trivial hamount
  | releaseReservation workflowId reservationEventId reason idempotencyKey =>
    exact absurd trivial hamount
  | recordInternalCost workflowId amount reason agentId => exact absurd trivial hamount
  | credit workflowId amount reason => exact absurd trivial hamount

/-- A call whose key is in the ledger changes nothing. -/
theorem run_answered (hkey : call.key? = some key) (hanswers : db.walletEvents.Answers key) :
    call.run db = db := by
  obtain ⟨event, hmem, hsame⟩ := hanswers
  unfold run
  by_cases hamount : call.AmountOk
  · rw [perform_answered hkey hmem hsame hamount]
  · rw [perform_refused hamount]

/-! ## Histories of deliveries -/

/-- The database after the calls. -/
def runAll (db : Db) (calls : List WalletCall) : Db := calls.foldl run db

theorem runAll_extends (db : Db) (calls : List WalletCall) :
    db.walletEvents.Extends (runAll db calls).walletEvents := by
  induction calls generalizing db with
  | nil => exact .refl _
  | cons call rest ih => exact (run_extends db call).trans (ih (call.run db))

/-- The key of a call that returned an event. -/
def bookedKey? (db : Db) (call : WalletCall) : Option String :=
  match call.perform db with
  | .ok _ => call.key?
  | .error _ => none

theorem answers_of_bookedKey (h : call.bookedKey? db = some key) :
    (call.run db).walletEvents.Answers key := by
  unfold bookedKey? at h
  unfold run
  split at h
  · rename_i result hperform
    obtain ⟨event, after⟩ := result
    rw [hperform]
    exact ⟨event, perform_keyed h hperform⟩
  · cases h

/-- The calls without those that repeat a key for which an earlier call has
returned an event.  A call that raised does not count. -/
def firstDeliveries (db : Db) (booked : List String) : List WalletCall → List WalletCall
  | [] => []
  | call :: rest =>
    if ∃ key ∈ booked, call.key? = some key then firstDeliveries db booked rest
    else
      call :: firstDeliveries (call.run db) ((call.bookedKey? db).toList ++ booked) rest

/-- Along a history the keys of the calls that returned stay in the ledger, so
that a repeated call finds its own. -/
theorem runAll_firstDeliveries {booked : List String}
    (h : ∀ key ∈ booked, db.walletEvents.Answers key) (calls : List WalletCall) :
    runAll db (firstDeliveries db booked calls) = runAll db calls := by
  induction calls generalizing db booked with
  | nil => rfl
  | cons call rest ih =>
    unfold firstDeliveries
    split
    · rename_i hrepeats
      obtain ⟨key, hmem, hkey⟩ := hrepeats
      rw [ih h]
      show runAll db rest = runAll (call.run db) rest
      rw [run_answered hkey (h key hmem)]
    · have hkept : ∀ key ∈ (call.bookedKey? db).toList ++ booked,
          (call.run db).walletEvents.Answers key := by
        intro key hmem
        rcases List.mem_append.1 hmem with hnew | hold
        · exact answers_of_bookedKey (Option.mem_toList.1 hnew)
        · exact (run_extends db call).answers (h key hold)
      exact ih hkept

/-- Whatever is called between the deliveries of a call that returned, a later
one returns the same event, and the ledger holds no other event of the key. -/
theorem perform_redelivered {retry : WalletCall} (hkey : call.key? = some key)
    (hreturned : call.perform db = .ok (event, db')) (hretry : retry.key? = some key)
    (hamount : retry.AmountOk) (between : List WalletCall) :
    retry.perform (runAll db' between) = .ok (event, runAll db' between) ∧
      (runAll db' between).walletEvents.rows.filter (fun row => row.idempotencyKey = some key)
        = [event] := by
  obtain ⟨hmem, hsame⟩ := perform_keyed hkey hreturned
  have hkept := (runAll_extends db' between).mem hmem
  exact ⟨perform_answered hretry hkept hsame hamount, Ledger.filter_key_of_mem hkept hsame⟩

/-- Over any history the deliveries after the first one that returned change
nothing: the database is that of the first deliveries, a later delivery returns
the event of the first one, and the ledger ends with that event alone under the
key. -/
theorem retries_book_once (db : Db) (calls : List WalletCall) :
    runAll db calls = runAll db (firstDeliveries db [] calls) ∧
    ∀ before call between retry after key event db',
      calls = before ++ call :: (between ++ retry :: after) →
      call.key? = some key → call.perform (runAll db before) = .ok (event, db') →
      retry.key? = some key → retry.AmountOk →
      retry.perform (runAll db' between) = .ok (event, runAll db' between) ∧
        (runAll db calls).walletEvents.rows.filter (fun row => row.idempotencyKey = some key)
          = [event] := by
  refine ⟨(runAll_firstDeliveries (fun _ hmem => absurd hmem List.not_mem_nil) calls).symm, ?_⟩
  intro before call between retry after key event db' hcalls hkey hreturned hretry hamount
  refine ⟨(perform_redelivered hkey hreturned hretry hamount between).1, ?_⟩
  have hrun : call.run (runAll db before) = db' := by
    unfold run
    rw [hreturned]
  have hend : runAll db calls = runAll db' (between ++ retry :: after) := by
    rw [hcalls, runAll, List.foldl_append, List.foldl_cons]
    show runAll (call.run (runAll db before)) _ = _
    rw [hrun]
  rw [hend]
  exact (perform_redelivered hkey hreturned hretry hamount (between ++ retry :: after)).2

/-- A reservation that is delivered three times, with a failed delivery before
and another reservation between. -/
def deliveries : List WalletCall :=
  [ .reserveBudget (UUID.ofNat 1) none 200 "Task t1" (some "t1:reserve"),
    .reserveBudget (UUID.ofNat 1) none 10 "Task t1" (some "t1:reserve"),
    .reserveBudget (UUID.ofNat 1) none 20 "Task t2" (some "t2:reserve"),
    .reserveBudget (UUID.ofNat 1) none 10 "Task t1" (some "t1:reserve"),
    .reserveBudget (UUID.ofNat 1) none 10 "Task t1, again" (some "t1:reserve") ]

/-- Two events are booked. -/
theorem retries_book_once_reserve :
    runAll WalletExample.start deliveries
        = runAll WalletExample.start (firstDeliveries WalletExample.start [] deliveries) ∧
      (firstDeliveries WalletExample.start [] deliveries).length = 3 ∧
      (runAll WalletExample.start deliveries).walletEvents.rows.length = 2 :=
  ⟨(retries_book_once WalletExample.start deliveries).1, by decide +kernel, by decide +kernel⟩

end WalletCall

end MassClaw
