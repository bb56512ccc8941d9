import Mathlib.Algebra.Order.Ring.Rat
import Mathlib.Tactic.Linarith
import MassClaw.Lib.Interleave
import MassClaw.Lib.Transition

/-!
# The circuit breaker, `app/core/circuit_breaker.py`

The state, the two counters and the time of the opening are separate keys in
Redis.  A call reads and writes them one after the other, and records its
outcome by the state that it has read at its start.  Other calls may run between
any two of its commands.  Redis answers every command, and the clock does not go
back.

The keys are joined by a history: the openings, the calls admitted in each
half-open period, and the openings that each admission comes after.
`respected_of_inOrder` says that a breaker whose commands are still in order
when they are executed keeps what it promises.
-/

namespace MassClaw

/-- `CircuitState`. -/
inductive CircuitState
  | closed | open_ | halfOpen
  deriving DecidableEq

/-- The arguments of a `CircuitBreaker`. -/
structure CircuitBreaker where
  failureThreshold : Nat := 5
  recoveryTimeout : ℚ := 60
  halfOpenMaxCalls : Nat := 3

namespace CircuitBreaker

/-- `int(self.recovery_timeout * 2)`. -/
def ttl (breaker : CircuitBreaker) : Int :=
  (2 * breaker.recoveryTimeout).num.tdiv (2 * breaker.recoveryTimeout).den

end CircuitBreaker

/-- A key that `INCR` counts in, and when it expires. -/
structure RedisCounter where
  value : Nat := 0
  expiresAt : Option ℚ := none

namespace RedisCounter

/-- The key at the time; one that has expired is gone. -/
def live (counter : RedisCounter) (now : ℚ) : RedisCounter :=
  match counter.expiresAt with
  | none => counter
  | some expiresAt => if expiresAt ≤ now then {} else counter

/-- `GET`. -/
def read (counter : RedisCounter) (now : ℚ) : Nat := (counter.live now).value

/-- `INCR`. -/
def incr (counter : RedisCounter) (now : ℚ) : RedisCounter :=
  { counter.live now with value := counter.read now + 1 }

/-- `EXPIRE`, which does nothing to a key that is not there. -/
def expire (counter : RedisCounter) (now : ℚ) (ttl : Int) : RedisCounter :=
  if counter.read now = 0 then counter.live now
  else { counter.live now with expiresAt := some (now + ttl) }

end RedisCounter

/-- An admission: its time, and the openings before it. -/
structure Admission where
  time : ℚ
  openings : List ℚ
  deriving DecidableEq

/-- The clock, the keys of the breaker, and its history: the times at which the
state became open, the numbers of calls admitted in the half-open periods, the
latest first, and the admissions. -/
structure BreakerStore where
  now : ℚ
  state : Option CircuitState := none
  failures : RedisCounter := {}
  openedAt : Option ℚ := none
  halfOpenCalls : RedisCounter := {}
  openings : List ℚ := []
  periods : List Nat := []
  admissions : List Admission := []

namespace BreakerStore

/-- `_get_state`. -/
def current (store : BreakerStore) : CircuitState := store.state.getD .closed

/-- `_set_state`.  The state opens, and a half-open period begins, when it was
another one. -/
def setState (store : BreakerStore) (state : CircuitState) : BreakerStore :=
  { store with
    state := some state
    openings :=
      if state = .open_ ∧ store.current ≠ .open_ then store.now :: store.openings
      else store.openings
    periods :=
      if state = .halfOpen ∧ store.current ≠ .halfOpen then 0 :: store.periods
      else store.periods }

/-- A call is admitted: in the half-open period, if there is one. -/
def letIn (store : BreakerStore) : BreakerStore :=
  { store with
    admissions := ⟨store.now, store.openings⟩ :: store.admissions
    periods :=
      match store.current, store.periods with
      | .halfOpen, admitted :: earlier => (admitted + 1) :: earlier
      | _, periods => periods }

/-- `_reset_half_open_calls`. -/
def resetHalfOpenCalls (store : BreakerStore) : BreakerStore := { store with halfOpenCalls := {} }

end BreakerStore

/-- What a call does next, with the local variables that it still needs.  The
first part is `call`, then come `_record_success` and `_record_failure`. -/
inductive CallStage
  | reading
  | timing
  | judging (openedAt : ℚ)
  | entering (openedAt : ℚ)
  | resetting
  | counting
  | incrementing
  | expiring
  | admitting (state : CircuitState)
  | running (state : CircuitState)
  | closing
  | forgiving (state : CircuitState)
  | clearing
  | failing
  | aging (failures : Nat)
  | opening
  | stamping
  | storing (openedAt : ℚ)
  | rejected
  | returned
  | raised
  deriving DecidableEq

namespace CallStage

/-- What a call does when its function ends. -/
def record (state : CircuitState) (succeeds : Bool) : CallStage :=
  match state, succeeds with
  | .halfOpen, true => closing
  | .closed, true => forgiving .closed
  | .open_, true => returned
  | .halfOpen, false => opening
  | .closed, false => failing
  | .open_, false => raised

/-- One command of a call, or one reading of the clock.  `succeeds` says how the
function ends. -/
def advance (breaker : CircuitBreaker) (store : BreakerStore) (stage : CallStage)
    (succeeds : Bool) : BreakerStore × CallStage :=
  match stage with
  | reading =>
    match store.current with
    | .closed => (store, admitting .closed)
    | .open_ => (store, timing)
    | .halfOpen => (store, counting)
  | timing => (store, judging (store.openedAt.getD 0))
  | judging openedAt =>
    if store.now - openedAt ≥ breaker.recoveryTimeout then (store, entering openedAt)
    else (store, rejected)
  | entering _ => (store.setState .halfOpen, resetting)
  | resetting => (store.resetHalfOpenCalls, counting)
  | counting =>
    if store.halfOpenCalls.read store.now ≥ breaker.halfOpenMaxCalls then (store, rejected)
    else (store, incrementing)
  | incrementing =>
    ({ store with halfOpenCalls := store.halfOpenCalls.incr store.now }, expiring)
  | expiring =>
    ({ store with halfOpenCalls := store.halfOpenCalls.expire store.now breaker.ttl },
      admitting .halfOpen)
  | admitting state => (store.letIn, running state)
  | running state => (store, record state succeeds)
  | closing => (store.setState .closed, forgiving .halfOpen)
  | forgiving state =>
    ({ store with failures := {} }, if state = .halfOpen then clearing else returned)
  | clearing => (store.resetHalfOpenCalls, returned)
  | failing =>
    let failures := store.failures.incr store.now
    ({ store with failures }, aging failures.value)
  | aging failures =>
    ({ store with failures := store.failures.expire store.now breaker.ttl },
      if failures ≥ breaker.failureThreshold then opening else raised)
  | opening => (store.setState .open_, stamping)
  | stamping => (store, storing store.now)
  | storing openedAt => ({ store with openedAt := some openedAt }, raised)
  | rejected => (store, rejected)
  | returned => (store, returned)
  | raised => (store, raised)

end CallStage

/-- The store and the calls. -/
abbrev Breaker := Interleave.Config BreakerStore CallStage

/-- Something that happens: a call begins, the clock shows a later time, a call
goes on. -/
inductive BreakerEvent
  | call
  | clock (time : ℚ)
  | resume (index : Nat) (succeeds : Bool)

namespace BreakerEvent

/-- The breaker after the event. -/
def run (breaker : CircuitBreaker) (config : Breaker) : BreakerEvent → Breaker
  | call => config.spawn .reading
  | clock time => config.update (fun store => { store with now := max store.now time })
  | resume index succeeds => config.advance (CallStage.advance breaker) index succeeds

end BreakerEvent

/-- A breaker that has not been used. -/
def Breaker.unused (now : ℚ) : Breaker := { shared := { now }, processes := [] }

/-! ## What should hold, and when -/

/-- No call is admitted before the timeout has passed since each opening, and no
half-open period admits too many. -/
structure Respected (breaker : CircuitBreaker) (config : Breaker) : Prop where
  recovered : ∀ admission ∈ config.shared.admissions, ∀ opening ∈ admission.openings,
    opening + breaker.recoveryTimeout ≤ admission.time
  limited : ∀ admitted ∈ config.shared.periods, admitted ≤ breaker.halfOpenMaxCalls

/-- The call stands between its count and its admission. -/
def CallStage.counted : CallStage → Nat
  | .expiring => 1
  | .admitting .halfOpen => 1
  | _ => 0

/-- The calls that have been admitted in the half-open period or are about to be. -/
def Breaker.counted (config : Breaker) : Nat :=
  config.shared.periods.headD 0 + config.total CallStage.counted

/-- What the call has read still holds, as far as its next command depends on it. -/
def CallStage.InOrder (breaker : CircuitBreaker) (config : Breaker) : CallStage → Prop
  | .admitting state =>
    config.shared.current ≠ .open_ ∧ (state = .halfOpen ∨ config.shared.current = .closed)
  | .entering openedAt =>
    (∀ opening ∈ config.shared.openings, opening ≤ openedAt) ∧
      (config.shared.current = .halfOpen ∨ config.total CallStage.counted = 0)
  | .resetting => config.shared.current = .halfOpen → config.counted = 0
  | .clearing => config.shared.current = .halfOpen → config.counted = 0
  | .incrementing =>
    config.shared.halfOpenCalls.read config.shared.now < breaker.halfOpenMaxCalls
  | .expiring => config.shared.current = .halfOpen → 0 < breaker.ttl
  | .closing => config.shared.current ≠ .open_
  | _ => True

/-- The command is in order, or the clock leaves the counter of a half-open period
that has admitted calls alone. -/
def InOrder (breaker : CircuitBreaker) (step : Breaker × BreakerEvent) : Prop :=
  match step.2 with
  | .call => True
  | .clock time => step.1.shared.current = .halfOpen → 0 < step.1.counted →
      ∀ expiresAt, step.1.shared.halfOpenCalls.expiresAt = some expiresAt →
        max step.1.shared.now time < expiresAt
  | .resume index _ =>
    ∀ stage, step.1.processes[index]? = some stage → stage.InOrder breaker step.1

/-! ## Counters -/

namespace RedisCounter

variable {counter : RedisCounter} {now : ℚ}

@[simp] theorem read_empty : ({} : RedisCounter).read now = 0 := rfl

theorem live_cases (counter : RedisCounter) (now : ℚ) :
    counter.live now = counter ∧
      (∀ expiresAt, counter.expiresAt = some expiresAt → now < expiresAt) ∨
    counter.live now = {} ∧ ∃ expiresAt, counter.expiresAt = some expiresAt ∧ expiresAt ≤ now := by
  unfold live
  cases hexpires : counter.expiresAt with
  | none => exact Or.inl ⟨rfl, nofun⟩
  | some expiresAt =>
    by_cases hle : expiresAt ≤ now
    · exact Or.inr ⟨if_pos hle, expiresAt, rfl, hle⟩
    · left
      refine ⟨if_neg hle, ?_⟩
      intro other hother
      cases hother
      exact lt_of_not_ge hle

theorem read_of_lt (h : ∀ expiresAt, counter.expiresAt = some expiresAt → now < expiresAt) :
    counter.read now = counter.value := by
  rcases live_cases counter now with ⟨hlive, -⟩ | ⟨-, expiresAt, hsome, hle⟩
  · rw [read, hlive]
  · exact absurd (h expiresAt hsome) (not_lt_of_ge hle)

/-- Time only takes the key away. -/
theorem read_anti {later : ℚ} (h : now ≤ later) : counter.read later ≤ counter.read now := by
  rcases live_cases counter later with ⟨-, hlt⟩ | ⟨hlive, -⟩
  · rw [read_of_lt hlt, read_of_lt (fun expiresAt hsome => h.trans_lt (hlt expiresAt hsome))]
  · rw [read, hlive]
    exact Nat.zero_le _

theorem read_incr : (counter.incr now).read now = counter.read now + 1 := by
  apply read_of_lt
  intro expiresAt hsome
  rcases live_cases counter now with ⟨hlive, hlt⟩ | ⟨hlive, -⟩
  · rw [incr, hlive] at hsome
    exact hlt expiresAt hsome
  · rw [incr, hlive] at hsome
    cases hsome

theorem read_le_value : counter.read now ≤ counter.value := by
  rcases live_cases counter now with ⟨hlive, -⟩ | ⟨hlive, -⟩
  · rw [read, hlive]
  · rw [read, hlive]
    exact Nat.zero_le _

theorem value_expire (ttl : Int) : (counter.expire now ttl).value = counter.read now := by
  unfold expire
  by_cases hzero : counter.read now = 0
  · rw [if_pos hzero]
    rfl
  · rw [if_neg hzero]
    rfl

theorem read_expire_le (counter : RedisCounter) (now : ℚ) (ttl : Int) : (counter.expire now ttl).read now ≤ counter.read now :=
  read_le_value.trans (value_expire ttl).le

theorem read_expire {ttl : Int} (h : 0 < ttl) :
    (counter.expire now ttl).read now = counter.read now := by
  by_cases hzero : counter.read now = 0
  · have hle := read_expire_le counter now ttl
    omega
  · refine (read_of_lt ?_).trans (value_expire ttl)
    intro expiresAt hsome
    rw [expire, if_neg hzero] at hsome
    cases hsome
    have hpositive : (0 : ℚ) < ttl := by exact_mod_cast h
    linarith

end RedisCounter

/-! ## The store under one command -/

namespace BreakerStore

@[simp] theorem current_setState (store : BreakerStore) (state : CircuitState) :
    (store.setState state).current = state := rfl

theorem openings_setState {store : BreakerStore} {state : CircuitState} (h : state ≠ .open_) :
    (store.setState state).openings = store.openings :=
  if_neg (fun hopen => h hopen.1)

theorem periods_setState {store : BreakerStore} {state : CircuitState}
    (h : state ≠ .halfOpen ∨ store.current = .halfOpen) :
    (store.setState state).periods = store.periods := by
  apply if_neg
  intro hbegins
  rcases h with hother | hsame
  · exact hother hbegins.1
  · exact hbegins.2 hsame

/-- Outside a half-open period an admission belongs to none. -/
theorem periods_letIn {store : BreakerStore} (h : store.current ≠ .halfOpen) :
    store.letIn.periods = store.periods := by
  unfold letIn
  cases hcurrent : store.current with
  | halfOpen => exact absurd hcurrent h
  | closed => rfl
  | open_ => rfl

/-- The latest period has one admission more, and the others have as many as before. -/
theorem periods_letIn_le (store : BreakerStore) :
    store.letIn.periods.headD 0 ≤ store.periods.headD 0 + 1 ∧
      ∀ admitted ∈ store.letIn.periods,
        admitted ∈ store.periods ∨ admitted = store.periods.headD 0 + 1 := by
  unfold letIn
  cases store.current with
  | closed => exact ⟨Nat.le_succ _, fun _ h => Or.inl h⟩
  | open_ => exact ⟨Nat.le_succ _, fun _ h => Or.inl h⟩
  | halfOpen =>
    cases store.periods with
    | nil => exact ⟨Nat.zero_le _, fun _ h => Or.inl h⟩
    | cons first earlier =>
      refine ⟨Nat.le_refl _, ?_⟩
      intro admitted h
      rcases List.mem_cons.1 h with heq | hearlier
      · exact Or.inr heq
      · exact Or.inl (List.mem_cons_of_mem _ hearlier)

end BreakerStore

/-! ## The invariant -/

/-- Unless the state is open, the timeout has passed since each opening, and in a
half-open period the counter covers the calls that it has let through. -/
structure BreakerInv (breaker : CircuitBreaker) (config : Breaker) : Prop where
  recovered : config.shared.current ≠ .open_ → ∀ opening ∈ config.shared.openings,
    opening + breaker.recoveryTimeout ≤ config.shared.now
  entering : ∀ openedAt, .entering openedAt ∈ config.processes →
    openedAt + breaker.recoveryTimeout ≤ config.shared.now
  covered : config.shared.current = .halfOpen →
    config.counted ≤ config.shared.halfOpenCalls.read config.shared.now
  bounded : config.shared.halfOpenCalls.read config.shared.now ≤ breaker.halfOpenMaxCalls
  respected : Respected breaker config

namespace BreakerInv

variable {breaker : CircuitBreaker} {config : Breaker}

theorem unused (breaker : CircuitBreaker) (now : ℚ) : BreakerInv breaker (.unused now) where
  recovered := by
    intro _ opening hopening
    cases hopening
  entering := by
    intro openedAt hentering
    cases hentering
  covered := by
    intro hhalf
    cases hhalf
  bounded := Nat.zero_le _
  respected := by
    constructor
    · intro admission hadmission
      cases hadmission
    · intro admitted hadmitted
      cases hadmitted

/-- What a command has to show: that its store and its call fit the invariant. -/
theorem advance (h : BreakerInv breaker config) {index : Nat} {stage next : CallStage}
    (hstage : config.processes[index]? = some stage) {succeeds : Bool} {store : BreakerStore}
    (hrun : stage.advance breaker config.shared succeeds = (store, next))
    (hnow : store.now = config.shared.now)
    (hrecovered : store.current ≠ .open_ → ∀ opening ∈ store.openings,
      opening + breaker.recoveryTimeout ≤ config.shared.now)
    (hentering : ∀ openedAt, next = .entering openedAt →
      openedAt + breaker.recoveryTimeout ≤ config.shared.now)
    (hcovered : store.current = .halfOpen → ∀ total,
      total + stage.counted = config.total CallStage.counted + next.counted →
        store.periods.headD 0 + total ≤ store.halfOpenCalls.read config.shared.now)
    (hbounded : store.halfOpenCalls.read config.shared.now ≤ breaker.halfOpenMaxCalls)
    (hadmissions : ∀ admission ∈ store.admissions, ∀ opening ∈ admission.openings,
      opening + breaker.recoveryTimeout ≤ admission.time)
    (hperiods : ∀ admitted ∈ store.periods, admitted ≤ breaker.halfOpenMaxCalls) :
    BreakerInv breaker (config.advance (CallStage.advance breaker) index succeeds) := by
  have hshared : (config.advance (CallStage.advance breaker) index succeeds).shared = store := by
    rw [Interleave.Config.shared_advance hstage, hrun]
  have htotal : (config.advance (CallStage.advance breaker) index succeeds).total
      CallStage.counted + stage.counted = config.total CallStage.counted + next.counted := by
    rw [Interleave.Config.total_advance CallStage.counted hstage, hrun]
  have hprocesses : (config.advance (CallStage.advance breaker) index succeeds).processes =
      config.processes.set index next := by
    rw [Interleave.Config.advance, hstage]
    dsimp only
    rw [hrun]
  refine ⟨?_, ?_, ?_, ?_, ?_⟩
  · rw [hshared, hnow]
    exact hrecovered
  · intro openedAt hmem
    rw [hprocesses] at hmem
    rw [hshared, hnow]
    rcases List.mem_or_eq_of_mem_set hmem with hold | hnew
    · exact h.entering openedAt hold
    · exact hentering openedAt hnew.symm
  · rw [Breaker.counted, hshared, hnow]
    exact fun hhalf => hcovered hhalf _ htotal
  · rw [hshared, hnow]
    exact hbounded
  · constructor
    · rw [hshared]
      exact hadmissions
    · rw [hshared]
      exact hperiods

/-- A command that writes none of the keys and none of the history that the
invariant is about. -/
theorem advance_aside (h : BreakerInv breaker config) {index : Nat} {stage next : CallStage}
    (hstage : config.processes[index]? = some stage) {succeeds : Bool}
    {failures : RedisCounter} {openedAt : Option ℚ}
    (hrun : stage.advance breaker config.shared succeeds =
      ({ config.shared with failures := failures, openedAt := openedAt }, next))
    (hcounted : stage.counted = next.counted)
    (hentering : ∀ openedAt, next = .entering openedAt →
      openedAt + breaker.recoveryTimeout ≤ config.shared.now) :
    BreakerInv breaker (config.advance (CallStage.advance breaker) index succeeds) := by
  refine h.advance hstage hrun rfl h.recovered hentering ?_ h.bounded h.respected.recovered
    h.respected.limited
  intro hhalf total htotal
  have hcovered := h.covered hhalf
  rw [Breaker.counted] at hcovered
  have hsame : total = config.total CallStage.counted := by omega
  rw [hsame]
  exact hcovered

/-- Another call is admitted. -/
theorem admitting (h : BreakerInv breaker config) {index : Nat} {state : CircuitState}
    (hstage : config.processes[index]? = some (.admitting state))
    (horder : (CallStage.admitting state).InOrder breaker config) (succeeds : Bool) :
    BreakerInv breaker (config.advance (CallStage.advance breaker) index succeeds) := by
  obtain ⟨hnotOpen, hread⟩ := horder
  have hrecovered := h.recovered hnotOpen
  obtain ⟨hhead, hmem⟩ := config.shared.periods_letIn_le
  -- in a half-open period the call has been counted
  have hcounted : config.shared.current = .halfOpen → ∀ total,
      total + (CallStage.admitting state).counted = config.total CallStage.counted →
        config.shared.periods.headD 0 + 1 + total ≤
          config.shared.halfOpenCalls.read config.shared.now := by
    intro hhalf total htotal
    have hstate : state = .halfOpen := by
      rcases hread with hstate | hclosed
      · exact hstate
      · rw [hhalf] at hclosed
        cases hclosed
    rw [hstate] at htotal
    have hone : (CallStage.admitting .halfOpen).counted = 1 := rfl
    have hcovered := h.covered hhalf
    rw [Breaker.counted] at hcovered
    omega
  have htotal : (config.advance (CallStage.advance breaker) index succeeds).total
      CallStage.counted + (CallStage.admitting state).counted =
        config.total CallStage.counted := Interleave.Config.total_advance CallStage.counted hstage
  have hpresent : config.shared.current = .halfOpen →
      config.shared.periods.headD 0 + 1 ≤ config.shared.halfOpenCalls.read config.shared.now := by
    intro hhalf
    have hle := hcounted hhalf _ htotal
    omega
  refine h.advance hstage rfl rfl (fun _ => hrecovered) nofun ?_ h.bounded ?_ ?_
  · intro hhalf total htotal
    have hle := hcounted hhalf total htotal
    show config.shared.letIn.periods.headD 0 + total ≤ _
    exact (Nat.add_le_add_right hhead total).trans hle
  · intro admission hadmission
    rcases List.mem_cons.1 hadmission with heq | hold
    · rw [heq]
      exact hrecovered
    · exact h.respected.recovered admission hold
  · intro admitted hadmitted
    by_cases hhalf : config.shared.current = .halfOpen
    · rcases hmem admitted hadmitted with hold | hnew
      · exact h.respected.limited admitted hold
      · rw [hnew]
        exact (hpresent hhalf).trans h.bounded
    · have hsame : config.shared.letIn.periods = config.shared.periods :=
        BreakerStore.periods_letIn hhalf
      exact h.respected.limited admitted (hsame ▸ hadmitted)

/-- A call enters the half-open state. -/
theorem enters (h : BreakerInv breaker config) {index : Nat} {openedAt : ℚ}
    (hstage : config.processes[index]? = some (.entering openedAt))
    (horder : (CallStage.entering openedAt).InOrder breaker config) (succeeds : Bool) :
    BreakerInv breaker (config.advance (CallStage.advance breaker) index succeeds) := by
  obtain ⟨hlatest, hnobody⟩ := horder
  have hpassed := h.entering openedAt (List.mem_of_getElem? hstage)
  refine h.advance hstage rfl rfl ?_ nofun ?_ h.bounded h.respected.recovered ?_
  · intro _ opening hopening
    rw [BreakerStore.openings_setState (by decide)] at hopening
    have hle := hlatest opening hopening
    linarith
  · intro _ total htotal
    have hzero : (CallStage.entering openedAt).counted = 0 := rfl
    have hzero' : CallStage.resetting.counted = 0 := rfl
    by_cases hhalf : config.shared.current = .halfOpen
    · rw [BreakerStore.periods_setState (Or.inr hhalf)]
      have hcovered := h.covered hhalf
      rw [Breaker.counted] at hcovered
      show _ ≤ config.shared.halfOpenCalls.read config.shared.now
      omega
    · -- a new period, and no call is on its way into it
      have hnone : config.total CallStage.counted = 0 := hnobody.resolve_left hhalf
      have hnew : (config.shared.setState .halfOpen).periods = 0 :: config.shared.periods :=
        if_pos ⟨rfl, hhalf⟩
      rw [hnew, List.headD_cons]
      omega
  · intro admitted hadmitted
    by_cases hhalf : config.shared.current = .halfOpen
    · rw [BreakerStore.periods_setState (Or.inr hhalf)] at hadmitted
      exact h.respected.limited admitted hadmitted
    · have hnew : (config.shared.setState .halfOpen).periods = 0 :: config.shared.periods :=
        if_pos ⟨rfl, hhalf⟩
      rw [hnew] at hadmitted
      rcases List.mem_cons.1 hadmitted with heq | hold
      · rw [heq]
        exact Nat.zero_le _
      · exact h.respected.limited admitted hold

/-- The state is set to one that is not half open. -/
theorem sets (h : BreakerInv breaker config) {index : Nat} {stage next : CallStage}
    (hstage : config.processes[index]? = some stage) {succeeds : Bool} {state : CircuitState}
    (hrun : stage.advance breaker config.shared succeeds =
      (config.shared.setState state, next))
    (hother : state ≠ .halfOpen)
    (hrecovered : state ≠ .open_ → config.shared.current ≠ .open_)
    (hentering : ∀ openedAt, next ≠ .entering openedAt) :
    BreakerInv breaker (config.advance (CallStage.advance breaker) index succeeds) := by
  refine h.advance hstage hrun rfl ?_ ?_ ?_ h.bounded h.respected.recovered ?_
  · intro hnotOpen
    rw [BreakerStore.current_setState] at hnotOpen
    rw [BreakerStore.openings_setState hnotOpen]
    exact h.recovered (hrecovered hnotOpen)
  · intro openedAt heq
    exact absurd heq (hentering openedAt)
  · intro hhalf
    exact absurd hhalf hother
  · rw [BreakerStore.periods_setState (Or.inl hother)]
    exact h.respected.limited

/-- The counter of the half-open calls is written. -/
theorem counts (h : BreakerInv breaker config) {index : Nat} {stage next : CallStage}
    (hstage : config.processes[index]? = some stage) {succeeds : Bool} {counter : RedisCounter}
    (hrun : stage.advance breaker config.shared succeeds =
      ({ config.shared with halfOpenCalls := counter }, next))
    (hentering : ∀ openedAt, next ≠ .entering openedAt)
    (hbounded : counter.read config.shared.now ≤ breaker.halfOpenMaxCalls)
    (hcovered : config.shared.current = .halfOpen →
      config.counted + next.counted ≤ counter.read config.shared.now + stage.counted) :
    BreakerInv breaker (config.advance (CallStage.advance breaker) index succeeds) := by
  refine h.advance hstage hrun rfl h.recovered ?_ ?_ hbounded h.respected.recovered
    h.respected.limited
  · intro openedAt heq
    exact absurd heq (hentering openedAt)
  · intro hhalf total htotal
    have hle := hcovered hhalf
    rw [Breaker.counted] at hle
    show config.shared.periods.headD 0 + total ≤ counter.read config.shared.now
    omega

/-- A command that is in order keeps the invariant. -/
theorem resume (h : BreakerInv breaker config) {index : Nat} {stage : CallStage}
    (hstage : config.processes[index]? = some stage) (horder : stage.InOrder breaker config)
    (succeeds : Bool) :
    BreakerInv breaker (config.advance (CallStage.advance breaker) index succeeds) := by
  cases stage with
  | reading =>
    cases hcurrent : config.shared.current with
    | closed =>
      have hrun : CallStage.advance breaker config.shared .reading succeeds =
          (config.shared, .admitting .closed) := by rw [CallStage.advance, hcurrent]
      exact h.advance_aside hstage hrun rfl nofun
    | open_ =>
      have hrun : CallStage.advance breaker config.shared .reading succeeds =
          (config.shared, .timing) := by rw [CallStage.advance, hcurrent]
      exact h.advance_aside hstage hrun rfl nofun
    | halfOpen =>
      have hrun : CallStage.advance breaker config.shared .reading succeeds =
          (config.shared, .counting) := by rw [CallStage.advance, hcurrent]
      exact h.advance_aside hstage hrun rfl nofun
  | timing => exact h.advance_aside hstage rfl rfl nofun
  | judging openedAt =>
    by_cases hpassed : config.shared.now - openedAt ≥ breaker.recoveryTimeout
    · refine h.advance_aside hstage (if_pos hpassed) rfl ?_
      intro other heq
      cases heq
      linarith
    · exact h.advance_aside hstage (if_neg hpassed) rfl nofun
  | entering openedAt => exact h.enters hstage horder succeeds
  | resetting =>
    refine h.counts hstage rfl nofun (Nat.zero_le _) ?_
    intro hhalf
    rw [horder hhalf]
    exact Nat.le_refl _
  | counting =>
    by_cases hfull :
        config.shared.halfOpenCalls.read config.shared.now ≥ breaker.halfOpenMaxCalls
    · exact h.advance_aside hstage (if_pos hfull) rfl nofun
    · exact h.advance_aside hstage (if_neg hfull) rfl nofun
  | incrementing =>
    refine h.counts hstage rfl nofun ?_ ?_
    · rw [RedisCounter.read_incr]
      exact horder
    · intro hhalf
      rw [RedisCounter.read_incr]
      exact Nat.succ_le_succ (h.covered hhalf)
  | expiring =>
    refine h.counts hstage rfl nofun ?_ ?_
    · exact (RedisCounter.read_expire_le _ _ _).trans h.bounded
    · intro hhalf
      rw [RedisCounter.read_expire (horder hhalf)]
      exact Nat.succ_le_succ (h.covered hhalf)
  | admitting state => exact h.admitting hstage horder succeeds
  | running state =>
    cases state <;> cases succeeds <;> exact h.advance_aside hstage rfl rfl nofun
  | closing => exact h.sets hstage rfl (by decide) (fun _ => horder) nofun
  | forgiving state =>
    cases state <;> exact h.advance_aside hstage rfl rfl nofun
  | clearing =>
    refine h.counts hstage rfl nofun (Nat.zero_le _) ?_
    intro hhalf
    rw [horder hhalf]
    exact Nat.le_refl _
  | failing => exact h.advance_aside hstage rfl rfl nofun
  | aging failures =>
    by_cases hmany : failures ≥ breaker.failureThreshold
    · exact h.advance_aside hstage (congrArg (Prod.mk _) (if_pos hmany)) rfl nofun
    · exact h.advance_aside hstage (congrArg (Prod.mk _) (if_neg hmany)) rfl nofun
  | opening => exact h.sets hstage rfl (by decide) (fun hne => absurd rfl hne) nofun
  | stamping => exact h.advance_aside hstage rfl rfl nofun
  | storing openedAt => exact h.advance_aside hstage rfl rfl nofun
  | rejected => exact h.advance_aside hstage rfl rfl nofun
  | returned => exact h.advance_aside hstage rfl rfl nofun
  | raised => exact h.advance_aside hstage rfl rfl nofun

/-- Another call begins. -/
theorem call (h : BreakerInv breaker config) : BreakerInv breaker (config.spawn .reading) := by
  have hcounted : Breaker.counted (config.spawn .reading) = config.counted := by
    rw [Breaker.counted, Interleave.Config.total_spawn]
    rfl
  refine ⟨h.recovered, ?_, ?_, h.bounded, h.respected.recovered, h.respected.limited⟩
  · intro openedAt hmem
    rcases List.mem_append.1 hmem with hold | hnew
    · exact h.entering openedAt hold
    · cases List.mem_singleton.1 hnew
  · rw [hcounted]
    exact h.covered

/-- The clock shows a later time. -/
theorem clock (h : BreakerInv breaker config) {time : ℚ}
    (hlasts : config.shared.current = .halfOpen → 0 < config.counted →
      ∀ expiresAt, config.shared.halfOpenCalls.expiresAt = some expiresAt →
        max config.shared.now time < expiresAt) :
    BreakerInv breaker
      (config.update (fun store => { store with now := max store.now time })) := by
  have hlater : config.shared.now ≤ max config.shared.now time := le_max_left _ _
  refine ⟨?_, ?_, ?_, ?_, h.respected.recovered, h.respected.limited⟩
  · intro hnotOpen opening hopening
    exact (h.recovered hnotOpen opening hopening).trans hlater
  · intro openedAt hmem
    exact (h.entering openedAt hmem).trans hlater
  · intro hhalf
    show config.counted ≤ config.shared.halfOpenCalls.read (max config.shared.now time)
    rcases Nat.eq_zero_or_pos config.counted with hzero | hpositive
    · rw [hzero]
      exact Nat.zero_le _
    · rw [RedisCounter.read_of_lt (hlasts hhalf hpositive)]
      exact (h.covered hhalf).trans RedisCounter.read_le_value
  · exact (RedisCounter.read_anti hlater).trans h.bounded

/-- An event that is in order keeps the invariant. -/
theorem run (h : BreakerInv breaker config) {event : BreakerEvent}
    (horder : InOrder breaker (config, event)) : BreakerInv breaker (event.run breaker config) := by
  cases event with
  | call => exact h.call
  | clock time => exact h.clock horder
  | resume index succeeds =>
    show BreakerInv breaker (config.advance (CallStage.advance breaker) index succeeds)
    cases hstage : config.processes[index]? with
    | none =>
      rw [Interleave.Config.advance, hstage]
      exact h
    | some stage => exact h.resume hstage (horder stage hstage) succeeds

end BreakerInv

/-- A breaker whose commands are in order admits no call too early and not too
many in a half-open period. -/
theorem respected_of_inOrder (breaker : CircuitBreaker) (now : ℚ) (events : List BreakerEvent)
    (horder : ∀ step ∈ Transition.steps (BreakerEvent.run breaker) (.unused now) events,
      InOrder breaker step) :
    Respected breaker (Transition.after (BreakerEvent.run breaker) (.unused now) events) := by
  have hinv : BreakerInv breaker
      (Transition.after (BreakerEvent.run breaker) (.unused now) events) :=
    Transition.after_invariant (fun _ _ hstep h => BreakerInv.run h hstep) horder
      (BreakerInv.unused breaker now)
  exact hinv.respected

instance (breaker : CircuitBreaker) (config : Breaker) (stage : CallStage) :
    Decidable (stage.InOrder breaker config) := by
  cases stage <;> unfold CallStage.InOrder <;> infer_instance

instance (breaker : CircuitBreaker) (step : Breaker × BreakerEvent) :
    Decidable (InOrder breaker step) :=
  match step with
  | (_, .call) => isTrue trivial
  | (config, .clock time) =>
    decidable_of_iff (config.shared.current = .halfOpen → 0 < config.counted →
        ∀ expiresAt ∈ config.shared.halfOpenCalls.expiresAt.toList,
          max config.shared.now time < expiresAt) (by simp [InOrder])
  | (config, .resume index _) =>
    decidable_of_iff (∀ stage ∈ config.processes[index]?.toList, stage.InOrder breaker config)
      (by simp [InOrder])

namespace BreakerExample

/-- One failure opens the breaker for a minute, and one call tries again. -/
def breaker : CircuitBreaker := { failureThreshold := 1, halfOpenMaxCalls := 1 }

/-- The breaker after the events. -/
def after (events : List BreakerEvent) : Breaker :=
  Transition.after (BreakerEvent.run breaker) (.unused 1000) events

/-- The call goes on so many times. -/
def goOn (index count : Nat) (succeeds : Bool) : List BreakerEvent :=
  List.replicate count (.resume index succeeds)

/-- A call fails, a minute later another one tries again, and succeeds. -/
def recovered : List BreakerEvent :=
  [.call] ++ goOn 0 8 false ++ [.clock 1060, .call] ++ goOn 1 13 true

/-- Of two calls one fails, and a minute later a third one tries again.  The
second one fails and opens the breaker, the third one succeeds and closes it, and
a fourth one is admitted. -/
def closedAgain : List BreakerEvent :=
  [.call, .call] ++ goOn 0 2 true ++ goOn 1 2 true ++ goOn 0 6 false ++
    [.clock 1060, .call] ++ goOn 2 9 true ++ goOn 1 4 false ++ goOn 2 2 true ++
    [.call] ++ goOn 3 2 true

/-- A call opens the breaker, and another one looks for the time of the opening
before it is written. -/
def unstamped : List BreakerEvent := [.call, .call] ++ goOn 0 6 false ++ goOn 1 9 true

/-- A minute after the opening two calls read the counter before either counts. -/
def crowded : List BreakerEvent :=
  [.call] ++ goOn 0 8 false ++ [.clock 1060, .call, .call] ++ goOn 1 6 true ++ goOn 2 2 true ++
    goOn 1 3 true ++ goOn 2 3 true

end BreakerExample

open BreakerExample in
theorem respected_recovered : Respected breaker (Transition.after (BreakerEvent.run breaker)
    (.unused 1000) recovered) :=
  respected_of_inOrder breaker 1000 recovered (by decide +kernel)

open BreakerExample in
theorem respected_fails : ¬Respected breaker (after closedAgain) ∧
    ¬Respected breaker (after unstamped) ∧ ¬Respected breaker (after crowded) := by
  refine ⟨?_, ?_, ?_⟩
  · intro h
    have hearly : (1060 : ℚ) + 60 ≤ 1060 :=
      h.recovered ⟨1060, [1060, 1000]⟩ (by decide +kernel) 1060 (by decide +kernel)
    exact absurd hearly (by decide +kernel)
  · intro h
    have hearly : (1000 : ℚ) + 60 ≤ 1000 :=
      h.recovered ⟨1000, [1000]⟩ (by decide +kernel) 1000 (by decide +kernel)
    exact absurd hearly (by decide +kernel)
  · intro h
    have hmany : 2 ≤ 1 := h.limited 2 (by decide +kernel)
    exact absurd hmany (by decide)

end MassClaw
