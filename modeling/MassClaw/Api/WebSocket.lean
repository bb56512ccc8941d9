import Mathlib.Logic.Function.Basic
import MassClaw.Lib.Interleave
import MassClaw.Lib.Transition

/-!
# The registry of WebSocket connections, `app/api/websocket.py`

`ConnectionManager` keeps a set of sockets for each workflow.  Coroutines
change it between their awaits: `connect` registers a socket once it is
accepted, the handler `workflow_websocket` drops its socket when its loop ends,
and a broadcast drops those that could not be sent to.

A broadcast iterates over the set itself, so the next step of the iteration
raises when the set has another size than at its start.  The handler calls
`connect` before its `try`, so a welcome message that cannot be sent ends the
handler without dropping the socket.  `safe_iff_undisturbed` says that nothing
else goes wrong.
-/

namespace MassClaw

/-- A WebSocket; each call of `connect` has one of its own. -/
abbrev Socket := Nat

/-- `_connections`: the set object of each workflow that has an entry, with the
members of the set objects and the number of those made so far. -/
structure ConnectionManager where
  connections : String → Option Nat := fun _ => none
  members : Nat → List Socket := fun _ => []
  objects : Nat := 0

namespace ConnectionManager

/-- `self._connections[workflow_id].add(websocket)`. -/
def register (manager : ConnectionManager) (workflowId : String) (socket : Socket) :
    ConnectionManager :=
  match manager.connections workflowId with
  | some object =>
    let added := (manager.members object).insert socket
    { manager with members := Function.update manager.members object added }
  | none =>
    { connections := Function.update manager.connections workflowId (some manager.objects)
      members := Function.update manager.members manager.objects [socket]
      objects := manager.objects + 1 }

/-- `_discard`, which is all that `disconnect` does. -/
def discard (manager : ConnectionManager) (workflowId : String) (socket : Socket) :
    ConnectionManager :=
  match manager.connections workflowId with
  | none => manager
  | some object =>
    let rest := (manager.members object).filter (· ≠ socket)
    { manager with
      connections :=
        if rest = [] then Function.update manager.connections workflowId none
        else manager.connections
      members := Function.update manager.members object rest }

/-- The socket is in the set of the workflow. -/
def Registered (manager : ConnectionManager) (workflowId : String) (socket : Socket) : Prop :=
  ∃ object, manager.connections workflowId = some object ∧ socket ∈ manager.members object

end ConnectionManager

/-! ## The coroutines -/

/-- Where a call of `connect`, or the handler around it, waits: for `accept`, for
the welcome message, in the loop of the handler, for the tasks that the handler
has cancelled. -/
inductive ConnectionStage
  | accepting | welcoming | serving | closing | ended
  deriving DecidableEq

/-- A call of `connect`, by the handler `workflow_websocket` or by another caller. -/
structure Connection where
  socket : Socket
  workflowId : String
  byHandler : Bool
  stage : ConnectionStage := .accepting

/-- Where a broadcast waits, and how it ends. -/
inductive BroadcastStatus
  | sending (socket : Socket) | returned | raised
  deriving DecidableEq

/-- A call of `broadcast_to_workflow`: the set object that it iterates over, its
members at the start, those the iteration has yielded, and `dead`. -/
structure Broadcast where
  workflowId : String
  object : Option Nat
  start : List Socket
  seen : List Socket := []
  dead : List Socket := []
  status : BroadcastStatus := .returned

/-- What ends an await: whether the awaited call succeeds, and for a broadcast
the socket that the layout of the set puts next. -/
structure Resumption where
  ok : Bool := true
  next : Option Socket := none

namespace Connection

/-- The connection from one await to the next.  In the loop of the handler, `ok`
means that the loop goes on. -/
def advance (manager : ConnectionManager) (connection : Connection) (resumption : Resumption) :
    ConnectionManager × Connection :=
  let { socket, workflowId, .. } := connection
  match connection.stage with
  | .accepting =>
    if resumption.ok then
      (manager.register workflowId socket, { connection with stage := .welcoming })
    else (manager, { connection with stage := .ended })
  | .welcoming =>
    if resumption.ok ∧ connection.byHandler then (manager, { connection with stage := .serving })
    else (manager, { connection with stage := .ended })
  | .serving =>
    if resumption.ok then (manager, connection)
    else (manager.discard workflowId socket, { connection with stage := .closing })
  | .closing => (manager, { connection with stage := .ended })
  | .ended => (manager, connection)

end Connection

namespace Broadcast

/-- The members of the set that the broadcast iterates over. -/
def current (manager : ConnectionManager) (broadcast : Broadcast) : List Socket :=
  match broadcast.object with
  | none => []
  | some object => manager.members object

/-- The socket that the iteration yields next.  Over a set that nothing has
changed it yields each member once; otherwise any member may come, or none. -/
def next? (manager : ConnectionManager) (broadcast : Broadcast) (choice : Option Socket) :
    Option Socket :=
  let current := broadcast.current manager
  if current = broadcast.start then
    let rest := current.filter (· ∉ broadcast.seen)
    (choice.filter (· ∈ rest)).or rest.head?
  else choice.filter (· ∈ current)

/-- The iteration goes on: to the next send, or to the end, where the dead
sockets are dropped. -/
def proceed (manager : ConnectionManager) (broadcast : Broadcast) (choice : Option Socket) :
    ConnectionManager × Broadcast :=
  if (broadcast.current manager).length ≠ broadcast.start.length then
    -- RuntimeError: Set changed size during iteration
    (manager, { broadcast with status := .raised })
  else
    match broadcast.next? manager choice with
    | some socket =>
      (manager, { broadcast with status := .sending socket, seen := broadcast.seen ++ [socket] })
    | none =>
      (broadcast.dead.foldl (fun manager socket => manager.discard broadcast.workflowId socket)
          manager,
        { broadcast with status := .returned })

/-- A broadcast up to its first await. -/
def begin (manager : ConnectionManager) (workflowId : String) (choice : Option Socket) :
    ConnectionManager × Broadcast :=
  let object := manager.connections workflowId
  let start := match object with
    | none => []
    | some object => manager.members object
  proceed manager { workflowId, object, start } choice

/-- The broadcast from one await to the next. -/
def advance (manager : ConnectionManager) (broadcast : Broadcast) (resumption : Resumption) :
    ConnectionManager × Broadcast :=
  match broadcast.status with
  | .sending socket =>
    let dead := if resumption.ok then broadcast.dead else broadcast.dead ++ [socket]
    proceed manager { broadcast with dead } resumption.next
  | _ => (manager, broadcast)

end Broadcast

/-- A coroutine that uses the manager. -/
inductive Coroutine
  | connection (connection : Connection)
  | broadcast (broadcast : Broadcast)

namespace Coroutine

/-- The coroutine from one await to the next. -/
def advance (manager : ConnectionManager) (coroutine : Coroutine) (resumption : Resumption) :
    ConnectionManager × Coroutine :=
  match coroutine with
  | .connection call =>
    ((call.advance manager resumption).1, .connection (call.advance manager resumption).2)
  | .broadcast call =>
    ((call.advance manager resumption).1, .broadcast (call.advance manager resumption).2)

end Coroutine

/-- The manager and the coroutines. -/
abbrev EventLoop := Interleave.Config ConnectionManager Coroutine

/-- Something that the event loop does. -/
inductive LoopEvent
  | connect (byHandler : Bool) (workflowId : String)
  | disconnect (socket : Socket) (workflowId : String)
  | broadcast (workflowId : String) (first : Option Socket)
  | resume (index : Nat) (resumption : Resumption)

namespace LoopEvent

/-- The event loop after the event.  The socket of a connection is the index of
its coroutine. -/
def run (eventLoop : EventLoop) : LoopEvent → EventLoop
  | connect byHandler workflowId =>
    eventLoop.spawn (.connection { socket := eventLoop.processes.length, workflowId, byHandler })
  | disconnect socket workflowId =>
    eventLoop.update (fun manager => manager.discard workflowId socket)
  | broadcast workflowId first =>
    let begun := Broadcast.begin eventLoop.shared workflowId first
    (eventLoop.update (fun _ => begun.1)).spawn (.broadcast begun.2)
  | resume index resumption => eventLoop.advance Coroutine.advance index resumption

end LoopEvent

/-! ## What should hold -/

/-- No broadcast has raised, no set of the registry is empty, and no socket
whose handler has ended is registered. -/
structure Safe (eventLoop : EventLoop) : Prop where
  returned : ∀ broadcast, .broadcast broadcast ∈ eventLoop.processes → broadcast.status ≠ .raised
  nonempty : ∀ workflowId object, eventLoop.shared.connections workflowId = some object →
    eventLoop.shared.members object ≠ []
  dropped : ∀ connection, .connection connection ∈ eventLoop.processes →
    connection.byHandler = true → connection.stage = .ended →
      ∀ workflowId, ¬eventLoop.shared.Registered workflowId connection.socket

/-- A broadcast that goes on finds its set with as many members as at its start,
and a handler whose welcome message fails finds its socket dropped. -/
def Undisturbed (step : EventLoop × LoopEvent) : Prop :=
  match step.2 with
  | .resume index resumption =>
    match step.1.processes[index]? with
    | some (.broadcast broadcast) => ∀ socket, broadcast.status = .sending socket →
        (broadcast.current step.1.shared).length = broadcast.start.length
    | some (.connection connection) => connection.byHandler = true →
        connection.stage = .welcoming → resumption.ok = false →
          ¬step.1.shared.Registered connection.workflowId connection.socket
    | none => True
  | _ => True

/-! ## The registry under one operation -/

namespace ConnectionManager

/-- The entries have set objects of their own, and none of them is empty. -/
structure Valid (manager : ConnectionManager) : Prop where
  lt : ∀ workflowId object, manager.connections workflowId = some object → object < manager.objects
  inj : ∀ workflowId other object, manager.connections workflowId = some object →
    manager.connections other = some object → workflowId = other
  nonempty : ∀ workflowId object, manager.connections workflowId = some object →
    manager.members object ≠ []

variable {manager : ConnectionManager}

theorem Valid.register (h : manager.Valid) (workflowId : String) (socket : Socket) :
    (manager.register workflowId socket).Valid := by
  unfold ConnectionManager.register
  cases hentry : manager.connections workflowId with
  | some object =>
    refine ⟨h.lt, h.inj, fun other otherObject hother => ?_⟩
    by_cases hsame : otherObject = object
    · rw [hsame]
      simp only [Function.update_self]
      exact List.ne_nil_of_mem (List.mem_insert_self)
    · simp only [Function.update_of_ne hsame]
      exact h.nonempty other otherObject hother
  | none =>
    have hfresh : ∀ other, manager.connections other ≠ some manager.objects := by
      intro other hother
      exact Nat.lt_irrefl _ (h.lt other _ hother)
    refine ⟨fun other object hother => ?_, fun a b object ha hb => ?_, fun other object hother => ?_⟩
    · by_cases hsame : other = workflowId
      · simp only [hsame, Function.update_self, Option.some.injEq] at hother
        rw [← hother]
        exact Nat.lt_succ_self _
      · simp only [Function.update_of_ne hsame] at hother
        exact Nat.lt_succ_of_lt (h.lt other object hother)
    · by_cases hsameA : a = workflowId
      · by_cases hsameB : b = workflowId
        · rw [hsameA, hsameB]
        · simp only [hsameA, Function.update_self, Option.some.injEq] at ha
          simp only [Function.update_of_ne hsameB] at hb
          exact absurd (ha ▸ hb) (hfresh b)
      · simp only [Function.update_of_ne hsameA] at ha
        by_cases hsameB : b = workflowId
        · simp only [hsameB, Function.update_self, Option.some.injEq] at hb
          exact absurd (hb ▸ ha) (hfresh a)
        · simp only [Function.update_of_ne hsameB] at hb
          exact h.inj a b object ha hb
    · by_cases hsame : other = workflowId
      · simp only [hsame, Function.update_self, Option.some.injEq] at hother
        simp only [← hother, Function.update_self]
        exact List.cons_ne_nil _ _
      · simp only [Function.update_of_ne hsame] at hother
        have hne : object ≠ manager.objects := fun heq => hfresh other (heq ▸ hother)
        simp only [Function.update_of_ne hne]
        exact h.nonempty other object hother

/-- Registering a socket registers nothing else. -/
theorem Valid.registered_register (h : manager.Valid) {workflowId other : String}
    {socket registered : Socket}
    (hregistered : (manager.register workflowId socket).Registered other registered) :
    manager.Registered other registered ∨ (other = workflowId ∧ registered = socket) := by
  obtain ⟨object, hobject, hmem⟩ := hregistered
  unfold ConnectionManager.register at hobject hmem
  cases hentry : manager.connections workflowId with
  | some own =>
    rw [hentry] at hobject hmem
    dsimp only at hobject hmem
    by_cases hsame : object = own
    · subst hsame
      rw [Function.update_self, List.mem_insert_iff] at hmem
      rcases hmem with hnew | hold
      · exact Or.inr ⟨h.inj other workflowId object hobject hentry, hnew⟩
      · exact Or.inl ⟨object, hobject, hold⟩
    · rw [Function.update_of_ne hsame] at hmem
      exact Or.inl ⟨object, hobject, hmem⟩
  | none =>
    rw [hentry] at hobject hmem
    dsimp only at hobject hmem
    by_cases hsame : other = workflowId
    · rw [hsame, Function.update_self] at hobject
      cases hobject
      rw [Function.update_self] at hmem
      exact Or.inr ⟨hsame, List.mem_singleton.1 hmem⟩
    · rw [Function.update_of_ne hsame] at hobject
      have hne : object ≠ manager.objects := Nat.ne_of_lt (h.lt other object hobject)
      rw [Function.update_of_ne hne] at hmem
      exact Or.inl ⟨object, hobject, hmem⟩

theorem Valid.discard (h : manager.Valid) (workflowId : String) (socket : Socket) :
    (manager.discard workflowId socket).Valid := by
  unfold ConnectionManager.discard
  cases hentry : manager.connections workflowId with
  | none => exact h
  | some own =>
    dsimp only
    by_cases hrest : (manager.members own).filter (· ≠ socket) = []
    · have hsub : ∀ other object,
          Function.update manager.connections workflowId none other = some object →
            other ≠ workflowId ∧ manager.connections other = some object := by
        intro other object hother
        by_cases hsame : other = workflowId
        · rw [hsame, Function.update_self] at hother
          cases hother
        · rw [Function.update_of_ne hsame] at hother
          exact ⟨hsame, hother⟩
      rw [if_pos hrest]
      refine ⟨fun other object hother => h.lt other object (hsub other object hother).2,
        fun a b object ha hb => h.inj a b object (hsub a object ha).2 (hsub b object hb).2,
        fun other object hother => ?_⟩
      obtain ⟨hother, hobject⟩ := hsub other object hother
      have hne : object ≠ own := by
        intro heq
        exact hother (h.inj other workflowId own (heq ▸ hobject) hentry)
      simp only [Function.update_of_ne hne]
      exact h.nonempty other object hobject
    · rw [if_neg hrest]
      refine ⟨h.lt, h.inj, fun other object hobject => ?_⟩
      by_cases hsame : object = own
      · rw [hsame]
        simp only [Function.update_self]
        exact hrest
      · simp only [Function.update_of_ne hsame]
        exact h.nonempty other object hobject

/-- Discarding a socket registers nothing, and the socket is gone from the workflow. -/
theorem registered_discard {workflowId other : String} {socket registered : Socket}
    (h : (manager.discard workflowId socket).Registered other registered) :
    manager.Registered other registered ∧ ¬(other = workflowId ∧ registered = socket) := by
  obtain ⟨object, hobject, hmem⟩ := h
  unfold discard at hobject hmem
  cases hentry : manager.connections workflowId with
  | none =>
    rw [hentry] at hobject hmem
    refine ⟨⟨object, hobject, hmem⟩, ?_⟩
    intro hboth
    rw [hboth.1, hentry] at hobject
    cases hobject
  | some own =>
    rw [hentry] at hobject hmem
    dsimp only at hobject hmem
    have hold : manager.connections other = some object := by
      by_cases hsame : other = workflowId
      · split at hobject
        · rw [hsame, Function.update_self] at hobject
          cases hobject
        · exact hobject
      · split at hobject
        · rwa [Function.update_of_ne hsame] at hobject
        · exact hobject
    by_cases hown : object = own
    · subst hown
      rw [Function.update_self, List.mem_filter, decide_eq_true_eq] at hmem
      exact ⟨⟨object, hold, hmem.1⟩, fun hboth => hmem.2 hboth.2⟩
    · rw [Function.update_of_ne hown] at hmem
      refine ⟨⟨object, hold, hmem⟩, ?_⟩
      intro hboth
      rw [hboth.1, hentry] at hold
      exact hown (Option.some.inj hold).symm

end ConnectionManager

/-! ## One resumption -/

namespace Connection

/-- The stages in which a socket may be registered. -/
def Holds (connection : Connection) : Prop :=
  connection.stage = .welcoming ∨ connection.stage = .serving ∨
    (connection.stage = .ended ∧ connection.byHandler = false)

variable {manager : ConnectionManager} {connection : Connection} {resumption : Resumption}

@[simp] theorem socket_advance :
    (connection.advance manager resumption).2.socket = connection.socket := by
  unfold advance
  dsimp only
  split
  all_goals first | rfl | split
  all_goals rfl

theorem valid_advance (h : manager.Valid) : (connection.advance manager resumption).1.Valid := by
  unfold advance
  dsimp only
  split
  · split
    · exact h.register _ _
    · exact h
  · split
    · exact h
    · exact h
  · split
    · exact h
    · exact h.discard _ _
  · exact h
  · exact h

/-- What is registered after a resumption was registered before, or it is the
socket of the connection itself in a stage that may hold it. -/
theorem registered_advance (h : manager.Valid)
    (hown : ∀ workflowId, manager.Registered workflowId connection.socket →
      connection.workflowId = workflowId ∧ connection.Holds)
    (hwelcomed : connection.byHandler = true → connection.stage = .welcoming →
      resumption.ok = false → ¬manager.Registered connection.workflowId connection.socket)
    {workflowId : String} {socket : Socket}
    (hregistered : (connection.advance manager resumption).1.Registered workflowId socket) :
    (socket ≠ connection.socket ∧ manager.Registered workflowId socket) ∨
      (socket = connection.socket ∧
        (connection.advance manager resumption).2.workflowId = workflowId ∧
        (connection.advance manager resumption).2.Holds) := by
  by_cases hsocket : socket = connection.socket
  case neg =>
    refine Or.inl ⟨hsocket, ?_⟩
    unfold advance at hregistered
    dsimp only at hregistered
    split at hregistered
    · split at hregistered
      · rcases h.registered_register hregistered with hold | hnew
        · exact hold
        · exact absurd hnew.2 hsocket
      · exact hregistered
    · split at hregistered
      · exact hregistered
      · exact hregistered
    · split at hregistered
      · exact hregistered
      · exact (ConnectionManager.registered_discard hregistered).1
    · exact hregistered
    · exact hregistered
  subst hsocket
  refine Or.inr ⟨rfl, ?_⟩
  unfold advance at hregistered ⊢
  dsimp only at hregistered ⊢
  cases hstage : connection.stage with
  | accepting =>
    rw [hstage] at hregistered
    by_cases hok : resumption.ok = true
    · simp only [hok, if_true] at hregistered ⊢
      rcases h.registered_register hregistered with hold | hnew
      · exact ⟨(hown _ hold).1, Or.inl rfl⟩
      · exact ⟨hnew.1.symm, Or.inl rfl⟩
    · simp only [hok] at hregistered
      obtain ⟨-, hholds⟩ := hown _ hregistered
      simp [Holds, hstage] at hholds
  | welcoming =>
    rw [hstage] at hregistered
    by_cases hserves : resumption.ok = true ∧ connection.byHandler = true
    · simp only [hserves, and_self, if_true] at hregistered ⊢
      exact ⟨(hown _ hregistered).1, Or.inr (Or.inl rfl)⟩
    · simp only [hserves, if_false] at hregistered ⊢
      refine ⟨(hown _ hregistered).1, Or.inr (Or.inr ⟨rfl, ?_⟩)⟩
      cases hhandler : connection.byHandler with
      | false => rfl
      | true =>
        have hfails : resumption.ok = false := by simpa [hhandler] using hserves
        have hworkflow := (hown _ hregistered).1
        exact absurd (hworkflow ▸ hregistered) (hwelcomed hhandler hstage hfails)
  | serving =>
    rw [hstage] at hregistered
    by_cases hok : resumption.ok = true
    · simp only [hok, if_true] at hregistered ⊢
      exact hown _ hregistered
    · simp only [hok] at hregistered
      obtain ⟨hbefore, hnot⟩ := ConnectionManager.registered_discard hregistered
      exact absurd ⟨(hown _ hbefore).1.symm, rfl⟩ hnot
  | closing =>
    rw [hstage] at hregistered
    obtain ⟨-, hholds⟩ := hown _ hregistered
    simp [Holds, hstage] at hholds
  | ended =>
    rw [hstage] at hregistered
    exact hown _ hregistered

end Connection

namespace Broadcast

variable {manager : ConnectionManager} {broadcast : Broadcast}

theorem foldl_discard (workflowId : String) (dead : List Socket) (h : manager.Valid) :
    (dead.foldl (fun manager socket => manager.discard workflowId socket) manager).Valid ∧
      ∀ other socket, (dead.foldl (fun manager socket => manager.discard workflowId socket)
        manager).Registered other socket → manager.Registered other socket := by
  induction dead generalizing manager with
  | nil => exact ⟨h, fun _ _ hregistered => hregistered⟩
  | cons first rest ih =>
    obtain ⟨hvalid, hkept⟩ := ih (h.discard workflowId first)
    refine ⟨hvalid, fun other socket hregistered => ?_⟩
    exact (ConnectionManager.registered_discard (hkept other socket hregistered)).1

/-- The iteration goes on: the registry only loses sockets. -/
theorem proceed_spec (h : manager.Valid) (choice : Option Socket) :
    (broadcast.proceed manager choice).1.Valid ∧
      ∀ workflowId socket, (broadcast.proceed manager choice).1.Registered workflowId socket →
        manager.Registered workflowId socket := by
  unfold proceed
  split
  · exact ⟨h, fun _ _ hregistered => hregistered⟩
  · split
    · exact ⟨h, fun _ _ hregistered => hregistered⟩
    · exact foldl_discard _ _ h

/-- The iteration raises exactly when the set has another size than at its start. -/
theorem proceed_raised_iff (choice : Option Socket) :
    (broadcast.proceed manager choice).2.status = .raised ↔
      (broadcast.current manager).length ≠ broadcast.start.length := by
  unfold proceed
  by_cases hsize : (broadcast.current manager).length = broadcast.start.length
  · rw [if_neg (not_not.2 hsize)]
    split
    · simp [hsize]
    · simp [hsize]
  · rw [if_pos hsize]
    simp [hsize]

theorem begin_spec (h : manager.Valid) (workflowId : String) (choice : Option Socket) :
    (begin manager workflowId choice).1.Valid ∧
      ∀ other socket, (begin manager workflowId choice).1.Registered other socket →
        manager.Registered other socket :=
  proceed_spec h choice

theorem begin_not_raised (workflowId : String) (choice : Option Socket) :
    (begin manager workflowId choice).2.status ≠ .raised := by
  unfold begin
  rw [Ne, proceed_raised_iff, not_not]
  rfl

theorem advance_spec (broadcast : Broadcast) (h : manager.Valid) (resumption : Resumption) :
    (broadcast.advance manager resumption).1.Valid ∧
      ∀ workflowId socket, (broadcast.advance manager resumption).1.Registered workflowId socket →
        manager.Registered workflowId socket := by
  unfold advance
  split
  · exact proceed_spec h _
  · exact ⟨h, fun _ _ hregistered => hregistered⟩

theorem advance_raised_iff (resumption : Resumption) :
    (broadcast.advance manager resumption).2.status = .raised ↔
      broadcast.status = .raised ∨ ∃ socket, broadcast.status = .sending socket ∧
        (broadcast.current manager).length ≠ broadcast.start.length := by
  unfold advance
  cases hstatus : broadcast.status with
  | sending socket =>
    dsimp only
    rw [proceed_raised_iff]
    simp [current]
  | returned => simp [hstatus]
  | raised => simp [hstatus]

end Broadcast

/-! ## Runs -/

/-- The event loop at the start of the process. -/
def EventLoop.fresh : EventLoop := { shared := {}, processes := [] }

/-- The invariant of undisturbed runs: a connection has the index of its
coroutine as its socket, and a registered socket is that of a connection in a
stage that may hold it. -/
structure Tidy (eventLoop : EventLoop) : Prop where
  valid : eventLoop.shared.Valid
  own : ∀ index connection, eventLoop.processes[index]? = some (Coroutine.connection connection) →
    connection.socket = index
  held : ∀ workflowId socket, eventLoop.shared.Registered workflowId socket →
    ∃ connection, eventLoop.processes[socket]? = some (Coroutine.connection connection) ∧
      connection.workflowId = workflowId ∧ connection.Holds
  returned : ∀ broadcast, .broadcast broadcast ∈ eventLoop.processes → broadcast.status ≠ .raised

namespace Tidy

variable {eventLoop : EventLoop}

theorem fresh : Tidy EventLoop.fresh where
  valid := by
    refine ⟨fun _ _ h => ?_, fun _ _ _ h => ?_, fun _ _ h => ?_⟩
    all_goals cases h
  own index connection h := by cases h
  held workflowId socket h := by
    obtain ⟨object, hobject, -⟩ := h
    cases hobject
  returned broadcast h := by cases h

theorem safe (h : Tidy eventLoop) : Safe eventLoop := by
  refine ⟨h.returned, h.valid.nonempty, ?_⟩
  intro connection hmem hhandler hended workflowId hregistered
  obtain ⟨index, hindex⟩ := List.getElem?_of_mem hmem
  obtain ⟨holder, hholder, -, hholds⟩ := h.held workflowId _ hregistered
  rw [h.own index connection hindex, hindex] at hholder
  cases hholder
  simp [Connection.Holds, hended, hhandler] at hholds

/-- A coroutine begins that holds no socket, after the registry has only lost sockets. -/
theorem spawn (h : Tidy eventLoop) {manager : ConnectionManager} {coroutine : Coroutine}
    (hvalid : manager.Valid)
    (hkept : ∀ workflowId socket, manager.Registered workflowId socket →
      eventLoop.shared.Registered workflowId socket)
    (hown : ∀ connection, coroutine = .connection connection →
      connection.socket = eventLoop.processes.length)
    (hreturned : ∀ broadcast, coroutine = .broadcast broadcast → broadcast.status ≠ .raised) :
    Tidy ((eventLoop.update (fun _ => manager)).spawn coroutine) where
  valid := hvalid
  own index connection hindex := by
    rw [Interleave.Config.getElem?_spawn] at hindex
    split at hindex
    · rename_i hlast
      rw [hlast]
      exact hown connection (Option.some.inj hindex)
    · exact h.own index connection hindex
  held workflowId socket hregistered := by
    obtain ⟨connection, hindex, hrest⟩ := h.held workflowId socket (hkept _ _ hregistered)
    have hlt : socket < eventLoop.processes.length := (List.getElem?_eq_some_iff.1 hindex).1
    refine ⟨connection, ?_, hrest⟩
    rw [Interleave.Config.getElem?_spawn]
    exact (if_neg (Nat.ne_of_lt hlt)).trans hindex
  returned broadcast hmem := by
    rcases List.mem_append.1 hmem with hold | hnew
    · exact h.returned broadcast hold
    · exact hreturned broadcast (List.mem_singleton.1 hnew).symm

/-- A connection is resumed. -/
theorem resumeConnection (h : Tidy eventLoop) {index : Nat} {call : Connection}
    (hcall : eventLoop.processes[index]? = some (.connection call)) {resumption : Resumption}
    (hwelcomed : call.byHandler = true → call.stage = .welcoming → resumption.ok = false →
      ¬eventLoop.shared.Registered call.workflowId call.socket) :
    Tidy (eventLoop.advance Coroutine.advance index resumption) := by
  have hsocket : call.socket = index := h.own index call hcall
  have hown : ∀ workflowId, eventLoop.shared.Registered workflowId call.socket →
      call.workflowId = workflowId ∧ call.Holds := by
    intro workflowId hregistered
    obtain ⟨holder, hholder, hholds⟩ := h.held workflowId _ hregistered
    rw [hsocket, hcall] at hholder
    cases hholder
    exact hholds
  have hnext : ∀ other, (eventLoop.advance Coroutine.advance index resumption).processes[other]? =
      if other = index then some (Coroutine.advance eventLoop.shared _ resumption).2
      else eventLoop.processes[other]? := Interleave.Config.getElem?_advance hcall resumption
  refine ⟨?_, ?_, ?_, ?_⟩
  · rw [Interleave.Config.shared_advance hcall]
    exact Connection.valid_advance h.valid
  · intro other connection hother
    rw [hnext] at hother
    split at hother
    · rename_i hsame
      cases hother
      rw [Connection.socket_advance, hsocket, hsame]
    · exact h.own other connection hother
  · intro workflowId socket hregistered
    rw [Interleave.Config.shared_advance hcall] at hregistered
    rcases Connection.registered_advance h.valid hown hwelcomed hregistered with hold | hnew
    · obtain ⟨connection, hindex, hrest⟩ := h.held workflowId socket hold.2
      refine ⟨connection, ?_, hrest⟩
      rw [hnext, if_neg (hsocket ▸ hold.1)]
      exact hindex
    · refine ⟨_, ?_, hnew.2⟩
      rw [hnext, if_pos (hnew.1.trans hsocket)]
      rfl
  · intro broadcast hmem
    obtain ⟨other, hother⟩ := List.getElem?_of_mem hmem
    rw [hnext] at hother
    split at hother
    · cases hother
    · exact h.returned broadcast (List.mem_of_getElem? hother)

/-- A broadcast is resumed. -/
theorem resumeBroadcast (h : Tidy eventLoop) {index : Nat} {call : Broadcast}
    (hcall : eventLoop.processes[index]? = some (.broadcast call)) {resumption : Resumption}
    (hsize : ∀ socket, call.status = .sending socket →
      (call.current eventLoop.shared).length = call.start.length) :
    Tidy (eventLoop.advance Coroutine.advance index resumption) := by
  obtain ⟨hvalid, hkept⟩ := call.advance_spec h.valid resumption
  have hnext : ∀ other, (eventLoop.advance Coroutine.advance index resumption).processes[other]? =
      if other = index then some (Coroutine.advance eventLoop.shared _ resumption).2
      else eventLoop.processes[other]? := Interleave.Config.getElem?_advance hcall resumption
  refine ⟨?_, ?_, ?_, ?_⟩
  · rw [Interleave.Config.shared_advance hcall]
    exact hvalid
  · intro other connection hother
    rw [hnext] at hother
    split at hother
    · cases hother
    · exact h.own other connection hother
  · intro workflowId socket hregistered
    rw [Interleave.Config.shared_advance hcall] at hregistered
    obtain ⟨connection, hindex, hrest⟩ := h.held workflowId socket (hkept _ _ hregistered)
    refine ⟨connection, ?_, hrest⟩
    have hne : socket ≠ index := by
      intro hsame
      rw [hsame, hcall] at hindex
      cases hindex
    rw [hnext, if_neg hne]
    exact hindex
  · intro broadcast hmem
    obtain ⟨other, hother⟩ := List.getElem?_of_mem hmem
    rw [hnext] at hother
    split at hother
    · cases hother
      intro hraised
      rcases Broadcast.advance_raised_iff resumption |>.1 hraised with hbefore | ⟨socket, hsend, hne⟩
      · exact h.returned call (List.mem_of_getElem? hcall) hbefore
      · exact hne (hsize socket hsend)
    · exact h.returned broadcast (List.mem_of_getElem? hother)

/-- An undisturbed event keeps the invariant. -/
theorem run (h : Tidy eventLoop) {event : LoopEvent} (hundisturbed : Undisturbed (eventLoop, event)) :
    Tidy (event.run eventLoop) := by
  cases event with
  | connect byHandler workflowId =>
    refine h.spawn (h.valid : eventLoop.shared.Valid) (fun _ _ hold => hold) ?_ ?_
    · intro connection hconnection
      cases hconnection
      rfl
    · intro broadcast hbroadcast
      cases hbroadcast
  | disconnect socket workflowId =>
    refine ⟨h.valid.discard _ _, h.own, ?_, h.returned⟩
    intro other registered hregistered
    exact h.held other registered (ConnectionManager.registered_discard hregistered).1
  | broadcast workflowId first =>
    obtain ⟨hvalid, hkept⟩ := Broadcast.begin_spec h.valid workflowId first
    refine h.spawn hvalid hkept ?_ ?_
    · intro connection hconnection
      cases hconnection
    · intro broadcast hbroadcast
      cases hbroadcast
      exact Broadcast.begin_not_raised workflowId first
  | resume index resumption =>
    show Tidy (eventLoop.advance Coroutine.advance index resumption)
    unfold Undisturbed at hundisturbed
    dsimp only at hundisturbed
    cases hprocess : eventLoop.processes[index]? with
    | none =>
      rw [Interleave.Config.advance, hprocess]
      exact h
    | some coroutine =>
      rw [hprocess] at hundisturbed
      cases coroutine with
      | connection call => exact h.resumeConnection hprocess hundisturbed
      | broadcast call => exact h.resumeBroadcast hprocess hundisturbed

/-- A disturbed event leads to an unsafe state. -/
theorem not_safe_run {event : LoopEvent}
    (hdisturbed : ¬Undisturbed (eventLoop, event)) : ¬Safe (event.run eventLoop) := by
  unfold Undisturbed at hdisturbed
  dsimp only at hdisturbed
  split at hdisturbed
  · rename_i index resumption
    have hrun : LoopEvent.run eventLoop (.resume index resumption) =
        eventLoop.advance Coroutine.advance index resumption := rfl
    intro hsafe
    rw [hrun] at hsafe
    split at hdisturbed
    · -- a broadcast that raises
      rename_i call hcall
      apply hdisturbed
      intro socket hsending
      by_contra hsize
      have hraised : (call.advance eventLoop.shared resumption).2.status = .raised :=
        (Broadcast.advance_raised_iff resumption).2 (Or.inr ⟨socket, hsending, hsize⟩)
      refine hsafe.returned _ (List.mem_of_getElem? (i := index) ?_) hraised
      rw [Interleave.Config.getElem?_advance hcall, if_pos rfl]
      rfl
    · -- a handler that leaves its socket behind
      rename_i call hcall
      apply hdisturbed
      intro hhandler hstage hok hregistered
      have hadvance : call.advance eventLoop.shared resumption =
          (eventLoop.shared, { call with stage := .ended }) := by
        simp [Connection.advance, hstage, hok]
      have hended : Coroutine.connection { call with stage := .ended } ∈
          (eventLoop.advance Coroutine.advance index resumption).processes := by
        apply List.mem_of_getElem? (i := index)
        rw [Interleave.Config.getElem?_advance hcall, if_pos rfl, Coroutine.advance, hadvance]
      refine hsafe.dropped _ hended hhandler rfl call.workflowId ?_
      rw [Interleave.Config.shared_advance hcall, Coroutine.advance, hadvance]
      exact hregistered
    · exact hdisturbed trivial
  · exact absurd trivial hdisturbed

end Tidy

/-- Every state of a run is safe exactly when every event of it is undisturbed. -/
theorem safe_iff_undisturbed (events : List LoopEvent) :
    (∀ earlier, earlier <+: events → Safe (Transition.after LoopEvent.run .fresh earlier)) ↔
      ∀ step ∈ Transition.steps LoopEvent.run .fresh events, Undisturbed step :=
  Transition.prefixes_iff_steps (fun _ h => h.safe) (fun _ _ h => h.run)
    (fun _ _ _ h => Tidy.not_safe_run h) Tidy.fresh

namespace LoopExample

/-- A broadcast waits for a client while another one is accepted. -/
def joined : List LoopEvent :=
  [.connect true "w", .resume 0 {}, .broadcast "w" none, .connect true "w", .resume 2 {},
    .resume 1 {}]

/-- The welcome message cannot be sent. -/
def unwelcome : List LoopEvent := [.connect true "w", .resume 0 {}, .resume 0 { ok := false }]

end LoopExample

theorem safe_fails :
    ¬Safe (Transition.after LoopEvent.run .fresh LoopExample.joined) ∧
      ¬Safe (Transition.after LoopEvent.run .fresh LoopExample.unwelcome) := by
  constructor
  · intro hsafe
    exact hsafe.returned _ (List.mem_of_getElem? (i := 1) rfl) (by decide +kernel)
  · intro hsafe
    exact hsafe.dropped _ (List.mem_of_getElem? (i := 0) rfl) rfl rfl "w"
      ⟨0, by decide +kernel, by decide +kernel⟩

end MassClaw
