import MassClaw.Lib.Assoc
import MassClaw.Lib.Outcome
import MassClaw.Lib.Transition
import MassClaw.Scheduler.Selector

/-!
# Health checks, `app/services/agent_service.py` and `app/workers/health_check.py`

An agent is checked on demand (`health_check`) and by a periodic task
(`run_health_checks`).  Both count consecutive failures under one Redis key
and set the status from the count.  The task takes the ACTIVE and the DEGRADED
agents only; the check on demand takes any agent that has a URL, and it spares
no status but SUSPENDED when it suspends.

An exception rolls the session back and leaves the counters as they are.  The
published events are best effort and are left out.
-/

namespace MassClaw

/-- A row of `agents` as the health checks see it. -/
structure MonitoredAgent extends AgentRow where
  healthCheckUrl : Option String
  lastHealthCheck : Option Time := none

/-- The table, and the counters `agent_health_failures:{agent_id}`. -/
structure HealthState where
  agents : List MonitoredAgent
  failures : UUID → Option Nat

/-- What the check of one agent meets: the clock, the answer to the GET (a
status code, or the text of the exception), and Redis commands that raise. -/
structure Probe where
  now : Time
  response : Except String Nat
  counterFails : Bool := false
  expireFails : Bool := false

namespace HealthState

/-- `select(Agent).where(Agent.agent_id == agent_id)`. -/
def agent? (state : HealthState) (agentId : UUID) : Option MonitoredAgent :=
  state.agents.find? (fun agent => agent.agentId = agentId)

/-- The status of an agent. -/
def status? (state : HealthState) (agentId : UUID) : Option AgentStatus :=
  (state.agent? agentId).map (·.status)

/-- Assign to attributes of a row. -/
def updateAgent (state : HealthState) (agentId : UUID) (f : MonitoredAgent → MonitoredAgent) :
    HealthState :=
  { state with agents := state.agents.map (fun agent =>
      if agent.agentId = agentId then f agent else agent) }

/-- Assign `status` and `last_health_check`. -/
def setStatus (state : HealthState) (agentId : UUID) (status : AgentStatus) (now : Time) :
    HealthState :=
  state.updateAgent agentId (fun agent => { agent with status, lastHealthCheck := some now })

/-- The value that `redis.incr` returns. -/
def nextFailures (state : HealthState) (agentId : UUID) : Nat :=
  (state.failures agentId).getD 0 + 1

/-- `redis.incr`. -/
def incrFailures (state : HealthState) (agentId : UUID) : HealthState :=
  { state with
    failures := Function.update state.failures agentId (some (state.nextFailures agentId)) }

/-- `redis.delete`. -/
def deleteFailures (state : HealthState) (agentId : UUID) : HealthState :=
  { state with failures := Function.update state.failures agentId none }

@[simp] theorem status?_incrFailures (state : HealthState) (agentId other : UUID) :
    (state.incrFailures agentId).status? other = state.status? other := rfl

@[simp] theorem status?_deleteFailures (state : HealthState) (agentId other : UUID) :
    (state.deleteFailures agentId).status? other = state.status? other := rfl

theorem agent?_updateAgent (state : HealthState) (agentId other : UUID)
    {f : MonitoredAgent → MonitoredAgent} (hf : ∀ agent, (f agent).agentId = agent.agentId) :
    (state.updateAgent agentId f).agent? other =
      if other = agentId then (state.agent? other).map f else state.agent? other :=
  Assoc.find?_assign hf ..

theorem status?_setStatus (state : HealthState) (agentId other : UUID) (status : AgentStatus)
    (now : Time) :
    (state.setStatus agentId status now).status? other =
      if other = agentId then (state.status? other).map (fun _ => status)
      else state.status? other := by
  unfold setStatus status?
  rw [agent?_updateAgent]
  case hf => intro agent; rfl
  by_cases hother : other = agentId
  · rw [if_pos hother, if_pos hother, Option.map_map, Option.map_map]
    rfl
  · rw [if_neg hother, if_neg hother]

end HealthState

/-! ## The two checks -/

/-- The status after a check, which both functions compute alike: `none` is a
success, otherwise the number of consecutive failures is given. -/
def nextStatus (suspendedThreshold degradedThreshold : Int) (status : AgentStatus) :
    Option Nat → AgentStatus
  | none => if status = .degraded then .active else status
  | some failures =>
    if suspendedThreshold ≤ failures ∧ status ≠ .suspended then .suspended
    else if degradedThreshold ≤ failures ∧ status = .active then .degraded
    else status

/-- What a health check raises. -/
inductive HealthError
  /-- `NotFoundError("Agent", id)`. -/
  | notFound
  /-- An exception of Redis. -/
  | redis

/-- `HealthCheckResponse`, without the latency. -/
structure HealthCheckResponse where
  agentId : UUID
  healthy : Bool
  status : AgentStatus
  checkedAt : Time
  error : Option String

namespace AgentService

/-- `response.status_code == 200`. -/
def healthy (probe : Probe) : Bool :=
  match probe.response with
  | .ok statusCode => statusCode = 200
  | .error _ => false

/-- `str(e)` of the exception of the GET. -/
def errorText (probe : Probe) : Option String :=
  match probe.response with
  | .ok _ => none
  | .error text => some text

/-- `health_check`. -/
def healthCheck (state : HealthState) (agentId : UUID) (probe : Probe) :
    Except (HealthError × HealthState) (HealthCheckResponse × HealthState) :=
  match state.agent? agentId with
  | none => .error (.notFound, state)
  | some agent =>
    if agent.healthCheckUrl.getD "" = "" then
      .ok ({ agentId, healthy := agent.status = .active, status := agent.status
             checkedAt := probe.now, error := some "No health check URL configured" }, state)
    else if probe.counterFails then .error (.redis, state)
    else if healthy probe then
      let status := nextStatus 5 3 agent.status none
      .ok ({ agentId, healthy := true, status, checkedAt := probe.now, error := errorText probe },
        (state.deleteFailures agentId).setStatus agentId status probe.now)
    else if probe.expireFails then .error (.redis, state.incrFailures agentId)
    else
      let status := nextStatus 5 3 agent.status (some (state.nextFailures agentId))
      .ok ({ agentId, healthy := false, status, checkedAt := probe.now, error := errorText probe },
        (state.incrFailures agentId).setStatus agentId status probe.now)

/-- `delete_agent`, on an agent that exists. -/
def deleteAgent (state : HealthState) (agentId : UUID) : HealthState :=
  state.updateAgent agentId (fun agent => { agent with status := .inactive })

/-- `update_agent`, on an agent that exists, with a status in the request. -/
def updateStatus (state : HealthState) (agentId : UUID) (status : AgentStatus) : HealthState :=
  state.updateAgent agentId (fun agent => { agent with status })

end AgentService

namespace HealthWorker

/-- `health_check_degraded_threshold` and `health_check_suspended_threshold`. -/
structure Settings where
  degradedThreshold : Int := 3
  suspendedThreshold : Int := 5

/-- The summary that the task returns. -/
structure Summary where
  checked : Nat := 0
  healthy : Nat := 0
  degraded : Nat := 0
  suspended : Nat := 0
  deriving DecidableEq

/-- The counts after an agent with one status has failed a check and has the other. -/
def Summary.failed (summary : Summary) (old new : AgentStatus) : Summary :=
  if old ≠ .suspended ∧ new = .suspended then { summary with suspended := summary.suspended + 1 }
  else if new = .degraded then { summary with degraded := summary.degraded + 1 }
  else { summary with healthy := summary.healthy + 1 }

/-- `_check_agent_health`. -/
def checkAgentHealth (probe : Probe) : Bool :=
  match probe.response with
  | .ok statusCode => 200 ≤ statusCode ∧ statusCode < 300
  | .error _ => false

/-- The agents that the task selects. -/
def isChecked (agent : MonitoredAgent) : Bool :=
  (agent.status = .active ∨ agent.status = .degraded) ∧ agent.healthCheckUrl.isSome

/-- One turn of the loop of `run_health_checks`. -/
def checkAgent (settings : Settings) (probes : UUID → Probe) (reached : Summary × HealthState)
    (agentId : UUID) : Except HealthState (Summary × HealthState) :=
  let (summary, state) := reached
  match state.agent? agentId with
  | none => .ok reached
  | some agent =>
    let probe := probes agentId
    let summary := { summary with checked := summary.checked + 1 }
    let { suspendedThreshold, degradedThreshold } := settings
    if probe.counterFails then .error state
    else if checkAgentHealth probe then
      let status := nextStatus suspendedThreshold degradedThreshold agent.status none
      .ok ({ summary with healthy := summary.healthy + 1 },
        (state.deleteFailures agentId).setStatus agentId status probe.now)
    else if probe.expireFails then .error (state.incrFailures agentId)
    else
      let status := nextStatus suspendedThreshold degradedThreshold agent.status
        (some (state.nextFailures agentId))
      .ok (summary.failed agent.status status,
        (state.incrFailures agentId).setStatus agentId status probe.now)

/-- `run_health_checks`.  An exception rolls the rows back. -/
def runHealthChecks (settings : Settings) (probes : UUID → Probe) (state : HealthState) :
    Except HealthState (Summary × HealthState) :=
  let selected := (state.agents.map (·.agentId)).filter (fun agentId =>
    (state.agent? agentId).any isChecked)
  match selected.foldlM (checkAgent settings probes) ({}, state) with
  | .ok reached => .ok reached
  | .error reached => .error { reached with agents := state.agents }

end HealthWorker

/-! ## Sequences of checks -/

/-- Something that happens to the agents: a check on demand, the periodic task,
a deletion, an update by a request, the end of a counter's TTL. -/
inductive HealthEvent
  | healthCheck (agentId : UUID) (probe : Probe)
  | runHealthChecks (settings : HealthWorker.Settings) (probes : UUID → Probe)
  | deleteAgent (agentId : UUID)
  | updateStatus (agentId : UUID) (status : AgentStatus)
  | expireFailures (agentId : UUID)

namespace HealthEvent

/-- The rows and counters after the event. -/
def run (state : HealthState) : HealthEvent → HealthState
  | healthCheck agentId probe =>
    match AgentService.healthCheck state agentId probe with
    | .ok (_, next) => next
    | .error (_, next) => next
  | runHealthChecks settings probes =>
    match HealthWorker.runHealthChecks settings probes state with
    | .ok (_, next) => next
    | .error next => next
  | deleteAgent agentId => AgentService.deleteAgent state agentId
  | updateStatus agentId status => AgentService.updateStatus state agentId status
  | expireFailures agentId => state.deleteFailures agentId

/-- The event applies health-check results. -/
def IsHealthCheck : HealthEvent → Prop
  | healthCheck _ _ => True
  | runHealthChecks _ _ => True
  | _ => False

end HealthEvent

/-- The moves of a status that health checks may make. -/
def AgentStatus.Moves (old new : AgentStatus) : Prop :=
  new = old ∨ (old = .active ∧ new = .degraded) ∨
    ((old = .active ∨ old = .degraded) ∧ new = .suspended) ∨ (old = .degraded ∧ new = .active)

instance (old new : AgentStatus) : Decidable (old.Moves new) := by
  unfold AgentStatus.Moves; infer_instance

/-- Every agent keeps its status or makes one of these moves. -/
def HealthState.StatusesMove (before after : HealthState) : Prop :=
  ∀ agentId old, before.status? agentId = some old →
    ∃ new, after.status? agentId = some new ∧ old.Moves new

/-- The health checks of a sequence move the statuses as they may. -/
def MovesLawfully (start : HealthState) (events : List HealthEvent) : Prop :=
  ∀ step ∈ Transition.steps HealthEvent.run start events, step.2.IsHealthCheck →
    step.1.StatusesMove (step.2.run step.1)

/-- A check on demand of a soft-deleted agent with a URL is not at least the
fifth failure that the counter sees. -/
def SparesDeleted (step : HealthState × HealthEvent) : Prop :=
  match step.2 with
  | .healthCheck agentId probe =>
    ∀ agent, step.1.agent? agentId = some agent → agent.status = .inactive →
      agent.healthCheckUrl.getD "" ≠ "" → AgentService.healthy probe = false →
      probe.counterFails = false → probe.expireFails = false → step.1.nextFailures agentId < 5
  | _ => True

namespace AgentStatus

@[simp] theorem Moves.refl (status : AgentStatus) : status.Moves status := Or.inl rfl

theorem Moves.trans {a b c : AgentStatus} (hab : a.Moves b) (hbc : b.Moves c) : a.Moves c := by
  cases a <;> cases b <;> cases c <;> revert hab hbc <;> decide

/-- The status after a check moves as it may, unless an INACTIVE agent is
suspended. -/
theorem moves_nextStatus {suspendedThreshold degradedThreshold : Int} {status : AgentStatus}
    {failures : Option Nat} (h : status = .inactive → ∀ n ∈ failures, ¬suspendedThreshold ≤ n) :
    status.Moves (nextStatus suspendedThreshold degradedThreshold status failures) := by
  cases failures with
  | none =>
    cases status
    all_goals simp [nextStatus, Moves]
  | some n =>
    unfold nextStatus
    by_cases hsuspend : suspendedThreshold ≤ n
    · cases status
      case inactive => exact absurd hsuspend (h rfl n rfl)
      all_goals simp [hsuspend, Moves]
    · by_cases hdegrade : degradedThreshold ≤ n
      · cases status
        all_goals simp [hsuspend, hdegrade, Moves]
      · simp [hsuspend, hdegrade]

end AgentStatus

namespace HealthState

theorem StatusesMove.refl (state : HealthState) : state.StatusesMove state :=
  fun _ old hold => ⟨old, hold, .refl old⟩

/-- One agent moves. -/
theorem StatusesMove.setStatus {start state : HealthState} (h : start.StatusesMove state)
    {agentId : UUID} {agent : MonitoredAgent} (hagent : state.agent? agentId = some agent)
    {status : AgentStatus} (hmoves : agent.status.Moves status) (now : Time) :
    start.StatusesMove (state.setStatus agentId status now) := by
  intro other old hold
  obtain ⟨new, hnew, hmove⟩ := h other old hold
  rw [status?_setStatus]
  by_cases hother : other = agentId
  · subst hother
    have hstatus : agent.status = new := by
      rw [status?, hagent] at hnew
      exact Option.some.inj hnew
    rw [if_pos rfl, hnew]
    exact ⟨status, rfl, hmove.trans (hstatus ▸ hmoves)⟩
  · rw [if_neg hother]
    exact ⟨new, hnew, hmove⟩

end HealthState

/-! ### The periodic task -/

namespace HealthWorker

/-- An agent that the task selects is never INACTIVE while the task runs. -/
theorem not_inactive {start state : HealthState} (h : start.StatusesMove state) {agentId : UUID}
    (hselected : (start.agent? agentId).any isChecked = true) {agent : MonitoredAgent}
    (hagent : state.agent? agentId = some agent) : agent.status ≠ .inactive := by
  cases hrow : start.agent? agentId with
  | none =>
    rw [hrow] at hselected
    cases hselected
  | some row =>
    rw [hrow] at hselected
    have hstatus : row.status = .active ∨ row.status = .degraded := by
      simp [isChecked] at hselected
      exact hselected.1
    obtain ⟨new, hnew, hmove⟩ := h agentId row.status (by rw [HealthState.status?, hrow]; rfl)
    rw [HealthState.status?, hagent] at hnew
    have hnow : agent.status = new := Option.some.inj hnew
    intro hinactive
    rw [← hnow, hinactive] at hmove
    rcases hstatus with hactive | hdegraded
    · rw [hactive] at hmove
      revert hmove
      decide
    · rw [hdegraded] at hmove
      revert hmove
      decide

theorem checkAgent_moves {settings : Settings} {probes : UUID → Probe} {start : HealthState}
    {agentId : UUID} (hselected : (start.agent? agentId).any isChecked = true)
    (reached : Summary × HealthState) (h : start.StatusesMove reached.2) :
    Outcome.Holds (fun next => start.StatusesMove next.2) (fun _ => True)
      (checkAgent settings probes reached agentId) := by
  obtain ⟨summary, state⟩ := reached
  unfold checkAgent
  dsimp only
  split
  · exact h
  · rename_i agent hagent
    have hnot : ∀ failures threshold : Int, agent.status = .inactive → ¬threshold ≤ failures :=
      fun _ _ hinactive => absurd hinactive (not_inactive h hselected hagent)
    split_ifs
    · trivial
    · have hcounted : start.StatusesMove (state.deleteFailures agentId) := h
      exact hcounted.setStatus hagent
        (AgentStatus.moves_nextStatus fun hinactive _ _ => hnot _ _ hinactive) _
    · trivial
    · have hcounted : start.StatusesMove (state.incrFailures agentId) := h
      exact hcounted.setStatus hagent
        (AgentStatus.moves_nextStatus fun hinactive _ _ => hnot _ _ hinactive) _

theorem runHealthChecks_moves (settings : Settings) (probes : UUID → Probe) (state : HealthState) :
    state.StatusesMove (HealthEvent.run state (.runHealthChecks settings probes)) := by
  have hfold := Outcome.Holds.foldlM_mem (f := checkAgent settings probes)
    (I := fun reached => state.StatusesMove reached.2) (E := fun _ => True)
    ((state.agents.map (·.agentId)).filter (fun agentId => (state.agent? agentId).any isChecked))
    ({}, state) (fun agentId hmem reached hreached =>
      checkAgent_moves (List.mem_filter.1 hmem).2 reached hreached)
    (HealthState.StatusesMove.refl state)
  unfold HealthEvent.run runHealthChecks
  dsimp only
  split
  · rename_i next heq
    split at heq
    · rename_i reached hok
      cases heq
      exact hfold.of_ok hok
    · cases heq
  · rename_i next heq
    split at heq
    · cases heq
    · cases heq
      exact HealthState.StatusesMove.refl state

end HealthWorker

/-! ### The check on demand -/

namespace AgentService

/-- A check moves the status of its agent as `nextStatus` says, or no status. -/
theorem healthCheck_moves {state : HealthState} {agentId : UUID} {probe : Probe}
    (h : SparesDeleted (state, .healthCheck agentId probe)) :
    state.StatusesMove (HealthEvent.run state (.healthCheck agentId probe)) := by
  have hsame := HealthState.StatusesMove.refl state
  unfold HealthEvent.run healthCheck
  dsimp only
  cases hagent : state.agent? agentId with
  | none => exact hsame
  | some agent =>
    dsimp only
    by_cases hurl : agent.healthCheckUrl.getD "" = ""
    · rw [if_pos hurl]
      exact hsame
    · rw [if_neg hurl]
      cases hcounter : probe.counterFails with
      | true => exact hsame
      | false =>
        cases hhealthy : healthy probe with
        | true =>
          have hcounted : state.StatusesMove (state.deleteFailures agentId) := hsame
          exact hcounted.setStatus hagent (AgentStatus.moves_nextStatus fun _ n hn => absurd hn (Option.not_mem_none n)) _
        | false =>
          cases hexpire : probe.expireFails with
          | true => exact hsame
          | false =>
            have hcounted : state.StatusesMove (state.incrFailures agentId) := hsame
            refine hcounted.setStatus hagent (AgentStatus.moves_nextStatus fun hinactive n hn => ?_) _
            have hlt : state.nextFailures agentId < 5 :=
              h agent hagent hinactive hurl hhealthy hcounter hexpire
            cases hn
            omega

/-- The fifth failure of a soft-deleted agent suspends it. -/
theorem not_moves_of_deleted {state : HealthState} {agentId : UUID} {probe : Probe}
    (h : state.StatusesMove (HealthEvent.run state (.healthCheck agentId probe))) :
    SparesDeleted (state, .healthCheck agentId probe) := by
  intro agent hagent hinactive hurl hhealthy hcounter hexpire
  by_contra hlate
  have hge : ¬state.nextFailures agentId < 5 := hlate
  have hstatus : state.status? agentId = some .inactive := by
    rw [HealthState.status?, hagent, Option.map_some, hinactive]
  have hnext : nextStatus 5 3 agent.status (some (state.nextFailures agentId)) = .suspended := by
    rw [hinactive]
    have hcount : (5 : Int) ≤ (state.nextFailures agentId : Nat) := by omega
    simp [nextStatus, hcount]
  have hrun : HealthEvent.run state (.healthCheck agentId probe) =
      (state.incrFailures agentId).setStatus agentId .suspended probe.now := by
    simp [HealthEvent.run, healthCheck, hagent, hurl, hcounter, hhealthy, hexpire, hnext]
  obtain ⟨new, hnew, hmove⟩ := h agentId .inactive hstatus
  rw [hrun, HealthState.status?_setStatus, if_pos rfl, HealthState.status?_incrFailures, hstatus]
    at hnew
  cases hnew
  revert hmove
  decide

end AgentService

/-! ## Which sequences move the statuses as they may -/

/-- The health checks of a sequence move every status as they may exactly if no
check on demand meets a soft-deleted agent at its fifth failure or later. -/
theorem movesLawfully_iff (start : HealthState) (events : List HealthEvent) :
    MovesLawfully start events ↔
      ∀ step ∈ Transition.steps HealthEvent.run start events, SparesDeleted step := by
  refine forall_congr' fun step => forall_congr' fun _ => ?_
  obtain ⟨state, event⟩ := step
  cases event with
  | healthCheck agentId probe =>
    constructor
    · intro h
      exact AgentService.not_moves_of_deleted (h trivial)
    · intro h _
      exact AgentService.healthCheck_moves h
  | runHealthChecks settings probes =>
    exact iff_of_true (fun _ => HealthWorker.runHealthChecks_moves settings probes state) trivial
  | deleteAgent agentId => exact iff_of_true (fun h => h.elim) trivial
  | updateStatus agentId status => exact iff_of_true (fun h => h.elim) trivial
  | expireFailures agentId => exact iff_of_true (fun h => h.elim) trivial

namespace HealthExample

/-- An active agent with a URL. -/
def agent : MonitoredAgent where
  agentId := UUID.ofNat 1
  name := "a"
  trustScore := 1 / 2
  capabilities := []
  avgCostPerCall := 0
  supportedTools := .null
  status := .active
  healthCheckUrl := some "http://a/health"

/-- That agent, without failures. -/
def start : HealthState := { agents := [agent], failures := fun _ => none }

/-- A check on demand that the agent does not answer. -/
def fails : HealthEvent := .healthCheck (UUID.ofNat 1) { now := 0, response := .error "timeout" }

/-- The agent is deleted and checked four times. -/
def deleted : List HealthEvent := .deleteAgent (UUID.ofNat 1) :: List.replicate 4 fails

end HealthExample

open HealthExample in
/-- The fifth check takes the deleted agent from INACTIVE to SUSPENDED. -/
theorem movesLawfully_fails : ¬∀ start events, MovesLawfully start events := by
  intro h
  let before := Transition.after HealthEvent.run start deleted
  have hstep : (before, fails) ∈ Transition.steps HealthEvent.run start (deleted ++ [fails]) := by
    rw [Transition.steps_append]
    exact List.mem_append_right _ (List.mem_singleton_self _)
  have hbefore : before.status? (UUID.ofNat 1) = some .inactive := by decide +kernel
  have hafter : (fails.run before).status? (UUID.ofNat 1) = some .suspended := by decide +kernel
  obtain ⟨new, hnew, hmove⟩ := h start (deleted ++ [fails]) _ hstep trivial (UUID.ofNat 1)
    .inactive hbefore
  rw [hafter] at hnew
  cases hnew
  revert hmove
  decide

end MassClaw
