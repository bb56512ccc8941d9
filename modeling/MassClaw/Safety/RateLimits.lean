import Mathlib.Data.Rat.Floor
import MassClaw.Core.Basic
import MassClaw.Identity.Canonicalize
import MassClaw.Lib.Keyed
import MassClaw.Lib.SlidingWindow
import MassClaw.Safety.Registry

/-!
# The rate limits, `app/middleware/rate_limit.py` and `app/safety/rules/rate_limit_per_tool.py`

Both limiters keep a sorted set for each key in Redis and count its members in
one pipeline.  The middleware makes a member of the clock reading alone, the
rule of the reading in milliseconds and the task.  Requests with one member
count as one request: all of them find the same number of members, and each is
let through.

`windowBounded_of_counted` is the bound for runs in which every request that
finds its own member finds the limit exhausted as well.
-/

namespace MassClaw

/-- What becomes of a pipeline: it executes, or it raises, before or after
Redis has executed it. -/
inductive Pipeline
  | executes | failsBefore | failsAfter
  deriving DecidableEq

/-- The sorted sets in Redis. -/
abbrev SortedSets (τ : Type) := String → SlidingWindow.Store String τ

/-! ## The middleware -/

namespace RateLimitMiddleware

/-- `EXEMPT_PATHS`. -/
def exemptPaths : List String :=
  ["/health", "/metrics", "/ready", "/api/v1/workflows/\x7bid\x7d/stream",
    "/.well-known/agent-facts.json"]

/-- `EXEMPT_PREFIXES`. -/
def exemptPrefixes : List String :=
  ["/api/v1/workflows/", "/api/v1/tasks/", "/api/v1/wallet/", "/api/v1/memory/sync/",
    "/api/v1/demo/"]

/-- The settings of the limiter. -/
structure Settings where
  rateLimitRequests : Nat := 100
  rateLimitWindowSeconds : Nat := 60
  rateLimitFailOpen : Bool := false

/-- A request, with the reading of the clock and what becomes of its pipeline. -/
structure Request where
  path : String
  method : String
  client : Option String
  apiKey : Option String
  now : ℚ
  pipeline : Pipeline := .executes

/-- The response: that of the application, or one of the middleware. -/
inductive Response
  | next
  | json (statusCode : Nat) (errorCode detail : String) (retryAfter : Option Nat)
  deriving DecidableEq

/-- The request is not limited. -/
def isExempt (request : Request) : Bool :=
  request.path ∈ exemptPaths || request.method == "OPTIONS" ||
    exemptPrefixes.any (fun prefixed => prefixed.toList.isPrefixOf request.path.toList)

/-- `key_id`. -/
def keyId (request : Request) : String :=
  let clientIp := request.client.getD "unknown"
  match request.apiKey with
  | none => clientIp
  | some apiKey => if apiKey = "" then clientIp else String.ofList (apiKey.toList.take 16)

/-- `redis_key`, for a request that is limited. -/
def redisKey? (request : Request) : Option String :=
  if isExempt request then none else some ("rate_limit:" ++ keyId request)

/-- The answer of the limiter, from the sorted set that the request meets. -/
def respond (settings : Settings) (store : SlidingWindow.Store String ℚ) (request : Request) :
    Response :=
  match request.pipeline with
  | .executes =>
    let requestCount := (store.current settings.rateLimitWindowSeconds request.now).length
    if requestCount ≥ settings.rateLimitRequests then
      let retryAfter := settings.rateLimitWindowSeconds
      .json 429 "RATE_LIMITED" s!"Rate limit exceeded. Retry after {retryAfter} seconds."
        (some retryAfter)
    else .next
  | _ =>
    if settings.rateLimitFailOpen then .next
    else .json 503 "SERVICE_UNAVAILABLE"
      "Rate limiting service unavailable. Please retry later." none

variable (host : Host) (settings : Settings)

/-- The limiter of one key. -/
def limiter : SlidingWindow.Limiter Request String ℚ where
  limit := settings.rateLimitRequests
  window := settings.rateLimitWindowSeconds
  ttl := settings.rateLimitWindowSeconds
  now := Request.now
  member request := host.repr (.float (.finite request.now))
  counts request := request.pipeline ≠ .failsBefore
  passes store request := respond settings store request = .next

/-- `dispatch`. -/
def dispatch (sets : SortedSets ℚ) (request : Request) : Response × SortedSets ℚ :=
  match redisKey? request with
  | none => (.next, sets)
  | some redisKey =>
    (respond settings (sets redisKey) request,
      Function.update sets redisKey ((limiter host settings).step (sets redisKey) request))

/-- The sorted sets after a request. -/
def afterRequest (sets : SortedSets ℚ) (request : Request) : SortedSets ℚ :=
  (dispatch host settings sets request).2

/-- Each request of a run with the sets that it meets. -/
abbrev requestSteps (requests : List Request) : List (SortedSets ℚ × Request) :=
  Transition.steps (afterRequest host settings) (fun _ => {}) requests

/-- The request has the key, is let through, and falls into the window that
ends at the deadline. -/
def passedIn (redisKey : String) (deadline : ℚ) (step : SortedSets ℚ × Request) : Bool :=
  redisKey? step.2 = some redisKey ∧ (dispatch host settings step.1 step.2).1 = .next ∧
    deadline - settings.rateLimitWindowSeconds < step.2.now ∧ step.2.now ≤ deadline

/-- At most the configured number of requests of each key is let through in
any window of the configured length. -/
def WindowBounded (requests : List Request) : Prop :=
  ∀ redisKey deadline,
    (requestSteps host settings requests).countP (passedIn host settings redisKey deadline) ≤
      settings.rateLimitRequests

/-- The request is exempt, or its pipeline executes and its member is in the
set only if the set has the limit of members; a pipeline that raises is
refused. -/
def Counted (step : SortedSets ℚ × Request) : Prop :=
  match redisKey? step.2, step.2.pipeline with
  | none, _ => True
  | some redisKey, .executes =>
    let current := (step.1 redisKey).current (settings.rateLimitWindowSeconds : ℚ) step.2.now
    host.repr (.float (.finite step.2.now)) ∈ Assoc.keys current →
      settings.rateLimitRequests ≤ current.length
  | some _, _ => settings.rateLimitFailOpen = false

instance (step : SortedSets ℚ × Request) : Decidable (Counted host settings step) := by
  unfold Counted
  split
  all_goals infer_instance

variable {host settings}

theorem afterRequest_eq : afterRequest host settings =
    Transition.keyed redisKey? (limiter host settings).step := by
  funext sets request
  unfold afterRequest dispatch Transition.keyed
  cases redisKey? request with
  | none => rfl
  | some redisKey => rfl

/-- Under the condition a request that is let through is counted. -/
theorem counted {sets : SortedSets ℚ} {request : Request} {redisKey : String}
    (hkey : redisKey? request = some redisKey) (h : Counted host settings (sets, request)) :
    (limiter host settings).Counted (sets redisKey, request) := by
  intro hpasses
  have hnext : respond settings (sets redisKey) request = .next := by simpa [limiter] using hpasses
  unfold Counted at h
  unfold respond at hnext
  rw [hkey] at h
  cases hpipeline : request.pipeline with
  | executes =>
    rw [hpipeline] at hnext h
    dsimp only at hnext h
    by_cases hfull : settings.rateLimitRequests ≤
        ((sets redisKey).current (settings.rateLimitWindowSeconds : ℚ) request.now).length
    · rw [if_pos hfull] at hnext
      cases hnext
    · refine ⟨by simp [limiter, hpipeline], Nat.lt_of_not_le hfull, ?_⟩
      intro hmember
      exact hfull (h hmember)
  | failsBefore =>
    rw [hpipeline] at hnext h
    dsimp only at hnext h
    rw [h] at hnext
    cases hnext
  | failsAfter =>
    rw [hpipeline] at hnext h
    dsimp only at hnext h
    rw [h] at hnext
    cases hnext

/-- The middleware keeps its bound under the condition. -/
theorem windowBounded {requests : List Request}
    (hsorted : requests.Pairwise (fun a b => a.now ≤ b.now))
    (hcounted : ∀ step ∈ requestSteps host settings requests, Counted host settings step) :
    WindowBounded host settings requests := by
  intro redisKey deadline
  have hcounts : ∀ step ∈ Transition.steps
      (Transition.keyed redisKey? (limiter host settings).step) (fun _ => {}) requests,
      ∀ key, redisKey? step.2 = some key →
        (limiter host settings).Counted (step.1 key, step.2) := by
    intro step hstep key hkey
    rw [← afterRequest_eq] at hstep
    exact counted hkey (hcounted step hstep)
  have hbound := SlidingWindow.Limiter.keyed_passed_le_limit redisKey?
    (le_refl (limiter host settings).window) hsorted hcounts redisKey deadline
  rw [← afterRequest_eq] at hbound
  refine le_trans (le_of_eq (List.countP_congr fun step _ => ?_)) hbound
  unfold passedIn dispatch
  by_cases hkey : redisKey? step.2 = some redisKey
  · simp [hkey, SlidingWindow.Limiter.passedIn, limiter]
  · simp [hkey]

end RateLimitMiddleware

/-! ## The rule -/

namespace RateLimitPerTool

open Policy

/-- `RULE_ID`. -/
def ruleId : String := "rate_limit_per_tool"

/-- What the rule reads of its context, with the reading of the clock in seconds
and what becomes of the pipeline. -/
structure ToolCall where
  agentId : Option UUID
  toolName : Option String
  taskId : Option UUID := none
  hasRedis : Bool := true
  extra : List (String × Json) := []
  time : ℚ
  pipeline : Pipeline := .executes

/-- `int(x)` of a finite number, towards zero. -/
def truncate (x : ℚ) : Int := if 0 ≤ x then ⌊x⌋ else ⌈x⌉

/-- `int(value)`; `none` is the exception. -/
def pyInt (host : Host) : Json → Option Int
  | .int n => some n
  | .bool b => some (if b then 1 else 0)
  | .float (.finite x) => some (truncate x)
  | .str s => host.parseInt? s
  | _ => none

/-- `now_ms`. -/
def nowMs (call : ToolCall) : Int := truncate (call.time * 1000)

/-- The member of the call. -/
def member (call : ToolCall) : String :=
  let taskId := (call.taskId.map UUID.str).getD "na"
  s!"{nowMs call}-{taskId}"

/-- `_key`. -/
def key (agentId : UUID) (toolName : String) : String :=
  s!"policy:rate_limit:{agentId.str}:{toolName}"

/-- `capacity` and `window_s`; `none` is the exception of a conversion. -/
def limits? (host : Host) (call : ToolCall) : Option (Int × Int) := do
  let capacity ← pyInt host (Json.getD call.extra "rate_limit_capacity" (.int 20))
  let windowS ← pyInt host (Json.getD call.extra "rate_limit_window_seconds" (.int 60))
  return (capacity, windowS)

/-- `Decision.abstain`. -/
def abstain : RuleOutcome := .decision { action := .abstain, ruleId := some ruleId }

/-- The verdict on a call that finds so many members. -/
def decide (host : Host) (agentId : UUID) (toolName : String) (capacity windowS : Int)
    (countBefore : Nat) : RuleOutcome :=
  let countAfter := countBefore + 1
  if countAfter > capacity then
    .decision
      { action := .deny, ruleId := some ruleId
        reason := s!"agent {agentId.str} exceeded {capacity} calls to " ++
          s!"{host.repr (.str toolName)} in {windowS}s window (observed {countAfter})"
        metadata := [("count_in_window", .int countAfter), ("capacity", .int capacity),
          ("window_seconds", .int windowS)] }
  else
    .decision
      { action := .allow, ruleId := some ruleId
        reason := s!"{countAfter}/{capacity} calls in {windowS}s window"
        metadata := [("count_in_window", .int countAfter), ("capacity", .int capacity)] }

/-- `rate_limit_per_tool`. -/
def rateLimitPerTool (host : Host) (sets : SortedSets Int) (call : ToolCall) :
    RuleOutcome × SortedSets Int :=
  match call.toolName, call.agentId, call.hasRedis with
  | some toolName, some agentId, true =>
    match limits? host call with
    | none => (.crash "int() failed", sets)
    | some (capacity, windowS) =>
      if capacity ≤ 0 ∨ windowS ≤ 0 then (abstain, sets)
      else
        let key := key agentId toolName
        let store := sets key
        let added := store.add (windowS * 1000) (windowS * 2 * 1000) (nowMs call) (member call)
        match call.pipeline with
        | .executes =>
          (decide host agentId toolName capacity windowS
            (store.current (windowS * 1000) (nowMs call)).length,
            Function.update sets key added)
        | .failsBefore => (abstain, sets)
        | .failsAfter => (abstain, Function.update sets key added)
  | _, _, _ => (abstain, sets)

/-- The key of a call that the rule looks at. -/
def key? (call : ToolCall) : Option String :=
  match call.toolName, call.agentId with
  | some toolName, some agentId => some (key agentId toolName)
  | _, _ => none

/-- The outcome denies the call. -/
def denies : RuleOutcome → Bool
  | .decision verdict => verdict.action = .deny
  | _ => false

variable (host : Host) (capacity windowS : Int)

/-- The limiter of one agent and tool with a capacity and a window. -/
def limiter : SlidingWindow.Limiter ToolCall String Int where
  limit := capacity.toNat
  window := windowS * 1000
  ttl := windowS * 2 * 1000
  now := nowMs
  member := member
  counts call := call.pipeline ≠ .failsBefore
  passes store call := call.pipeline = .executes →
    (store.current (windowS * 1000) (nowMs call)).length + 1 ≤ capacity

/-- The sorted sets after a call. -/
def afterCall (sets : SortedSets Int) (call : ToolCall) : SortedSets Int :=
  (rateLimitPerTool host sets call).2

/-- Each call of a run with the sets that it meets. -/
abbrev callSteps (calls : List ToolCall) : List (SortedSets Int × ToolCall) :=
  Transition.steps (afterCall host) (fun _ => {}) calls

/-- The agent calls the tool, is not denied, and the clock of the rule is in
the window that ends at the deadline. -/
def passedIn (agentId : UUID) (toolName : String) (deadline : Int)
    (step : SortedSets Int × ToolCall) : Bool :=
  step.2.agentId = some agentId ∧ step.2.toolName = some toolName ∧
    denies (rateLimitPerTool host step.1 step.2).1 = false ∧
    deadline - windowS * 1000 < nowMs step.2 ∧ nowMs step.2 ≤ deadline

/-- At most the configured number of calls of a tool by an agent is let through
in any window of the configured length. -/
def WindowBounded (calls : List ToolCall) : Prop :=
  ∀ agentId toolName deadline,
    ((callSteps host calls).countP (passedIn host windowS agentId toolName deadline) : Int) ≤
      capacity

/-- The rule does not look at the call, or the call carries the configured
limits, its pipeline executes, and its member is in the set only if the set has
as many members as the capacity. -/
def Counted (step : SortedSets Int × ToolCall) : Prop :=
  match key? step.2 with
  | none => True
  | some key =>
    let current := (step.1 key).current (windowS * 1000) (nowMs step.2)
    step.2.hasRedis = true ∧ limits? host step.2 = some (capacity, windowS) ∧
      step.2.pipeline = .executes ∧
      (member step.2 ∈ Assoc.keys current → capacity ≤ current.length)

instance (step : SortedSets Int × ToolCall) : Decidable (Counted host capacity windowS step) := by
  unfold Counted
  split
  all_goals infer_instance

variable {host capacity windowS}

theorem truncate_le {x y : ℚ} (h : x ≤ y) : truncate x ≤ truncate y := by
  unfold truncate
  by_cases hx : 0 ≤ x
  · rw [if_pos hx, if_pos (hx.trans h)]
    exact Int.floor_le_floor h
  · rw [if_neg hx]
    split
    · rename_i hy
      exact (Int.ceil_le.2 (by exact_mod_cast (not_le.1 hx).le)).trans (Int.floor_nonneg.2 hy)
    · exact Int.ceil_le_ceil h

theorem nowMs_le {a b : ToolCall} (h : a.time ≤ b.time) : nowMs a ≤ nowMs b :=
  truncate_le (mul_le_mul_of_nonneg_right h (by norm_num))

theorem key?_eq_some {call : ToolCall} {redisKey : String} (h : key? call = some redisKey) :
    ∃ agentId toolName, call.agentId = some agentId ∧ call.toolName = some toolName ∧
      redisKey = key agentId toolName := by
  unfold key? at h
  split at h
  · rename_i toolName agentId htool hagent
    cases h
    exact ⟨agentId, toolName, hagent, htool, rfl⟩
  · cases h

theorem denies_decide (agentId : UUID) (toolName : String) (count : Nat) :
    denies (decide host agentId toolName capacity windowS count) =
      Decidable.decide (capacity < count + 1) := by
  unfold decide
  dsimp only
  split
  · rename_i h
    simpa [denies] using h
  · rename_i h
    simpa [denies] using h

/-- A call that the rule looks at, with the configured limits. -/
theorem rateLimitPerTool_eq (hcapacity : 0 < capacity) (hwindow : 0 < windowS)
    {sets : SortedSets Int} {call : ToolCall} {agentId : UUID} {toolName : String}
    (hagent : call.agentId = some agentId) (htool : call.toolName = some toolName)
    (hredis : call.hasRedis = true) (hlimits : limits? host call = some (capacity, windowS))
    (hpipeline : call.pipeline = .executes) :
    rateLimitPerTool host sets call =
      (decide host agentId toolName capacity windowS
          ((sets (key agentId toolName)).current (windowS * 1000) (nowMs call)).length,
        Function.update sets (key agentId toolName)
          ((limiter capacity windowS).step (sets (key agentId toolName)) call)) := by
  have hnot : ¬(capacity ≤ 0 ∨ windowS ≤ 0) := by omega
  unfold rateLimitPerTool SlidingWindow.Limiter.step
  simp [hagent, htool, hredis, hlimits, hpipeline, hnot, limiter]

/-- A call that the rule does not look at. -/
theorem rateLimitPerTool_of_none {sets : SortedSets Int} {call : ToolCall}
    (h : key? call = none) : rateLimitPerTool host sets call = (abstain, sets) := by
  unfold key? at h
  unfold rateLimitPerTool
  split at h
  · cases h
  · rename_i hnone
    split
    · rename_i toolName agentId htool hagent _
      exact absurd hagent (hnone toolName agentId htool)
    · rfl

/-- Under the condition a call takes the step of its limiter. -/
theorem afterCall_eq (hcapacity : 0 < capacity) (hwindow : 0 < windowS)
    {step : SortedSets Int × ToolCall} (h : Counted host capacity windowS step) :
    afterCall host step.1 step.2 =
      Transition.keyed key? (limiter capacity windowS).step step.1 step.2 := by
  unfold afterCall Transition.keyed
  unfold Counted at h
  cases hkey : key? step.2 with
  | none => rw [rateLimitPerTool_of_none hkey]
  | some redisKey =>
    rw [hkey] at h
    obtain ⟨hredis, hlimits, hpipeline, -⟩ := h
    obtain ⟨agentId, toolName, hagent, htool, rfl⟩ := key?_eq_some hkey
    rw [rateLimitPerTool_eq hcapacity hwindow hagent htool hredis hlimits hpipeline]

/-- Under the condition a call that is let through is counted. -/
theorem counted {sets : SortedSets Int} {call : ToolCall} {redisKey : String}
    (hkey : key? call = some redisKey) (h : Counted host capacity windowS (sets, call)) :
    (limiter capacity windowS).Counted (sets redisKey, call) := by
  intro hpasses
  unfold Counted at h
  dsimp only at h
  rw [hkey] at h
  obtain ⟨-, -, hpipeline, hmember⟩ := h
  have hbelow : (((sets redisKey).current (windowS * 1000) (nowMs call)).length : Int) + 1 ≤
      capacity := by
    have himp := of_decide_eq_true hpasses
    exact himp hpipeline
  refine ⟨by simp [limiter, hpipeline], ?_, ?_⟩
  · have hlt : ((sets redisKey).current (windowS * 1000) (nowMs call)).length <
        capacity.toNat := by omega
    exact hlt
  · intro hmem
    have hfull := hmember hmem
    omega

/-- The rule keeps its bound under the condition. -/
theorem windowBounded (hcapacity : 0 < capacity) (hwindow : 0 < windowS) {calls : List ToolCall}
    (hsorted : calls.Pairwise (fun a b => a.time ≤ b.time))
    (hcounted : ∀ step ∈ callSteps host calls, Counted host capacity windowS step) :
    WindowBounded host capacity windowS calls := by
  intro agentId toolName deadline
  have hsteps : callSteps host calls = Transition.steps
      (Transition.keyed key? (limiter capacity windowS).step) (fun _ => {}) calls :=
    Transition.steps_congr fun step hstep => afterCall_eq hcapacity hwindow (hcounted step hstep)
  have hcounts : ∀ step ∈ Transition.steps
      (Transition.keyed key? (limiter capacity windowS).step) (fun _ => {}) calls,
      ∀ redisKey, key? step.2 = some redisKey →
        (limiter capacity windowS).Counted (step.1 redisKey, step.2) := by
    intro step hstep redisKey hkey
    rw [← hsteps] at hstep
    exact counted hkey (hcounted step hstep)
  have httl : (limiter capacity windowS).window ≤ (limiter capacity windowS).ttl := by
    show windowS * 1000 ≤ windowS * 2 * 1000
    omega
  have hbound := SlidingWindow.Limiter.keyed_passed_le_limit key? httl
    (hsorted.imp fun h => nowMs_le h) hcounts (key agentId toolName) deadline
  rw [← hsteps] at hbound
  have hle : (callSteps host calls).countP (passedIn host windowS agentId toolName deadline) ≤
      capacity.toNat := by
    refine le_trans (List.countP_mono_left fun step hstep hpassed => ?_) hbound
    have hstepCounted := hcounted step hstep
    simp only [passedIn, decide_eq_true_eq] at hpassed
    obtain ⟨hagent, htool, hallowed, hafter, hbefore⟩ := hpassed
    have hkey : key? step.2 = some (key agentId toolName) := by simp [key?, hagent, htool]
    unfold Counted at hstepCounted
    rw [hkey] at hstepCounted
    obtain ⟨hredis, hlimits, hpipeline, -⟩ := hstepCounted
    rw [rateLimitPerTool_eq hcapacity hwindow hagent htool hredis hlimits hpipeline,
      denies_decide, decide_eq_false_iff_not, not_lt] at hallowed
    simp only [hkey, decide_true, Bool.true_and, SlidingWindow.Limiter.passedIn, limiter,
      decide_eq_true_eq]
    exact ⟨fun _ => hallowed, hafter, hbefore⟩
  omega

end RateLimitPerTool

/-! ## Both limiters -/

namespace RateLimits

/-- When every request and every call of a run meets its condition, both
limiters keep their bounds. -/
theorem windowBounded_of_counted (host : Host) (settings : RateLimitMiddleware.Settings)
    (requests : List RateLimitMiddleware.Request) (capacity windowS : Int)
    (calls : List RateLimitPerTool.ToolCall)
    (hrequests : requests.Pairwise (fun a b => a.now ≤ b.now))
    (hcounted : ∀ step ∈ RateLimitMiddleware.requestSteps host settings requests,
      RateLimitMiddleware.Counted host settings step)
    (hcapacity : 0 < capacity) (hwindow : 0 < windowS)
    (hcalls : calls.Pairwise (fun a b => a.time ≤ b.time))
    (hcalled : ∀ step ∈ RateLimitPerTool.callSteps host calls,
      RateLimitPerTool.Counted host capacity windowS step) :
    RateLimitMiddleware.WindowBounded host settings requests ∧
      RateLimitPerTool.WindowBounded host capacity windowS calls :=
  ⟨RateLimitMiddleware.windowBounded hrequests hcounted,
    RateLimitPerTool.windowBounded hcapacity hwindow hcalls hcalled⟩

/-- A host that writes the readings zero and one. -/
def host : Host :=
  { Host.lengths with
    repr := fun
      | .float (.finite now) => if now = 0 then "0.0" else "1.0"
      | _ => "" }

/-- Two requests in a minute. -/
def settings : RateLimitMiddleware.Settings := { rateLimitRequests := 2 }

/-- A request at a reading of the clock. -/
def requestAt (now : ℚ) : RateLimitMiddleware.Request :=
  { path := "/api/v1/agents", method := "GET", client := some "10.0.0.1", apiKey := none, now }

/-- A call at a reading of the clock, with a capacity of two in a minute. -/
def callAt (time : ℚ) : RateLimitPerTool.ToolCall :=
  { agentId := some (UUID.ofNat 1), toolName := some "web_search", time
    extra := [("rate_limit_capacity", .int 2)] }

theorem windowBounded_apart :
    RateLimitMiddleware.WindowBounded host settings [requestAt 0, requestAt 1] ∧
      RateLimitPerTool.WindowBounded host 2 60 [callAt 0, callAt 1] :=
  windowBounded_of_counted host settings _ 2 60 _ (by decide +kernel) (by decide +kernel)
    (by decide) (by decide) (by decide +kernel) (by decide +kernel)

/-- Three requests, and three calls, at one reading of the clock are all let
through where two is the limit. -/
theorem windowBounded_fails :
    ((List.replicate 3 (requestAt 0)).Pairwise (fun a b => a.now ≤ b.now) ∧
      ¬ RateLimitMiddleware.WindowBounded host settings (List.replicate 3 (requestAt 0))) ∧
    ((List.replicate 3 (callAt 0)).Pairwise (fun a b => a.time ≤ b.time) ∧
      ¬ RateLimitPerTool.WindowBounded host 2 60 (List.replicate 3 (callAt 0))) := by
  refine ⟨⟨by decide +kernel, ?_⟩, by decide +kernel, ?_⟩
  · intro hbounded
    have hcount := hbounded "rate_limit:10.0.0.1" 0
    revert hcount
    decide +kernel
  · intro hbounded
    have hcount := hbounded (UUID.ofNat 1) "web_search" 0
    revert hcount
    decide +kernel

end RateLimits

end MassClaw
