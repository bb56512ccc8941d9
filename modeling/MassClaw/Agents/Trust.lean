import Mathlib.Analysis.SpecialFunctions.Log.Basic
import Mathlib.Analysis.SpecialFunctions.Pow.Real
import MassClaw.Scheduler.Selector

/-!
# Trust scores and their decay, `app/services/trust_service.py`

`record_trust_event` folds a composite score into the trust of an agent, after
the old trust has decayed by a power in the hours since the last event of the
agent.  `decay_all_scores` runs between the events and applies the same power to
the stored score.  Neither moves the time that the hours are counted from, so
every run that changes a score counts the same hours once more.

The numbers are those of an ordered field, with `math.pow` and `math.log` as
parameters; the results are about the real numbers.
-/

namespace MassClaw

/-- `math.pow` and `math.log`. -/
structure MathFunctions (K : Type) where
  pow : K → K → K
  log : K → K

/-- `trust_score_weights`. -/
structure TrustScoreWeights (K : Type) where
  quality : K
  speed : K
  cost : K
  consistency : K
  reliability : K

/-- The settings of the service. -/
structure TrustSettings (K : Type) where
  trustScoreWeights : TrustScoreWeights K
  trustLearningRate : K
  trustDecayRate : K
  trustDecayIntervalHours : Int

/-- `TrustScoreInput`. -/
structure TrustScoreInput (K : Type) where
  qualityScore : K
  latencyScore : K
  costScore : K
  consistencyScore : K
  reliabilityScore : K

/-- A row of `agents` as the service reads it. -/
structure TrustedAgent (K : Type) where
  agentId : UUID
  status : AgentStatus
  trustScore : K

/-- A row of `trust_events`. -/
structure TrustEvent (K : Type) where
  agentId : UUID
  workflowId : Option UUID
  taskId : Option UUID
  scores : TrustScoreInput K
  compositeScore : K
  oldTrust : K
  newTrust : K
  createdAt : Time

/-- The two tables. -/
structure TrustDb (K : Type) where
  agents : List (TrustedAgent K)
  events : List (TrustEvent K)

namespace TrustService

section Model

variable {K : Type} [Field K] [LinearOrder K] (math : MathFunctions K) (settings : TrustSettings K)

/-- `TRUST_FLOOR`. -/
def trustFloor : K := 1 / 100

/-- `TRUST_CEILING`. -/
def trustCeiling : K := 99 / 100

/-- `_hours_since_last_event`. -/
def hoursSinceLastEvent (events : List (TrustEvent K)) (agentId : UUID) (now : Time) : K :=
  match ((events.filter (fun event => event.agentId = agentId)).map TrustEvent.createdAt).max? with
  | none => 0
  | some last => ((now - last : Int) : K) / 3600000000

/-- `math.pow(1.0 - decay_rate, hours / max(decay_interval, 1))`. -/
def decayFactor (hours : K) : K :=
  math.pow (1 - settings.trustDecayRate) (hours / (max settings.trustDecayIntervalHours 1 : Int))

/-- `decayed_trust` of `record_trust_event`. -/
def decayedTrust (events : List (TrustEvent K)) (agent : TrustedAgent K) (now : Time) : K :=
  agent.trustScore * decayFactor math settings (hoursSinceLastEvent events agent.agentId now)

/-- The composite score. -/
def composite (scores : TrustScoreInput K) : K :=
  settings.trustScoreWeights.quality * scores.qualityScore
    + settings.trustScoreWeights.speed * scores.latencyScore
    + settings.trustScoreWeights.cost * scores.costScore
    + settings.trustScoreWeights.consistency * scores.consistencyScore
    + settings.trustScoreWeights.reliability * scores.reliabilityScore

/-- `select(Agent).where(Agent.agent_id == agent_id)`. -/
def agent? (db : TrustDb K) (agentId : UUID) : Option (TrustedAgent K) :=
  db.agents.find? (fun agent => agent.agentId = agentId)

/-- Assign to attributes of a row. -/
def updateAgent (db : TrustDb K) (agentId : UUID) (f : TrustedAgent K → TrustedAgent K) :
    TrustDb K :=
  { db with agents := db.agents.map (fun agent =>
      if agent.agentId = agentId then f agent else agent) }

/-- `record_trust_event`; `none` is the `NotFoundError`.  The database dates the
event. -/
def recordTrustEvent (db : TrustDb K) (agentId : UUID) (scores : TrustScoreInput K)
    (workflowId taskId : Option UUID) (now createdAt : Time) :
    Option (TrustEvent K × TrustDb K) :=
  (agent? db agentId).map (fun agent =>
    let composite := composite settings scores
    let totalInteractions := (db.events.filter (fun event => event.agentId = agentId)).length
    let alpha := settings.trustLearningRate / (1 + math.log (1 + totalInteractions))
    let decayed := decayedTrust math settings db.events agent now
    let newTrust := max trustFloor (min trustCeiling ((1 - alpha) * decayed + alpha * composite))
    let event : TrustEvent K :=
      { agentId, workflowId, taskId, scores, createdAt, newTrust
        compositeScore := composite
        oldTrust := agent.trustScore }
    let db := updateAgent db agentId (fun agent => { agent with trustScore := newTrust })
    (event, { db with events := db.events ++ [event] }))

/-- The score that a run of `decay_all_scores` assigns to an agent it has
selected, if it assigns one. -/
def newScore? (events : List (TrustEvent K)) (agent : TrustedAgent K) (now : Time) : Option K :=
  let hours := hoursSinceLastEvent events agent.agentId now
  if hours < settings.trustDecayIntervalHours then none
  else
    let newTrust := max trustFloor (agent.trustScore * decayFactor math settings hours)
    if |newTrust - agent.trustScore| > 1 / 10000 then some newTrust else none

/-- The rows that a run selects: ACTIVE or DEGRADED, and not locked by another
transaction. -/
def isSelected (locked : UUID → Bool) (agent : TrustedAgent K) : Bool :=
  (agent.status = .active || agent.status = .degraded) && !locked agent.agentId

/-- A run of `decay_all_scores` on one row. -/
def decayScore (events : List (TrustEvent K)) (now : Time) (locked : UUID → Bool)
    (agent : TrustedAgent K) : TrustedAgent K :=
  if isSelected locked agent then
    { agent with trustScore :=
        (newScore? math settings events agent now).getD agent.trustScore }
  else agent

/-- `decay_all_scores`, with the number of agents that have decayed. -/
def decayAllScores (db : TrustDb K) (now : Time) (locked : UUID → Bool) : Nat × TrustDb K :=
  (((db.agents.filter (isSelected locked)).filter (fun agent =>
      (newScore? math settings db.events agent now).isSome)).length,
    { db with agents := db.agents.map (decayScore math settings db.events now locked) })

/-! ## Between two events of an agent -/

/-- What happens between two events of an agent: runs of `decay_all_scores`, and
changes of status by other services. -/
inductive Step
  | decayAllScores (now : Time) (locked : UUID → Bool)
  | setStatus (agentId : UUID) (status : AgentStatus)

/-- The tables after a step. -/
def Step.run (db : TrustDb K) : Step → TrustDb K
  | decayAllScores now locked => (TrustService.decayAllScores math settings db now locked).2
  | setStatus agentId status => updateAgent db agentId (fun agent => { agent with status })

/-- The tables after some steps. -/
def runAll (db : TrustDb K) (steps : List Step) : TrustDb K :=
  steps.foldl (Step.run math settings) db

/-- A run of `decay_all_scores` leaves the score as it is: it does not select the
agent, the last event is more recent than the interval, or the score would change
by one in ten thousand at most. -/
def LeavesScore (events : List (TrustEvent K)) (agent : TrustedAgent K) (now : Time)
    (locked : UUID → Bool) : Prop :=
  let hours := hoursSinceLastEvent events agent.agentId now
  isSelected locked agent = true → settings.trustDecayIntervalHours ≤ hours →
    |max trustFloor (agent.trustScore * decayFactor math settings hours) - agent.trustScore| ≤
      1 / 10000

/-- Every run of `decay_all_scores` leaves the score of the agent. -/
def Undisturbed (events : List (TrustEvent K)) (agent : TrustedAgent K) : List Step → Prop
  | [] => True
  | .decayAllScores now locked :: rest =>
    LeavesScore math settings events agent now locked ∧ Undisturbed events agent rest
  | .setStatus agentId status :: rest =>
    Undisturbed events (if agent.agentId = agentId then { agent with status } else agent) rest

end Model

/-! ## One agent -/

section Agent

variable {K : Type} [Field K] [LinearOrder K] {math : MathFunctions K} {settings : TrustSettings K}
  {events : List (TrustEvent K)}

/-- What a step does to one row. -/
def Step.onAgent (math : MathFunctions K) (settings : TrustSettings K)
    (events : List (TrustEvent K)) (agent : TrustedAgent K) : Step → TrustedAgent K
  | decayAllScores now locked => decayScore math settings events now locked agent
  | setStatus agentId status => if agent.agentId = agentId then { agent with status } else agent

@[simp] theorem agentId_decayScore (agent : TrustedAgent K) (now : Time) (locked : UUID → Bool) :
    (decayScore math settings events now locked agent).agentId = agent.agentId := by
  unfold decayScore
  split <;> rfl

@[simp] theorem agentId_onAgent (agent : TrustedAgent K) (step : Step) :
    (step.onAgent math settings events agent).agentId = agent.agentId := by
  cases step with
  | decayAllScores now locked => exact agentId_decayScore agent now locked
  | setStatus agentId status =>
    unfold Step.onAgent
    dsimp only
    split <;> rfl

@[simp] theorem events_run (db : TrustDb K) (step : Step) :
    (step.run math settings db).events = db.events := by
  cases step <;> rfl

/-- A step takes the rows one by one. -/
theorem agents_run (db : TrustDb K) (step : Step) : (step.run math settings db).agents =
    db.agents.map (fun agent => step.onAgent math settings db.events agent) := by
  cases step <;> rfl

theorem agent?_run (db : TrustDb K) (step : Step) (agentId : UUID) :
    agent? (step.run math settings db) agentId =
      (agent? db agentId).map (fun agent => step.onAgent math settings db.events agent) := by
  have hsame : (fun agent : TrustedAgent K => decide (agent.agentId = agentId)) ∘
      (fun agent => step.onAgent math settings db.events agent) =
        fun agent => decide (agent.agentId = agentId) := by
    funext agent
    rw [Function.comp_apply, agentId_onAgent]
  rw [agent?, agents_run, List.find?_map, hsame]
  rfl

theorem agentId_foldl (steps : List Step) (agent : TrustedAgent K) :
    (steps.foldl (Step.onAgent math settings events) agent).agentId = agent.agentId := by
  induction steps generalizing agent with
  | nil => rfl
  | cons step rest ih => rw [List.foldl_cons, ih, agentId_onAgent]

/-- The steps change the row of an agent one after the other, and no event. -/
theorem agent?_runAll (db : TrustDb K) (steps : List Step) (agentId : UUID) :
    (runAll math settings db steps).events = db.events ∧
      agent? (runAll math settings db steps) agentId =
        (agent? db agentId).map (fun agent =>
          steps.foldl (Step.onAgent math settings db.events) agent) := by
  induction steps generalizing db with
  | nil =>
    refine ⟨rfl, ?_⟩
    rw [runAll, List.foldl_nil]
    simp
  | cons step rest ih =>
    obtain ⟨hevents, hagent⟩ := ih (step.run math settings db)
    rw [events_run] at hevents hagent
    refine ⟨hevents, hagent.trans ?_⟩
    rw [agent?_run, Option.map_map]
    rfl

/-! ## The floor -/

/-- No score is below the floor. -/
def AboveFloor (db : TrustDb K) : Prop := ∀ agent ∈ db.agents, trustFloor ≤ agent.trustScore

theorem le_newScore? {agent : TrustedAgent K} {now : Time} {score : K}
    (h : newScore? math settings events agent now = some score) : trustFloor ≤ score := by
  simp only [newScore?] at h
  split at h
  · cases h
  · split at h
    · cases h
      exact le_max_left _ _
    · cases h

theorem le_trustScore_onAgent {agent : TrustedAgent K} (h : trustFloor ≤ agent.trustScore)
    (step : Step) : trustFloor ≤ (step.onAgent math settings events agent).trustScore := by
  cases step with
  | setStatus agentId status =>
    rw [Step.onAgent]
    split <;> exact h
  | decayAllScores now locked =>
    rw [Step.onAgent, decayScore]
    split
    · cases hnew : newScore? math settings events agent now with
      | none => exact h
      | some score => exact le_newScore? hnew
    · exact h

/-- No run of steps takes a score below the floor. -/
theorem aboveFloor_runAll {db : TrustDb K} (h : AboveFloor db) (steps : List Step) :
    AboveFloor (runAll math settings db steps) := by
  induction steps generalizing db with
  | nil => exact h
  | cons step rest ih =>
    show AboveFloor (runAll math settings (step.run math settings db) rest)
    apply ih
    intro agent hagent
    rw [agents_run] at hagent
    obtain ⟨before, hbefore, rfl⟩ := List.mem_map.1 hagent
    exact le_trustScore_onAgent (h before hbefore) step

/-- A recorded event keeps the scores above the floor, and the new score between
the floor and the ceiling. -/
theorem aboveFloor_recordTrustEvent {db db' : TrustDb K} {agentId : UUID}
    {scores : TrustScoreInput K} {workflowId taskId : Option UUID} {now createdAt : Time}
    {event : TrustEvent K} (hceiling : (trustFloor : K) ≤ trustCeiling) (h : AboveFloor db)
    (hrecord : recordTrustEvent math settings db agentId scores workflowId taskId now createdAt =
      some (event, db')) :
    AboveFloor db' ∧ trustFloor ≤ event.newTrust ∧ event.newTrust ≤ trustCeiling := by
  obtain ⟨agent, -, hresult⟩ := Option.map_eq_some_iff.1 hrecord
  simp only [Prod.mk.injEq] at hresult
  obtain ⟨rfl, rfl⟩ := hresult
  refine ⟨?_, le_max_left _ _, max_le hceiling (min_le_left _ _)⟩
  intro after hafter
  obtain ⟨before, hbefore, rfl⟩ := List.mem_map.1 hafter
  dsimp only
  split
  · exact le_max_left _ _
  · exact h before hbefore

/-! ## Runs of the decay -/

/-- A run leaves the score exactly if it assigns none. -/
theorem leavesScore_iff (agent : TrustedAgent K) (now : Time) (locked : UUID → Bool) :
    LeavesScore math settings events agent now locked ↔
      (isSelected locked agent = true → newScore? math settings events agent now = none) := by
  unfold LeavesScore newScore?
  dsimp only
  constructor
  · intro h hselected
    split
    · rfl
    · rename_i hhours
      rw [if_neg (not_lt.2 (h hselected (not_lt.1 hhours)))]
  · intro h hselected hhours
    have hnone := h hselected
    rw [if_neg (not_lt.2 hhours)] at hnone
    by_contra hmoved
    rw [if_pos (not_le.1 hmoved)] at hnone
    cases hnone

/-- Where every new score is on one side of the old one, the score returns to its
value only if no run changes it. -/
theorem score_foldl {R : K → K → Prop} [IsTrans K R] [Std.Irrefl R]
    (hmove : ∀ (agent : TrustedAgent K) now score, trustFloor ≤ agent.trustScore →
      0 ≤ hoursSinceLastEvent events agent.agentId now →
      newScore? math settings events agent now = some score → R score agent.trustScore)
    (steps : List Step) (agent : TrustedAgent K) (hfloor : trustFloor ≤ agent.trustScore)
    (hafter : ∀ now locked, Step.decayAllScores now locked ∈ steps →
      0 ≤ hoursSinceLastEvent events agent.agentId now) :
    let score := (steps.foldl (Step.onAgent math settings events) agent).trustScore
    (score = agent.trustScore ∨ R score agent.trustScore) ∧
      (score = agent.trustScore ↔ Undisturbed math settings events agent steps) := by
  induction steps generalizing agent with
  | nil => exact ⟨Or.inl rfl, Iff.intro (fun _ => trivial) (fun _ => rfl)⟩
  | cons step rest ih =>
    have hrest : ∀ now locked, Step.decayAllScores now locked ∈ rest →
        0 ≤ hoursSinceLastEvent events agent.agentId now :=
      fun now locked hmem => hafter now locked (List.mem_cons_of_mem _ hmem)
    cases step with
    | setStatus agentId status =>
      rw [List.foldl_cons, Step.onAgent, Undisturbed]
      by_cases hid : agent.agentId = agentId
      · rw [if_pos hid]
        exact ih { agent with status } hfloor hrest
      · rw [if_neg hid]
        exact ih agent hfloor hrest
    | decayAllScores now locked =>
      rw [List.foldl_cons, Step.onAgent, Undisturbed, leavesScore_iff, decayScore]
      by_cases hselected : isSelected locked agent = true
      · rw [if_pos hselected]
        cases hnew : newScore? math settings events agent now with
        | none =>
          obtain ⟨hside, hundisturbed⟩ := ih agent hfloor hrest
          exact ⟨hside, hundisturbed.trans ⟨fun h => ⟨fun _ => rfl, h⟩, fun h => h.2⟩⟩
        | some score =>
          rw [Option.getD_some]
          have hscore : trustFloor ≤ score := le_newScore? hnew
          have hmoved := hmove agent now score hfloor (hafter now locked List.mem_cons_self) hnew
          have hside := (ih { agent with trustScore := score } hscore hrest).1
          have hfinal : R (rest.foldl (Step.onAgent math settings events)
              { agent with trustScore := score }).trustScore agent.trustScore := by
            rcases hside with heq | hlater
            · rw [heq]
              exact hmoved
            · exact IsTrans.trans _ _ _ hlater hmoved
          refine ⟨Or.inr hfinal, ?_⟩
          constructor
          · intro heq
            rw [heq] at hfinal
            exact absurd hfinal (irrefl _)
          · intro h
            cases h.1 hselected
      · rw [if_neg hselected]
        obtain ⟨hside, hundisturbed⟩ := ih agent hfloor hrest
        refine ⟨hside, hundisturbed.trans ?_⟩
        exact ⟨fun h => ⟨fun hcontra => absurd hcontra hselected, h⟩, fun h => h.2⟩

end Agent

/-! ## Real numbers -/

section Reals

/-- The functions on the real numbers. -/
noncomputable def realMath : MathFunctions ℝ where
  pow := (· ^ ·)
  log := Real.log

variable {settings : TrustSettings ℝ} {events : List (TrustEvent ℝ)}

theorem decayFactor_eq (hours : ℝ) : decayFactor realMath settings hours =
    (1 - settings.trustDecayRate) ^ (hours / (max settings.trustDecayIntervalHours 1 : Int)) := rfl

theorem exponent_nonneg {hours : ℝ} (h : 0 ≤ hours) :
    0 ≤ hours / (max settings.trustDecayIntervalHours 1 : Int) := by
  have hinterval : (0 : ℝ) ≤ (max settings.trustDecayIntervalHours 1 : Int) := by
    have hle : 0 ≤ max settings.trustDecayIntervalHours 1 := by omega
    exact_mod_cast hle
  exact div_nonneg h hinterval

/-- What a new score is. -/
theorem newScore?_eq_some {agent : TrustedAgent ℝ} {now : Time} {score : ℝ}
    (h : newScore? realMath settings events agent now = some score) :
    score = max trustFloor (agent.trustScore * decayFactor realMath settings
        (hoursSinceLastEvent events agent.agentId now)) ∧ score ≠ agent.trustScore := by
  unfold newScore? at h
  dsimp only at h
  split at h
  · cases h
  · split at h
    · rename_i hmoved
      cases h
      refine ⟨rfl, ?_⟩
      intro heq
      rw [heq, sub_self, abs_zero] at hmoved
      norm_num at hmoved
    · cases h

variable {agent : TrustedAgent ℝ} {now : Time} {score : ℝ}

theorem nonneg_of_floor (hfloor : trustFloor ≤ agent.trustScore) : 0 ≤ agent.trustScore := by
  have hpositive : (0 : ℝ) ≤ trustFloor := by norm_num [trustFloor]
  exact hpositive.trans hfloor

/-- A rate between 0 and 1 lowers the score. -/
theorem newScore?_lt (hnonneg : 0 ≤ settings.trustDecayRate) (hrate : settings.trustDecayRate ≤ 1)
    (hfloor : trustFloor ≤ agent.trustScore)
    (hhours : 0 ≤ hoursSinceLastEvent events agent.agentId now)
    (h : newScore? realMath settings events agent now = some score) :
    score < agent.trustScore := by
  obtain ⟨hscore, hne⟩ := newScore?_eq_some h
  have hfactor : decayFactor realMath settings
      (hoursSinceLastEvent events agent.agentId now) ≤ 1 := by
    rw [decayFactor_eq]
    exact Real.rpow_le_one (by linarith) (by linarith) (exponent_nonneg hhours)
  have hle : score ≤ agent.trustScore := by
    rw [hscore]
    exact max_le hfloor (mul_le_of_le_one_right (nonneg_of_floor hfloor) hfactor)
  exact lt_of_le_of_ne hle hne

/-- A negative rate raises the score. -/
theorem newScore?_gt (hrate : settings.trustDecayRate ≤ 0)
    (hfloor : trustFloor ≤ agent.trustScore)
    (hhours : 0 ≤ hoursSinceLastEvent events agent.agentId now)
    (h : newScore? realMath settings events agent now = some score) :
    score > agent.trustScore := by
  obtain ⟨hscore, hne⟩ := newScore?_eq_some h
  have hfactor : 1 ≤ decayFactor realMath settings
      (hoursSinceLastEvent events agent.agentId now) := by
    rw [decayFactor_eq]
    exact Real.one_le_rpow (by linarith) (exponent_nonneg hhours)
  have hle : agent.trustScore ≤ score := by
    rw [hscore]
    exact (le_mul_of_one_le_right (nonneg_of_floor hfloor) hfactor).trans (le_max_right _ _)
  exact lt_of_le_of_ne hle (Ne.symm hne)

/-- The score is where it was exactly if no run has changed it. -/
theorem score_runAll (hrate : settings.trustDecayRate ≤ 1)
    (hfloor : trustFloor ≤ agent.trustScore) (steps : List Step)
    (hafter : ∀ now locked, Step.decayAllScores now locked ∈ steps →
      0 ≤ hoursSinceLastEvent events agent.agentId now) :
    (steps.foldl (Step.onAgent realMath settings events) agent).trustScore = agent.trustScore ↔
      Undisturbed realMath settings events agent steps := by
  rcases le_total 0 settings.trustDecayRate with hnonneg | hnonpos
  · exact (score_foldl (R := (· < ·)) (fun agent now score hfloor hhours hnew =>
      newScore?_lt hnonneg hrate hfloor hhours hnew) steps agent hfloor hafter).2
  · exact (score_foldl (R := (· > ·)) (fun agent now score hfloor hhours hnew =>
      newScore?_gt hnonpos hfloor hhours hnew) steps agent hfloor hafter).2

/-- The power that the trust decays by. -/
theorem decayFactor_ne_zero (hrate : settings.trustDecayRate ≤ 1) {hours : ℝ}
    (h : ¬(settings.trustDecayRate = 1 ∧ hours ≠ 0)) : decayFactor realMath settings hours ≠ 0 := by
  rw [decayFactor_eq, ne_eq, Real.rpow_eq_zero_iff_of_nonneg (by linarith)]
  intro ⟨hzero, hexponent⟩
  apply h
  refine ⟨by linarith, ?_⟩
  intro hhours
  rw [hhours, zero_div] at hexponent
  exact hexponent rfl

end Reals

/-- The old trust of the next event has decayed by the power in the hours since
the last one exactly if no run in between has changed the score, or the power is
zero. -/
theorem decayedTrust_runAll_iff {settings : TrustSettings ℝ} {db : TrustDb ℝ} {agentId : UUID}
    {agent : TrustedAgent ℝ} (hagent : agent? db agentId = some agent)
    (hrate : settings.trustDecayRate ≤ 1) (hfloor : trustFloor ≤ agent.trustScore)
    {steps : List Step}
    (hafter : ∀ now locked, Step.decayAllScores now locked ∈ steps →
      0 ≤ hoursSinceLastEvent db.events agentId now) (now : Time) :
    (agent? (runAll realMath settings db steps) agentId).map (fun reached =>
        decayedTrust realMath settings (runAll realMath settings db steps).events reached now) =
      some (agent.trustScore * (1 - settings.trustDecayRate) ^
        (hoursSinceLastEvent db.events agentId now /
          (max settings.trustDecayIntervalHours 1 : Int))) ↔
      (settings.trustDecayRate = 1 ∧ hoursSinceLastEvent db.events agentId now ≠ 0) ∨
        Undisturbed realMath settings db.events agent steps := by
  have hid : agent.agentId = agentId := by simpa using List.find?_some hagent
  subst hid
  obtain ⟨hevents, hreached⟩ :=
    agent?_runAll (db : TrustDb ℝ) steps agent.agentId
  rw [hagent, Option.map_some] at hreached
  rw [hreached, hevents, Option.map_some, Option.some_inj, decayedTrust, agentId_foldl,
    ← score_runAll hrate hfloor steps hafter, ← decayFactor_eq]
  by_cases hzero : settings.trustDecayRate = 1 ∧
      hoursSinceLastEvent db.events agent.agentId now ≠ 0
  · have hfactor : decayFactor realMath settings
        (hoursSinceLastEvent db.events agent.agentId now) = 0 := by
      rw [decayFactor_eq, Real.rpow_eq_zero_iff_of_nonneg (by linarith)]
      refine ⟨by linarith, ?_⟩
      apply div_ne_zero hzero.2
      have hpositive : max settings.trustDecayIntervalHours 1 ≠ 0 := by omega
      exact_mod_cast hpositive
    rw [hfactor, mul_zero, mul_zero]
    exact ⟨fun _ => Or.inl hzero, fun _ => rfl⟩
  · rw [mul_left_inj' (decayFactor_ne_zero hrate hzero), or_iff_right hzero]

/-! ## A run before the next event -/

namespace TwiceDecayed

noncomputable def settings : TrustSettings ℝ where
  trustScoreWeights :=
    { quality := 35 / 100, speed := 15 / 100, cost := 15 / 100, consistency := 15 / 100
      reliability := 20 / 100 }
  trustLearningRate := 3 / 10
  trustDecayRate := 1 / 100
  trustDecayIntervalHours := 24

noncomputable def agent : TrustedAgent ℝ where
  agentId := UUID.ofNat 1
  status := .active
  trustScore := 1 / 2

/-- The last event of the agent. -/
noncomputable def event : TrustEvent ℝ where
  agentId := UUID.ofNat 1
  workflowId := none
  taskId := none
  scores :=
    { qualityScore := 1 / 2, latencyScore := 1 / 2, costScore := 1 / 2, consistencyScore := 1 / 2
      reliabilityScore := 1 / 2 }
  compositeScore := 1 / 2
  oldTrust := 1 / 2
  newTrust := 1 / 2
  createdAt := 0

noncomputable def db : TrustDb ℝ where
  agents := [agent]
  events := [event]

/-- A number of hours, in microseconds. -/
def hours (n : Int) : Time := n * 3600000000

theorem agent?_db : agent? db (UUID.ofNat 1) = some agent := by
  rw [agent?, db, List.find?_cons_of_pos (by exact decide_eq_true rfl)]

theorem hoursSinceLastEvent_db (n : Int) :
    hoursSinceLastEvent db.events (UUID.ofNat 1) (hours n) = n := by
  have hlast : ((db.events.filter (fun event => event.agentId = UUID.ofNat 1)).map
      TrustEvent.createdAt).max? = some 0 := rfl
  rw [hoursSinceLastEvent, hlast]
  dsimp only [hours]
  push_cast
  ring

end TwiceDecayed

open TwiceDecayed in
/-- A run an hour after the event leaves the score. -/
theorem decayedTrust_runAll_recent :
    (agent? (runAll realMath settings db [.decayAllScores (hours 1) (fun _ => false)])
        (UUID.ofNat 1)).map (fun reached => decayedTrust realMath settings
          (runAll realMath settings db [.decayAllScores (hours 1) (fun _ => false)]).events reached
            (hours 48)) =
      some (agent.trustScore * (1 - settings.trustDecayRate) ^
        (hoursSinceLastEvent db.events (UUID.ofNat 1) (hours 48) /
          (max settings.trustDecayIntervalHours 1 : Int))) := by
  refine (decayedTrust_runAll_iff agent?_db ?_ ?_ ?_ (hours 48)).2 (Or.inr ⟨?_, trivial⟩)
  · norm_num [settings]
  · norm_num [trustFloor, agent]
  · intro now locked hmem
    cases List.mem_singleton.1 hmem
    rw [hoursSinceLastEvent_db]
    norm_num
  · intro _ hhours
    have hrecent : hoursSinceLastEvent db.events agent.agentId (hours 1) = ((1 : Int) : ℝ) :=
      hoursSinceLastEvent_db 1
    rw [hrecent] at hhours
    norm_num [settings] at hhours

open TwiceDecayed in
/-- A run a day after the event and the next event count the day twice. -/
theorem decayedTrust_runAll_fails :
    (agent? (runAll realMath settings db [.decayAllScores (hours 24) (fun _ => false)])
        (UUID.ofNat 1)).map (fun reached => decayedTrust realMath settings
          (runAll realMath settings db [.decayAllScores (hours 24) (fun _ => false)]).events reached
            (hours 24)) ≠
      some (agent.trustScore * (1 - settings.trustDecayRate) ^
        (hoursSinceLastEvent db.events (UUID.ofNat 1) (hours 24) /
          (max settings.trustDecayIntervalHours 1 : Int))) := by
  have hfactor : decayFactor realMath settings (hoursSinceLastEvent db.events (UUID.ofNat 1)
      (hours 24)) = 99 / 100 := by
    rw [hoursSinceLastEvent_db, decayFactor_eq]
    norm_num [settings]
  have hnew : newScore? realMath settings db.events agent (hours 24) = some (495 / 1000) := by
    have hday : hoursSinceLastEvent db.events agent.agentId (hours 24) = ((24 : Int) : ℝ) :=
      hoursSinceLastEvent_db 24
    rw [hoursSinceLastEvent_db, ← hday] at hfactor
    unfold newScore?
    dsimp only
    rw [hfactor, hday, if_neg (by norm_num [settings]), if_pos (by norm_num [agent, trustFloor])]
    norm_num [agent, trustFloor]
  have hreached : agent? (runAll realMath settings db [.decayAllScores (hours 24) (fun _ => false)])
      (UUID.ofNat 1) = some { agent with trustScore := 495 / 1000 } := by
    obtain ⟨-, hrow⟩ := agent?_runAll db [.decayAllScores (hours 24) (fun _ => false)] (UUID.ofNat 1)
    have hselected : isSelected (fun _ => false) agent = true := rfl
    rw [hrow, agent?_db, Option.map_some, List.foldl_cons, List.foldl_nil, Step.onAgent, decayScore,
      if_pos hselected, hnew, Option.getD_some]
  have hevents : (runAll realMath settings db [.decayAllScores (hours 24) (fun _ => false)]).events =
      db.events := rfl
  rw [hreached, hevents, Option.map_some, ne_eq, Option.some_inj, ← decayFactor_eq, hfactor,
    decayedTrust]
  intro heq
  have hused : 495 / 1000 * decayFactor realMath settings
      (hoursSinceLastEvent db.events (UUID.ofNat 1) (hours 24)) = 1 / 2 * (99 / 100) := heq
  rw [hfactor] at hused
  norm_num at hused

end TrustService

end MassClaw
