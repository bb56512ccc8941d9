import Mathlib.Data.List.Sort
import MassClaw.Lib.Rank
import MassClaw.Scheduler.Selector

/-!
# Promotion and demotion, `app/services/evolution_service.py`

The ACTIVE agents with at least three scores are ordered by their average, and
two thresholds are read off at two positions of the list.  An agent at the upper
threshold is promoted if its level can rise; otherwise it is tried for a
demotion like all others.  Where many agents have one average, both thresholds
can be that average.

The database orders agents with one average as it likes.
-/

namespace MassClaw

/-- A row of `agents` as the service reads it. -/
structure LeveledAgent where
  agentId : UUID
  name : String
  status : AgentStatus
  safetyLevel : Int

/-- A row of `agent_scores`. -/
structure AgentScore where
  agentId : UUID
  composite : ℚ

/-- The two tables. -/
structure ScoreDb where
  agents : List LeveledAgent
  scores : List AgentScore

/-- A row of the query. -/
structure ScoredAgent where
  agentId : UUID
  name : String
  safetyLevel : Int
  avgComposite : ℚ
  deriving DecidableEq

namespace EvolutionService

section Model

variable (avg : List ℚ → ℚ)

/-- The composites of an agent. -/
def compositesOf (db : ScoreDb) (agentId : UUID) : List ℚ :=
  (db.scores.filter (fun score => score.agentId = agentId)).map AgentScore.composite

/-- The groups that the query selects. -/
def qualifying (db : ScoreDb) : List ScoredAgent :=
  (db.agents.filter (fun agent =>
    agent.status = .active && 3 ≤ (compositesOf db agent.agentId).length)).map (fun agent =>
      { agentId := agent.agentId
        name := agent.name
        safetyLevel := agent.safetyLevel
        avgComposite := avg (compositesOf db agent.agentId) })

/-- What the database can return: the groups by descending average. -/
structure IsResult (db : ScoreDb) (rows : List ScoredAgent) : Prop where
  perm : rows.Perm (qualifying avg db)
  descending : rows.Pairwise (fun a b => b.avgComposite ≤ a.avgComposite)

end Model

/-- `max(0, int(n * (1 - PROMOTE_PERCENTILE / 100)))`; the factor is a double that
is a little less than a tenth. -/
def promoteThresholdIdx (n : Nat) : Nat := max 0 (n * 900719925474099 / 2 ^ 53)

/-- `min(n - 1, int(n * (1 - DEMOTE_PERCENTILE / 100)))`; the factor is the double
of nine tenths. -/
def demoteThresholdIdx (n : Nat) : Nat := min (n - 1) (n * 8106479329266893 / 2 ^ 53)

/-- The row is promoted. -/
def promotes (promoteThreshold : ℚ) (row : ScoredAgent) : Bool :=
  promoteThreshold ≤ row.avgComposite && row.safetyLevel < 10

/-- The row is demoted. -/
def demotes (promoteThreshold demoteThreshold : ℚ) (row : ScoredAgent) : Bool :=
  !promotes promoteThreshold row && (row.avgComposite ≤ demoteThreshold && 1 < row.safetyLevel)

/-- The rows that are promoted and the rows that are demoted. -/
def select (rows : List ScoredAgent) : List ScoredAgent × List ScoredAgent :=
  let composites := rows.map ScoredAgent.avgComposite
  let n := composites.length
  if n < 5 then ([], [])
  else
    match composites[promoteThresholdIdx n]?, composites[demoteThresholdIdx n]? with
    | some promoteThreshold, some demoteThreshold =>
      (rows.filter (promotes promoteThreshold), rows.filter (demotes promoteThreshold demoteThreshold))
    | _, _ => ([], [])

/-- `promote_demote_agents` on the rows of the query: the names that are returned,
and the tables. -/
def promoteDemoteAgents (db : ScoreDb) (rows : List ScoredAgent) :
    (List String × List String) × ScoreDb :=
  let (promoted, demoted) := select rows
  let promoteIds := promoted.map ScoredAgent.agentId
  let demoteIds := demoted.map ScoredAgent.agentId
  let agents := db.agents.map (fun agent =>
    if agent.agentId ∈ promoteIds then { agent with safetyLevel := agent.safetyLevel + 1 }
    else agent)
  let agents := agents.map (fun agent =>
    if agent.agentId ∈ demoteIds then { agent with safetyLevel := agent.safetyLevel - 1 }
    else agent)
  ((promoted.map ScoredAgent.name, demoted.map ScoredAgent.name), { db with agents })

/-! ## The positions of the thresholds -/

theorem promoteThresholdIdx_le (n : Nat) : promoteThresholdIdx n ≤ demoteThresholdIdx n := by
  unfold promoteThresholdIdx demoteThresholdIdx
  omega

theorem demoteThresholdIdx_lt {n : Nat} (h : 0 < n) : demoteThresholdIdx n < n := by
  unfold demoteThresholdIdx
  omega

/-! ## Who is moved -/

/-- The averages of the qualifying agents. -/
def averages (avg : List ℚ → ℚ) (db : ScoreDb) : List ℚ :=
  (qualifying avg db).map ScoredAgent.avgComposite

/-- The average stands at both positions: few enough agents are above it, and
with its equals they reach past the lower one. -/
def IsBothThresholds (averages : List ℚ) (t : ℚ) : Prop :=
  Rank.above t averages ≤ promoteThresholdIdx averages.length ∧
    demoteThresholdIdx averages.length < Rank.atLeast t averages

/-- No agent is demoted whose average is at least that of a promoted one. -/
def KeepsOrder (rows : List ScoredAgent) : Prop :=
  ∀ b ∈ (select rows).1, ∀ a ∈ (select rows).2, a.avgComposite < b.avgComposite

section Result

variable {avg : List ℚ → ℚ} {db : ScoreDb} {rows : List ScoredAgent}

/-- What the query returns decides the averages at the positions. -/
theorem IsResult.averages (h : IsResult avg db rows) :
    (rows.map ScoredAgent.avgComposite).Perm (averages avg db) := h.perm.map _

theorem IsResult.sorted (h : IsResult avg db rows) :
    (rows.map ScoredAgent.avgComposite).Pairwise (fun a b => b ≤ a) := by
  rw [List.pairwise_map]
  exact h.descending

/-- An average is both thresholds of a result exactly if it stands at both
positions. -/
theorem IsResult.thresholds_iff (h : IsResult avg db rows) (t : ℚ) :
    (rows.map ScoredAgent.avgComposite)[promoteThresholdIdx rows.length]? = some t ∧
        (rows.map ScoredAgent.avgComposite)[demoteThresholdIdx rows.length]? = some t ↔
      IsBothThresholds (EvolutionService.averages avg db) t := by
  have hlength : (EvolutionService.averages avg db).length = rows.length := by
    rw [← h.averages.length_eq, List.length_map]
  have hle := promoteThresholdIdx_le rows.length
  rw [Rank.getElem?_eq_some_iff h.sorted, Rank.getElem?_eq_some_iff h.sorted,
    Rank.above_perm h.averages, Rank.atLeast_perm h.averages, IsBothThresholds, hlength]
  omega

/-- With five rows there are two thresholds, in order. -/
theorem select_eq (h : 5 ≤ rows.length)
    (hsorted : (rows.map ScoredAgent.avgComposite).Pairwise (fun a b => b ≤ a)) :
    ∃ promoteThreshold demoteThreshold,
      (rows.map ScoredAgent.avgComposite)[promoteThresholdIdx rows.length]? =
        some promoteThreshold ∧
      (rows.map ScoredAgent.avgComposite)[demoteThresholdIdx rows.length]? =
        some demoteThreshold ∧
      demoteThreshold ≤ promoteThreshold ∧
      select rows = (rows.filter (promotes promoteThreshold),
        rows.filter (demotes promoteThreshold demoteThreshold)) := by
  have hlength : (rows.map ScoredAgent.avgComposite).length = rows.length := List.length_map _
  have hle := promoteThresholdIdx_le rows.length
  have hlt : demoteThresholdIdx rows.length < rows.length := demoteThresholdIdx_lt (by omega)
  obtain ⟨demoteThreshold, hdemote⟩ : ∃ t,
      (rows.map ScoredAgent.avgComposite)[demoteThresholdIdx rows.length]? = some t :=
    ⟨_, List.getElem?_eq_getElem (by omega)⟩
  obtain ⟨promoteThreshold, hpromote⟩ : ∃ t,
      (rows.map ScoredAgent.avgComposite)[promoteThresholdIdx rows.length]? = some t :=
    ⟨_, List.getElem?_eq_getElem (by omega)⟩
  refine ⟨promoteThreshold, demoteThreshold, hpromote, hdemote, ?_, ?_⟩
  · obtain ⟨hbelow, rfl⟩ := List.getElem?_eq_some_iff.1 hdemote
    obtain ⟨hbelow', rfl⟩ := List.getElem?_eq_some_iff.1 hpromote
    rcases Nat.lt_or_eq_of_le hle with hlower | hsame
    · exact List.pairwise_iff_getElem.1 hsorted _ _ hbelow' hbelow hlower
    · simp [hsame]
  · rw [select, hlength, if_neg (by omega), hpromote, hdemote]

/-- Two agents that break the order stand on the threshold for both, on either
side of the highest level. -/
theorem IsResult.keepsOrder_rows_iff (h : IsResult avg db rows) (hlength : 5 ≤ rows.length) :
    KeepsOrder rows ↔ ∀ b ∈ rows, ∀ a ∈ rows, b.avgComposite = a.avgComposite →
      b.safetyLevel < 10 → 10 ≤ a.safetyLevel →
        ¬IsBothThresholds (EvolutionService.averages avg db) b.avgComposite := by
  obtain ⟨promoteThreshold, demoteThreshold, hpromote, hdemote, hle, hselect⟩ :=
    select_eq hlength h.sorted
  rw [KeepsOrder, hselect]
  constructor
  · intro hkeeps b hb a ha hsame hlow hhigh hboth
    obtain ⟨hpromote', hdemote'⟩ := (h.thresholds_iff b.avgComposite).2 hboth
    cases hpromote.symm.trans hpromote'
    cases hdemote.symm.trans hdemote'
    have hpromoted : b ∈ rows.filter (promotes b.avgComposite) :=
      List.mem_filter.2 ⟨hb, by simp [promotes, hlow]⟩
    have hdemoted : a ∈ rows.filter (demotes b.avgComposite b.avgComposite) := by
      refine List.mem_filter.2 ⟨ha, ?_⟩
      simp [demotes, promotes, hsame, hhigh]
      omega
    have hlt := hkeeps b hpromoted a hdemoted
    rw [hsame] at hlt
    exact lt_irrefl _ hlt
  · intro hnone b hb a ha
    obtain ⟨hbrow, hpromotes⟩ := List.mem_filter.1 hb
    obtain ⟨harow, hdemotes⟩ := List.mem_filter.1 ha
    simp only [demotes, promotes, Bool.and_eq_true, Bool.not_eq_true', decide_eq_true_eq,
      Bool.and_eq_false_iff, decide_eq_false_iff_not, not_le, not_lt] at hpromotes hdemotes
    by_contra hnot
    rw [not_lt] at hnot
    have hbothEqual : a.avgComposite = b.avgComposite ∧ promoteThreshold = b.avgComposite ∧
        demoteThreshold = b.avgComposite := by
      refine ⟨?_, ?_, ?_⟩ <;> linarith [hpromotes.1, hdemotes.2.1]
    obtain ⟨hsame, rfl, rfl⟩ := hbothEqual
    have hhigh : 10 ≤ a.safetyLevel := by
      rcases hdemotes.1 with hbelow | hlevel
      · rw [hsame] at hbelow
        exact absurd hbelow (lt_irrefl _)
      · exact hlevel
    exact hnone b hbrow a harow hsame.symm hpromotes.2 hhigh
      ((h.thresholds_iff b.avgComposite).1 ⟨hpromote, hdemote⟩)

end Result

/-- The database has a result. -/
theorem exists_isResult (avg : List ℚ → ℚ) (db : ScoreDb) : ∃ rows, IsResult avg db rows := by
  have htotal : Std.Total (fun a b : ScoredAgent => b.avgComposite ≤ a.avgComposite) :=
    ⟨fun a b => le_total _ _⟩
  have htrans : IsTrans ScoredAgent (fun a b => b.avgComposite ≤ a.avgComposite) :=
    ⟨fun a b c hab hbc => hbc.trans hab⟩
  exact ⟨(qualifying avg db).insertionSort (fun a b => b.avgComposite ≤ a.avgComposite),
    List.perm_insertionSort _ _, List.pairwise_insertionSort _ _⟩

/-- No run demotes an agent with at least the average of one it promotes, exactly
if fewer than five agents qualify or no average that stands at both positions is
shared by an agent below the highest level and one on it. -/
theorem keepsOrder_iff (avg : List ℚ → ℚ) (db : ScoreDb) :
    (∀ rows, IsResult avg db rows → KeepsOrder rows) ↔
      (qualifying avg db).length < 5 ∨
        ∀ b ∈ qualifying avg db, ∀ a ∈ qualifying avg db, b.avgComposite = a.avgComposite →
          b.safetyLevel < 10 → 10 ≤ a.safetyLevel →
            ¬IsBothThresholds (averages avg db) b.avgComposite := by
  have hfew : ∀ rows, IsResult avg db rows → (qualifying avg db).length < 5 → KeepsOrder rows := by
    intro rows hrows hlength b hb
    rw [← hrows.perm.length_eq] at hlength
    rw [select, List.length_map, if_pos hlength] at hb
    cases hb
  constructor
  · intro h
    obtain ⟨rows, hrows⟩ := exists_isResult avg db
    by_cases hlength : (qualifying avg db).length < 5
    · exact Or.inl hlength
    · right
      have hmany : 5 ≤ rows.length := by
        rw [hrows.perm.length_eq]
        omega
      intro b hb a ha
      exact (hrows.keepsOrder_rows_iff hmany).1 (h rows hrows) b (hrows.perm.mem_iff.2 hb) a
        (hrows.perm.mem_iff.2 ha)
  · intro h rows hrows
    rcases h with hlength | hnone
    · exact hfew rows hrows hlength
    · by_cases hlength : (qualifying avg db).length < 5
      · exact hfew rows hrows hlength
      · have hmany : 5 ≤ rows.length := by
          rw [hrows.perm.length_eq]
          omega
        apply (hrows.keepsOrder_rows_iff hmany).2
        intro b hb a ha
        exact hnone b (hrows.perm.mem_iff.1 hb) a (hrows.perm.mem_iff.1 ha)

/-! ## The levels -/

/-- The levels that an agent can have. -/
def LevelsInRange (agents : List LeveledAgent) : Prop :=
  ∀ agent ∈ agents, 1 ≤ agent.safetyLevel ∧ agent.safetyLevel ≤ 10

/-- A selected row is a row of the result that passes one of the two tests. -/
theorem mem_select {rows : List ScoredAgent} {row : ScoredAgent} :
    (row ∈ (select rows).1 → row ∈ rows ∧ row.safetyLevel < 10) ∧
      (row ∈ (select rows).2 → row ∈ rows ∧ 1 < row.safetyLevel) := by
  unfold select
  dsimp only
  split
  · simp
  · split
    · constructor
      · intro h
        obtain ⟨hrow, hpromotes⟩ := List.mem_filter.1 h
        simp only [promotes, Bool.and_eq_true, decide_eq_true_eq] at hpromotes
        exact ⟨hrow, hpromotes.2⟩
      · intro h
        obtain ⟨hrow, hdemotes⟩ := List.mem_filter.1 h
        simp only [demotes, Bool.and_eq_true, decide_eq_true_eq] at hdemotes
        exact ⟨hrow, hdemotes.2.2⟩
    · simp

/-- A row carries the level of its agent. -/
theorem safetyLevel_of_row {avg : List ℚ → ℚ} {db : ScoreDb} {rows : List ScoredAgent}
    (hkeyed : (db.agents.map LeveledAgent.agentId).Nodup) (hrows : IsResult avg db rows)
    {agent : LeveledAgent} (hagent : agent ∈ db.agents) {row : ScoredAgent} (hrow : row ∈ rows)
    (hid : row.agentId = agent.agentId) : row.safetyLevel = agent.safetyLevel := by
  rw [hrows.perm.mem_iff] at hrow
  obtain ⟨source, hsource, rfl⟩ := List.mem_map.1 hrow
  have hsame : source = agent :=
    List.inj_on_of_nodup_map hkeyed (List.mem_of_mem_filter hsource) hagent hid
  rw [hsame]

/-- One level up, then one level down. -/
theorem agents_promoteDemoteAgents (db : ScoreDb) (rows : List ScoredAgent) :
    (promoteDemoteAgents db rows).2.agents =
      (db.agents.map (fun agent =>
        if agent.agentId ∈ (select rows).1.map ScoredAgent.agentId then
          { agent with safetyLevel := agent.safetyLevel + 1 }
        else agent)).map (fun agent =>
          if agent.agentId ∈ (select rows).2.map ScoredAgent.agentId then
            { agent with safetyLevel := agent.safetyLevel - 1 }
          else agent) := rfl

/-- A run takes no agent out of the levels from 1 to 10. -/
theorem levelsInRange_promoteDemoteAgents {avg : List ℚ → ℚ} {db : ScoreDb}
    {rows : List ScoredAgent} (hkeyed : (db.agents.map LeveledAgent.agentId).Nodup)
    (hrows : IsResult avg db rows) (hlevels : LevelsInRange db.agents) :
    LevelsInRange (promoteDemoteAgents db rows).2.agents := by
  intro after hafter
  rw [agents_promoteDemoteAgents, List.map_map] at hafter
  obtain ⟨agent, hagent, rfl⟩ := List.mem_map.1 hafter
  have hlevel := hlevels agent hagent
  have hpromote : agent.agentId ∈ (select rows).1.map ScoredAgent.agentId →
      agent.safetyLevel < 10 := by
    intro hmem
    obtain ⟨row, hrow, hid⟩ := List.mem_map.1 hmem
    rw [← safetyLevel_of_row hkeyed hrows hagent (mem_select.1 hrow).1 hid]
    exact (mem_select.1 hrow).2
  have hdemote : agent.agentId ∈ (select rows).2.map ScoredAgent.agentId →
      1 < agent.safetyLevel := by
    intro hmem
    obtain ⟨row, hrow, hid⟩ := List.mem_map.1 hmem
    rw [← safetyLevel_of_row hkeyed hrows hagent (mem_select.2 hrow).1 hid]
    exact (mem_select.2 hrow).2
  by_cases hup : agent.agentId ∈ (select rows).1.map ScoredAgent.agentId
  · have hlow := hpromote hup
    by_cases hdown : agent.agentId ∈ (select rows).2.map ScoredAgent.agentId
    · simp only [Function.comp_apply, if_pos hup, if_pos hdown]
      omega
    · simp only [Function.comp_apply, if_pos hup, if_neg hdown]
      omega
  · by_cases hdown : agent.agentId ∈ (select rows).2.map ScoredAgent.agentId
    · have hhigh := hdemote hdown
      simp only [Function.comp_apply, if_neg hup, if_pos hdown]
      omega
    · simp only [Function.comp_apply, if_neg hup, if_neg hdown]
      exact hlevel

/-! ## Five equal agents -/

namespace Equal

/-- `AVG`. -/
def mean (composites : List ℚ) : ℚ := composites.sum / composites.length

def agent (n : Nat) (safetyLevel : Int) : LeveledAgent where
  agentId := UUID.ofNat n
  name := "agent"
  status := .active
  safetyLevel := safetyLevel

/-- Three scores of an agent. -/
def scores (n : Nat) : List AgentScore :=
  List.replicate 3 { agentId := UUID.ofNat n, composite := 1 / 2 }

/-- One of the agents has the highest level. -/
def db : ScoreDb where
  agents := [agent 1 10, agent 2 5, agent 3 5, agent 4 5, agent 5 5]
  scores := scores 1 ++ scores 2 ++ scores 3 ++ scores 4 ++ scores 5

def top : ScoredAgent where
  agentId := UUID.ofNat 1
  name := "agent"
  safetyLevel := 10
  avgComposite := 1 / 2

def other : ScoredAgent := { top with agentId := UUID.ofNat 2, safetyLevel := 5 }

/-- The five rows, in the order of the table. -/
def rows : List ScoredAgent :=
  [top, other, { other with agentId := UUID.ofNat 3 }, { other with agentId := UUID.ofNat 4 },
    { other with agentId := UUID.ofNat 5 }]

theorem qualifying_db : qualifying mean db = rows := by
  decide +kernel

end Equal

open Equal in
/-- Of five agents with one average the one with the highest level is demoted,
while the others are promoted. -/
theorem keepsOrder_fails : ∃ rows, IsResult mean db rows ∧
    other ∈ (select rows).1 ∧ top ∈ (select rows).2 ∧ other.avgComposite ≤ top.avgComposite := by
  refine ⟨rows, ⟨?_, ?_⟩, ?_, ?_, le_refl _⟩
  · rw [qualifying_db]
  · decide +kernel
  · decide +kernel
  · decide +kernel

end EvolutionService

end MassClaw
