import Mathlib.Algebra.BigOperators.Fin
import MassClaw.Lib.Interleave
import MassClaw.Scheduler.ToolLoop

/-!
# The parallel tool loops of a batch

Phase 2 of `execute_workflow` gathers one `_llm_call` for every node of the
batch.  They take turns at each `await`: an answer of the LLM, a tool that
returns.  Before a loop asks the LLM again, `_can_afford_another_round` takes
`budget_used` and what this very loop has run up off the limit.  The charges of
the batch only come in Phase 3, so `budget_used` stays what it was, and the
loops do not see what the others have run up.

`turn` is a call from one `await` to the next, and it reads the workflow
without changing it: the calls of a batch are processes that do not notice each
other.
-/

namespace MassClaw

namespace WorkflowScheduler

/-! ## One call -/

/-- What `_llm_call` is given for a node. -/
structure LLMCall where
  env : ToolEnvironment
  node : DAGNode
  agent : Agent
  /-- What `_check_semantic_cache` finds. -/
  cached : Option LLMResponse := none

/-- The `await` at which a call stands. -/
inductive Awaits
  | cache
  | answer (remaining iteration : Nat)
  | tool (remaining iteration : Nat) (asked : Generation) (call : ToolCall) (rest : List ToolCall)
  | summary (last : Option Generation)
  | returned (outcome : Except String Generation)

/-- The call waits for a tool. -/
def Awaits.isTool : Awaits → Bool
  | tool .. => true
  | _ => false

/-- The call waits for the LLM. -/
def Awaits.isLLM : Awaits → Bool
  | answer .. => true
  | summary _ => true
  | _ => false

/-- A call in progress, with the variables of its loop. -/
structure Calling extends LLMCall where
  awaits : Awaits := .cache
  loop : ToolLoop := {}

/-- The text answer that ends the rounds. -/
def textAnswer (iteration : Nat) (loop : ToolLoop) (answer : Generation) : Generation :=
  { Generation.withCost answer loop.totalCost with
    metadata :=
      if loop.allToolCalls.isEmpty then answer.metadata
      else Assoc.set (Assoc.set answer.metadata "tool_calls" (.list loop.allToolCalls))
        "tool_iterations" (.int (iteration + 1)) }

section Turn

variable (workflow : Workflow) (p : Calling)

/-- `_can_afford_another_round`, as the loop of the call asks it. -/
def affords (loop : ToolLoop) : Bool :=
  canAffordAnotherRound workflow loop.totalCost (selectModel p.node).1 (selectModel p.node).2

/-- After the rounds: the summary is asked for if the budget has room for it. -/
def exhaust (loop : ToolLoop) (last : Option Generation) : Calling :=
  if affords workflow p loop then { p with awaits := .summary last, loop }
  else { p with awaits := .returned (summarise p.env workflow p.node loop last), loop }

/-- The head of the loop: another iteration, or none is left. -/
def enterRound (remaining iteration : Nat) (loop : ToolLoop) (last : Option Generation) :
    Calling :=
  match remaining with
  | 0 => exhaust workflow p loop last
  | remaining + 1 => { p with awaits := .answer remaining iteration, loop }

/-- The last tool of a round has returned. -/
def afterTools (remaining iteration : Nat) (loop : ToolLoop) (asked : Generation) : Calling :=
  if affords workflow p loop then
    enterRound workflow p remaining (iteration + 1) loop (some asked)
  else exhaust workflow p loop (some asked)

/-- A call up to its next `await`. -/
def turn : Calling :=
  match p.awaits with
  | .cache =>
    match p.cached with
    | some response => { p with awaits := .returned (.ok { response }) }
    | none =>
      match p.env.offered.getToolsForAgent p.agent with
      | none => { p with awaits := .returned (.error "unhashable type") }
      | some _ => enterRound workflow p p.env.toolMaxIterations.toNat 0 p.loop none
  | .answer remaining iteration =>
    match p.env.generate iteration with
    | .error message => { p with awaits := .returned (.error message) }
    | .ok answer =>
      let loop := { p.loop with totalCost := p.loop.totalCost + answer.response.cost }
      match answer.toolCalls with
      | [] => { p with awaits := .returned (.ok (textAnswer iteration loop answer)), loop }
      | call :: rest => { p with awaits := .tool remaining iteration answer call rest, loop }
  | .tool remaining iteration asked call rest =>
    let loop := dispatchCall p.env p.loop call
    match rest with
    | [] => afterTools workflow p remaining iteration loop asked
    | next :: rest => { p with awaits := .tool remaining iteration asked next rest, loop }
  | .summary last =>
    let cost := match p.env.summary with
      | .ok summary => summary.response.cost
      | .error _ => 0
    { p with
      awaits := .returned (summarise p.env workflow p.node p.loop last)
      loop := { p.loop with totalCost := p.loop.totalCost + cost } }
  | .returned _ => p

/-- A call on its own after a number of turns. -/
def alone (call : LLMCall) (turns : Nat) : Calling := (turn workflow)^[turns] { call with }

end Turn

/-! ## A call on its own is the tool loop -/

section Reaches

variable {workflow : Workflow}

/-- A call gets from one `await` to another. -/
def Reaches (workflow : Workflow) (p q : Calling) : Prop := ∃ turns, (turn workflow)^[turns] p = q

theorem Reaches.refl (p : Calling) : Reaches workflow p p := ⟨0, rfl⟩

theorem Reaches.head {p q : Calling} (h : Reaches workflow (turn workflow p) q) :
    Reaches workflow p q := by
  obtain ⟨turns, hturns⟩ := h
  exact ⟨turns + 1, hturns⟩

/-- The call has returned what the tool loop returns, and run its tools. -/
def Returns (workflow : Workflow) (p : Calling) (ending : RoundsEnd × ToolLoop) : Prop :=
  ∃ q, Reaches workflow p q ∧
    q.awaits = .returned (match ending.1 with
      | .raised message => .error message
      | .answered answer => .ok answer
      | .exhausted last => summarise p.env workflow p.node ending.2 last) ∧
    q.loop.executed = ending.2.executed

theorem Returns.head {p : Calling} {ending : RoundsEnd × ToolLoop}
    (henv : (turn workflow p).toLLMCall = p.toLLMCall)
    (h : Returns workflow (turn workflow p) ending) : Returns workflow p ending := by
  obtain ⟨q, hreaches, hreturned, hexecuted⟩ := h
  rw [henv] at hreturned
  exact ⟨q, hreaches.head, hreturned, hexecuted⟩

/-- An exhausted loop ends with its summary, or without. -/
theorem returns_exhaust (p : Calling) (loop : ToolLoop) (last : Option Generation) :
    Returns workflow (exhaust workflow p loop last) (.exhausted last, loop) := by
  unfold exhaust
  split
  · exact ⟨_, (Reaches.refl _).head, rfl, rfl⟩
  · exact ⟨_, Reaches.refl _, rfl, rfl⟩

theorem toLLMCall_exhaust (p : Calling) (loop : ToolLoop) (last : Option Generation) :
    (exhaust workflow p loop last).toLLMCall = p.toLLMCall := by
  unfold exhaust
  split
  · rfl
  · rfl

theorem toLLMCall_enterRound (p : Calling) (remaining iteration : Nat) (loop : ToolLoop)
    (last : Option Generation) :
    (enterRound workflow p remaining iteration loop last).toLLMCall = p.toLLMCall := by
  cases remaining with
  | zero => exact toLLMCall_exhaust p loop last
  | succ remaining => rfl

theorem toLLMCall_afterTools (p : Calling) (remaining iteration : Nat) (loop : ToolLoop)
    (asked : Generation) :
    (afterTools workflow p remaining iteration loop asked).toLLMCall = p.toLLMCall := by
  unfold afterTools
  split
  · exact toLLMCall_enterRound p _ _ _ _
  · exact toLLMCall_exhaust p _ _

/-- A turn leaves what the call was given. -/
@[simp] theorem toLLMCall_turn (p : Calling) : (turn workflow p).toLLMCall = p.toLLMCall := by
  unfold turn
  split
  · split
    · rfl
    · split
      · rfl
      · exact toLLMCall_enterRound p _ _ _ _
  · split
    · rfl
    · dsimp only
      split
      · rfl
      · rfl
  · dsimp only
    split
    · exact toLLMCall_afterTools p _ _ _ _
    · rfl
  · rfl
  · rfl

/-- The tools of a round run one after the other. -/
theorem returns_tools {p : Calling} {remaining iteration : Nat} {asked : Generation}
    {ending : RoundsEnd × ToolLoop} (call : ToolCall) (rest : List ToolCall) (loop : ToolLoop)
    (h : Returns workflow
      (afterTools workflow p remaining iteration ((call :: rest).foldl (dispatchCall p.env) loop)
        asked) ending) :
    Returns workflow { p with awaits := .tool remaining iteration asked call rest, loop }
      ending := by
  induction rest generalizing call loop with
  | nil => exact Returns.head (toLLMCall_turn _) h
  | cons next rest ih =>
    apply Returns.head (toLLMCall_turn _)
    exact ih next (dispatchCall p.env loop call) h

/-- The rounds end as `toolRounds` says. -/
theorem returns_rounds (p : Calling) (remaining iteration : Nat) (loop : ToolLoop)
    (last : Option Generation) :
    Returns workflow (enterRound workflow p remaining iteration loop last)
      (toolRounds p.env workflow p.node remaining iteration loop last) := by
  induction remaining generalizing iteration loop last with
  | zero => exact returns_exhaust p loop last
  | succ remaining ih =>
    apply Returns.head (toLLMCall_turn _)
    unfold toolRounds
    show Returns workflow (turn workflow { p with awaits := .answer remaining iteration, loop }) _
    unfold turn
    dsimp only
    cases hanswer : p.env.generate iteration with
    | error message => exact ⟨_, Reaches.refl _, rfl, rfl⟩
    | ok answer =>
      dsimp only
      cases hcalls : answer.toolCalls with
      | nil => exact ⟨_, Reaches.refl _, rfl, rfl⟩
      | cons call rest =>
        apply returns_tools
        rw [if_neg (by simp)]
        unfold afterTools affords
        split
        · exact ih _ _ _
        · exact returns_exhaust p _ _

/-- Without an entry in the cache the call ends as the tool loop does. -/
theorem returns_alone (call : LLMCall) (hcached : call.cached = none) : ∃ turns,
    (alone workflow call turns).awaits =
        .returned (runToolLoop call.env workflow call.node call.agent).outcome ∧
      (alone workflow call turns).loop.executed =
        (runToolLoop call.env workflow call.node call.agent).executed := by
  have hreturns : ∃ q, Reaches workflow { call with } q ∧
      q.awaits = .returned (runToolLoop call.env workflow call.node call.agent).outcome ∧
      q.loop.executed = (runToolLoop call.env workflow call.node call.agent).executed := by
    unfold runToolLoop
    have hturn : turn workflow { call with } =
        match call.env.offered.getToolsForAgent call.agent with
        | none => { call with awaits := .returned (.error "unhashable type") }
        | some _ =>
          enterRound workflow { call with } call.env.toolMaxIterations.toNat 0 {} none := by
      unfold turn
      dsimp only
      rw [hcached]
    split
    · rename_i hoffered
      rw [hoffered] at hturn
      exact ⟨_, (Reaches.refl _).head, by rw [hturn], by rw [hturn]⟩
    · rename_i tools hoffered
      rw [hoffered] at hturn
      have hrounds : Returns workflow { call with }
          (toolRounds call.env workflow call.node call.env.toolMaxIterations.toNat 0 {} none) := by
        apply Returns.head (toLLMCall_turn _)
        rw [hturn]
        exact returns_rounds { call with } _ 0 {} none
      exact hrounds
  obtain ⟨q, ⟨turns, hturns⟩, hreturned, hexecuted⟩ := hreturns
  refine ⟨turns, ?_, ?_⟩
  · show ((turn workflow)^[turns] { call with }).awaits = _
    rw [hturns, hreturned]
  · show ((turn workflow)^[turns] { call with }).loop.executed = _
    rw [hturns, hexecuted]

end Reaches

/-! ## The batch -/

section Batch

variable (workflow : Workflow) (batch : List LLMCall)

/-- The calls of the batch after the turns of a schedule. -/
def interleaved (schedule : List Nat) : Interleave.Config Workflow Calling :=
  Interleave.Config.follow turn
    { shared := workflow, processes := batch.map (fun call => { call with }) } schedule

/-- What the calls have run up; none of it is charged before all have returned. -/
def uncharged (processes : List Calling) : ℚ :=
  (processes.map (fun p => p.loop.totalCost)).sum

/-- The estimated cost of one more round of the call. -/
def nextRound (call : LLMCall) : ℚ :=
  tokensToCredits (estimateCost assumedPromptTokens (selectModel call.node).2
    (selectModel call.node).1)

/-- The tools of a round are done, and the LLM is asked again. -/
def GoesOn (before after : Calling) : Prop :=
  before.awaits.isTool = true ∧ after.awaits.isLLM = true

/-- What is left of the budget beside an uncharged cost. -/
def headroom (cost : ℚ) : ℚ :=
  toFloat workflow.budgetLimit - toFloat workflow.budgetUsed - tokensToCredits cost

/-- Every further round is covered by what the whole batch has left. -/
def RoundsCovered : Prop :=
  ∀ schedule index before after,
    (interleaved workflow batch schedule).processes[index]? = some before →
    (interleaved workflow batch (schedule ++ [index])).processes[index]? = some after →
    GoesOn before after →
    nextRound after.toLLMCall ≤
      headroom workflow (uncharged (interleaved workflow batch (schedule ++ [index])).processes)

/-- At some time of its own run the call has run up the cost. -/
def RunsUp (call : LLMCall) (cost : ℚ) : Prop :=
  ∃ turns, (alone workflow call turns).loop.totalCost = cost

/-- In its own run the call goes on to a further round with the cost run up. -/
def GoesOnAt (call : LLMCall) (cost : ℚ) : Prop :=
  ∃ turns, GoesOn (alone workflow call turns) (alone workflow call (turns + 1)) ∧
    (alone workflow call (turns + 1)).loop.totalCost = cost

/-- For every further round the budget also has room for whatever the other
calls run up on their own. -/
def RoomForAll : Prop :=
  ∀ (i : Fin batch.length) (costs : Fin batch.length → ℚ),
    GoesOnAt workflow (batch.get i) (costs i) →
    (∀ j, j ≠ i → RunsUp workflow (batch.get j) (costs j)) →
      nextRound (batch.get i) ≤ headroom workflow (∑ j, costs j)

variable {workflow batch}

theorem toLLMCall_alone (call : LLMCall) (turns : Nat) :
    (alone workflow call turns).toLLMCall = call := by
  induction turns with
  | zero => rfl
  | succ turns ih =>
    unfold alone at ih ⊢
    rw [Function.iterate_succ_apply', toLLMCall_turn, ih]

/-- In the batch a call is where its own turns have brought it. -/
theorem processes_interleaved (schedule : List Nat) :
    (interleaved workflow batch schedule).processes =
      List.ofFn (fun j : Fin batch.length =>
        alone workflow (batch.get j) (schedule.count j.val)) := by
  apply List.ext_getElem?
  intro j
  unfold interleaved
  rw [Interleave.Config.processes_follow, List.getElem?_map, List.getElem?_ofFn]
  split
  · rename_i hj
    rw [List.getElem?_eq_getElem hj]
    rfl
  · rename_i hj
    rw [List.getElem?_eq_none (by omega)]
    rfl

theorem uncharged_interleaved (schedule : List Nat) :
    uncharged (interleaved workflow batch schedule).processes =
      ∑ j : Fin batch.length,
        (alone workflow (batch.get j) (schedule.count j.val)).loop.totalCost := by
  rw [uncharged, processes_interleaved, List.map_ofFn, List.sum_ofFn]
  rfl

private theorem getElem?_interleaved {schedule : List Nat} {i : Fin batch.length} :
    (interleaved workflow batch schedule).processes[i.val]? =
      some (alone workflow (batch.get i) (schedule.count i.val)) := by
  rw [processes_interleaved, List.getElem?_ofFn, dif_pos i.isLt]

private theorem count_turn (schedule : List Nat) (i j : Nat) :
    (schedule ++ [i]).count j = schedule.count j + if i = j then 1 else 0 := by
  rw [List.count_append, List.count_singleton]
  simp only [beq_iff_eq]

/-- Every further round is covered in every interleaving, exactly if the budget
has room for what the calls run up on their own. -/
theorem roundsCovered_iff (workflow : Workflow) (batch : List LLMCall) :
    RoundsCovered workflow batch ↔ RoomForAll workflow batch := by
  constructor
  · intro hcovered i costs hgoes hothers
    obtain ⟨turns, hgoes, hcost⟩ := hgoes
    have hreached : ∀ j, ∃ k, (j = i → k = turns) ∧
        (alone workflow (batch.get j) (k + if i = j then 1 else 0)).loop.totalCost = costs j := by
      intro j
      by_cases hj : j = i
      · subst hj
        refine ⟨turns, fun _ => rfl, ?_⟩
        rw [if_pos rfl, hcost]
      · obtain ⟨k, hk⟩ := hothers j hj
        refine ⟨k, fun h => absurd h hj, ?_⟩
        rw [if_neg (Ne.symm hj), Nat.add_zero, hk]
    choose turn hturn hcosts using hreached
    obtain ⟨schedule, hschedule⟩ := Interleave.Config.exists_schedule
      (fun j => if h : j < batch.length then turn ⟨j, h⟩ else 0) batch.length
    have hcount : ∀ j : Fin batch.length, schedule.count j.val = turn j := by
      intro j
      rw [hschedule, if_pos j.isLt, dif_pos j.isLt]
    have hround := hcovered schedule i.val _ _ getElem?_interleaved getElem?_interleaved
    rw [count_turn, hcount, hturn i rfl, if_pos rfl, toLLMCall_alone, uncharged_interleaved]
      at hround
    have hsum : ∑ j : Fin batch.length,
        (alone workflow (batch.get j) ((schedule ++ [i.val]).count j.val)).loop.totalCost =
          ∑ j, costs j := by
      apply Finset.sum_congr rfl
      intro j _
      rw [count_turn, hcount, ← hcosts j]
      simp only [Fin.ext_iff]
    rw [hsum] at hround
    exact hround hgoes
  · intro hroom schedule index before after hbefore hafter hgoes
    have hindex : index < batch.length := by
      have hlength := (List.getElem?_eq_some_iff.1 hbefore).1
      rw [processes_interleaved, List.length_ofFn] at hlength
      exact hlength
    have hstart := @getElem?_interleaved workflow batch schedule ⟨index, hindex⟩
    have hend := @getElem?_interleaved workflow batch (schedule ++ [index]) ⟨index, hindex⟩
    rw [hbefore] at hstart
    rw [hafter, count_turn, if_pos rfl] at hend
    rw [Option.some.inj hstart, Option.some.inj hend] at hgoes
    rw [Option.some.inj hend, toLLMCall_alone, uncharged_interleaved]
    apply hroom ⟨index, hindex⟩ (fun j : Fin batch.length =>
      (alone workflow (batch.get j) ((schedule ++ [index]).count j.val)).loop.totalCost)
    · refine ⟨_, hgoes, ?_⟩
      rw [count_turn, if_pos rfl]
    · exact fun j _ => ⟨_, rfl⟩

/-- The gate covers a further round against what its own call has run up. -/
theorem nextRound_le_of_goesOn {p : Calling} (h : GoesOn p (turn workflow p)) :
    nextRound p.toLLMCall ≤ headroom workflow (turn workflow p).loop.totalCost := by
  have hgate : ∀ loop, affords workflow p loop = true →
      nextRound p.toLLMCall ≤ headroom workflow loop.totalCost :=
    fun loop haffords => of_decide_eq_true haffords
  have hexhaust : ∀ loop last, (exhaust workflow p loop last).awaits.isLLM = true →
      nextRound p.toLLMCall ≤
        headroom workflow (exhaust workflow p loop last).loop.totalCost := by
    intro loop last hllm
    unfold exhaust at hllm ⊢
    split at hllm
    · rename_i haffords
      rw [if_pos haffords]
      exact hgate loop haffords
    · cases hllm
  obtain ⟨htool, hllm⟩ := h
  unfold turn at hllm ⊢
  split at hllm
  · rename_i hawaits
    rw [hawaits] at htool
    cases htool
  · rename_i hawaits
    rw [hawaits] at htool
    cases htool
  · rename_i remaining iteration asked call rest _
    cases rest with
    | cons next rest => cases hllm
    | nil =>
      dsimp only at hllm ⊢
      unfold afterTools at hllm ⊢
      split at hllm
      · rename_i haffords
        rw [if_pos haffords]
        cases remaining with
        | zero => exact hexhaust _ _ hllm
        | succ remaining => exact hgate _ haffords
      · rename_i hshort
        rw [if_neg hshort]
        exact hexhaust _ _ hllm
  · cases hllm
  · rename_i hawaits
    rw [hawaits] at htool
    cases htool

/-- The gate is enough for a batch of one node. -/
theorem roundsCovered_singleton (workflow : Workflow) (call : LLMCall) :
    RoundsCovered workflow [call] := by
  rw [roundsCovered_iff]
  intro i costs hgoes _
  obtain ⟨turns, hgoes, hcost⟩ := hgoes
  have hnext : alone workflow ([call].get i) (turns + 1) =
      turn workflow (alone workflow ([call].get i) turns) := Function.iterate_succ_apply' _ _ _
  rw [hnext] at hgoes hcost
  have hround := nextRound_le_of_goesOn hgoes
  rw [toLLMCall_alone, hcost] at hround
  have hsum : ∑ j, costs j = costs i := Fintype.sum_eq_single i
    (fun j hj => absurd (Subsingleton.elim (α := Fin 1) j i) hj)
  rw [hsum]
  exact hround

end Batch

end WorkflowScheduler

/-! ## Two costly rounds -/

namespace SchedulerExample

/-- A workflow with 500 credits. -/
def modest : Workflow := { workflow with budgetLimit := 5000000 }

/-- A call whose first answer costs 400 credits and asks for a tool. -/
def costly (nodeId : String) : WorkflowScheduler.LLMCall where
  env :=
    { toolbelt with
      toolMaxIterations := 3
      generate := fun _ => .ok
        { response := { response with cost := 4 / 10 }
          toolCalls := [{ name := "web_search" }] } }
  node := root nodeId "risk-assessment"
  agent := searching

end SchedulerExample

namespace WorkflowScheduler

open SchedulerExample in
/-- Two nodes have run up 800 of 500 credits, and one of them goes on. -/
theorem roundsCovered_fails : ¬∀ workflow batch, RoundsCovered workflow batch := by
  intro h
  have hstate : ∀ schedule ∈ [[0, 0, 1, 1], [0, 0, 1, 1, 0]],
      (interleaved modest [costly "t1", costly "t2"] schedule).processes[0]? =
        some (alone modest (costly "t1") (schedule.count 0)) := by
    intro schedule _
    exact Interleave.Config.processes_follow turn _ schedule 0
  have hgoes : GoesOn (alone modest (costly "t1") 2) (alone modest (costly "t1") 3) := by
    constructor
    · decide +kernel
    · decide +kernel
  have hround := h modest [costly "t1", costly "t2"] [0, 0, 1, 1] 0 _ _
    (hstate _ (by simp)) (hstate _ (by simp)) hgoes
  revert hround
  decide +kernel

end WorkflowScheduler

end MassClaw
