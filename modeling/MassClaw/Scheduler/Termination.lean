import Mathlib.Algebra.Order.BigOperators.Group.List
import MassClaw.Scheduler.Completion
import MassClaw.Scheduler.Retries

/-!
# The number of iterations of the loop

Every batch takes up the ready nodes, and none of them is ready again unless it
is retried, twice at most.  `potential` bounds the turns that are still to
come: a waiting node has as many as retries are left, one without an agent has
a single one, and so has each alternative that can still be added.  Every
batch lowers it.
-/

namespace MassClaw

namespace WorkflowScheduler

/-- The agents are assigned to nodes of the DAG, as `select_agents_for_dag`
does it. -/
def AssignsOnly (agents : String → Option Agent) (dag : DAG) : Prop :=
  ∀ nodeId, nodeId ∉ dag.ids → agents nodeId = none

section Iterations

variable (env : Environment) (workflowId : UUID) (agents : String → Option Agent)

/-- The value of `iteration_count` when the loop is left, by its condition, by
the `break` without ready nodes, or by an exception. -/
def iterations : Nat → Nat → Run → Nat
  | 0, _, _ => 0
  | remaining + 1, iteration, run =>
    if run.dag.isComplete then 0
    else if run.dag.getReadyNodes.isEmpty then 1
    else
      match executeBatch env workflowId agents iteration run with
      | .error _ => 1
      | .ok run => 1 + iterations remaining (iteration + 1) run

end Iterations

/-! ## The turns that are left -/

instance (dag : DAG) (nodeId : String) : Decidable (IsWaiting dag nodeId) :=
  match h : dag.status? nodeId with
  | none => isFalse (by
      rintro ⟨status, hstatus, -⟩
      rw [h] at hstatus
      cases hstatus)
  | some status => decidable_of_iff status.IsStartable (by
      constructor
      · exact fun hstart => ⟨status, h, hstart⟩
      · rintro ⟨other, hother, hstart⟩
        rw [h] at hother
        cases hother
        exact hstart)

variable {agents : String → Option Agent}

/-- The turns of a node that waits or is at work. -/
def turnsLeft (agents : String → Option Agent) (run : Run) (nodeId : String) : Nat :=
  match agents nodeId with
  | none => 1
  | some _ => SelfCorrectionEngine.maxRetriesPerTask + 1 -
      min SelfCorrectionEngine.maxRetriesPerTask (retries run nodeId)

theorem turnsLeft_pos (run : Run) (nodeId : String) : 0 < turnsLeft agents run nodeId := by
  unfold turnsLeft
  split
  · exact Nat.one_pos
  · omega

/-- The turns of a node that counts. -/
def weight (agents : String → Option Agent) (active : List String) (run : Run)
    (nodeId : String) : Nat :=
  if nodeId ∈ active ∨ IsWaiting run.dag nodeId then turnsLeft agents run nodeId else 0

/-- The turns of the waiting nodes, of the nodes at work and of the alternatives
that may still be added. -/
def potential (agents : String → Option Agent) (active : List String) (run : Run) : Nat :=
  (run.dag.ids.map (weight agents active run)).sum + (maxReplansPerWorkflow - run.replanCount)

section Weights

variable {active rest : List String} {nodeId other : String} {run run' : Run}

theorem turnsLeft_le (h : retries run other ≤ retries run' other) :
    turnsLeft agents run' other ≤ turnsLeft agents run other := by
  unfold turnsLeft
  split
  · exact le_refl _
  · omega

theorem weight_le (hcounts : other ∈ rest ∨ IsWaiting run'.dag other →
      other ∈ active ∨ IsWaiting run.dag other)
    (h : retries run other ≤ retries run' other) :
    weight agents rest run' other ≤ weight agents active run other := by
  unfold weight
  by_cases hcounted : other ∈ rest ∨ IsWaiting run'.dag other
  · rw [if_pos hcounted, if_pos (hcounts hcounted)]
    exact turnsLeft_le h
  · rw [if_neg hcounted]
    exact Nat.zero_le _

theorem Steps.weight_le (h : Steps nodeId run run') (hrest : ∀ other ∈ rest, other ∈ active)
    (hne : other ≠ nodeId) : weight agents rest run' other ≤ weight agents active run other :=
  WorkflowScheduler.weight_le (Or.imp (hrest other) (h.waiting other hne)) (h.retries other)

end Weights

/-- The batch of `size` ready nodes keeps below the bound: each node whose turn
has ended has used up a turn. -/
structure Paced (agents : String → Option Agent) (start : DAG) (bound size : Nat)
    (active : List String) (run : Run) : Prop where
  within : potential agents active run + size ≤ bound + active.length
  nodup : active.Nodup
  known : ∀ nodeId ∈ active, nodeId ∈ run.dag.ids
  grown : start.ids ⊆ run.dag.ids

namespace Paced

variable {start : DAG} {bound size : Nat} {active rest : List String} {nodeId : String}
  {run run' : Run}

/-- The order of the nodes at work does not matter. -/
theorem perm (h : Paced agents start bound size active run) (hperm : rest.Perm active) :
    Paced agents start bound size rest run where
  within := by
    have hsum : (run.dag.ids.map (weight agents rest run)).sum ≤
        (run.dag.ids.map (weight agents active run)).sum :=
      List.sum_le_sum (fun other _ => weight_le (Or.imp_left hperm.mem_iff.1) (le_refl _))
    have hlength := hperm.length_eq
    have hwithin := h.within
    unfold potential at hwithin ⊢
    omega
  nodup := hperm.nodup_iff.2 h.nodup
  known := fun other hother => h.known other (hperm.mem_iff.1 hother)
  grown := h.grown

/-- A step after which no other node counts. -/
theorem still (h : Paced agents start bound size active run) (hids : run'.dag.ids = run.dag.ids)
    (hcounts : ∀ other, other ∈ active ∨ IsWaiting run'.dag other →
      other ∈ active ∨ IsWaiting run.dag other)
    (hretries : ∀ other, retries run other ≤ retries run' other)
    (hreplans : run'.replanCount = run.replanCount) :
    Paced agents start bound size active run' where
  within := by
    have hsum : (run.dag.ids.map (weight agents active run')).sum ≤
        (run.dag.ids.map (weight agents active run)).sum :=
      List.sum_le_sum (fun other _ => weight_le (hcounts other) (hretries other))
    have hwithin := h.within
    unfold potential at hwithin ⊢
    rw [hids, hreplans]
    omega
  nodup := h.nodup
  known := by
    rw [hids]
    exact h.known
  grown := by
    rw [hids]
    exact h.grown

/-- A step on a node at work that does not end its turn. -/
theorem keep (h : Paced agents start bound size active run) (hactive : nodeId ∈ active)
    (hsteps : Steps nodeId run run') : Paced agents start bound size active run' := by
  refine h.still hsteps.ids (fun other hcounts => ?_) hsteps.retries hsteps.replans
  by_cases hself : other = nodeId
  · exact Or.inl (hself ▸ hactive)
  · exact hcounts.imp id (hsteps.waiting other hself)

/-- A step that ends the turn of a node and uses one up. -/
theorem leave (h : Paced agents start bound size (nodeId :: rest) run)
    (hsteps : Steps nodeId run run')
    (hless : weight agents rest run' nodeId < turnsLeft agents run nodeId) :
    Paced agents start bound size rest run' where
  within := by
    have hsum : (run.dag.ids.map (weight agents rest run')).sum <
        (run.dag.ids.map (weight agents (nodeId :: rest) run)).sum := by
      have hself : weight agents (nodeId :: rest) run nodeId = turnsLeft agents run nodeId :=
        if_pos (Or.inl List.mem_cons_self)
      refine List.sum_lt_sum _ _ (fun other _ => ?_)
        ⟨nodeId, h.known nodeId List.mem_cons_self, hself ▸ hless⟩
      by_cases heq : other = nodeId
      · rw [heq, hself]
        exact hless.le
      · exact hsteps.weight_le (fun _ h => List.mem_cons_of_mem _ h) heq
    have hwithin := h.within
    unfold potential at hwithin ⊢
    rw [List.length_cons] at hwithin
    rw [hsteps.ids, hsteps.replans]
    omega
  nodup := (List.nodup_cons.1 h.nodup).2
  known := by
    rw [hsteps.ids]
    exact fun other hother => h.known other (List.mem_cons_of_mem _ hother)
  grown := by
    rw [hsteps.ids]
    exact h.grown

/-- A node that no longer waits has used up its turn. -/
theorem finish (h : Paced agents start bound size (nodeId :: rest) run)
    (hsteps : Steps nodeId run run') (hended : ¬IsWaiting run'.dag nodeId) :
    Paced agents start bound size rest run' := by
  refine h.leave hsteps ?_
  have hnot : ¬(nodeId ∈ rest ∨ IsWaiting run'.dag nodeId) := by
    rintro (hmem | hwaiting)
    · exact (List.nodup_cons.1 h.nodup).1 hmem
    · exact hended hwaiting
  unfold weight
  rw [if_neg hnot]
  exact turnsLeft_pos run nodeId

/-- An alternative is added in exchange for one of the replans. -/
theorem replan (h : Paced agents start bound size active run) (hagents : AssignsOnly agents start)
    (hreplanned : Replanned run run') : Paced agents start bound size active run' := by
  obtain ⟨⟨node, hadd, htask⟩, hgrow, hbelow, hreplans⟩ := hreplanned
  have hnew : node.nodeId ∉ run.dag.ids := (DAG.addNode_eq_some hadd).1
  have hids : run'.dag.ids = run.dag.ids ++ [node.nodeId] := DAG.ids_addNode hadd
  have hold : ∀ other ∈ run.dag.ids, weight agents active run' other ≤
      weight agents active run other := by
    intro other hother
    have hne : other ≠ node.nodeId := fun heq => hnew (heq ▸ hother)
    have hretries : retries run other ≤ retries run' other := by
      unfold retries
      cases hkey : run.dag.taskId? other with
      | none => exact Nat.zero_le _
      | some taskId =>
        rw [DAG.tasksKept_addNode hadd other taskId hkey]
        exact hgrow taskId
    have hwaiting : IsWaiting run'.dag other → IsWaiting run.dag other := by
      rintro ⟨status, hstatus, hstart⟩
      rw [DAG.status?_addNode hadd, if_neg hne] at hstatus
      exact ⟨status, hstatus, hstart⟩
    exact weight_le (Or.imp_right hwaiting) hretries
  have hone : weight agents active run' node.nodeId ≤ 1 := by
    have hnone : agents node.nodeId = none := hagents _ (fun hmem => hnew (h.grown hmem))
    unfold weight turnsLeft
    rw [hnone]
    split
    · exact le_refl _
    · exact Nat.zero_le _
  refine ⟨?_, h.nodup, fun other hother => ?_, fun other hother => ?_⟩
  · have hsum := List.sum_le_sum hold
    have hwithin := h.within
    unfold potential at hwithin ⊢
    rw [hids, List.map_append, List.sum_append, List.map_singleton, List.sum_singleton, hreplans]
    omega
  · rw [hids]
    exact List.mem_append_left _ (h.known other hother)
  · rw [hids]
    exact List.mem_append_left _ (h.grown hother)

end Paced

/-! ## The points of a batch -/

/-- The nodes with a context have the task row of their context, and an agent. -/
def Equipped (agents : String → Option Agent) (contexts : List NodeContext) (run : Run) : Prop :=
  ∀ context ∈ contexts, run.dag.taskId? context.node.nodeId = some context.taskId ∧
    (agents context.node.nodeId).isSome

theorem Equipped.of_kept {contexts : List NodeContext} {run run' : Run}
    (h : Equipped agents contexts run) (hkept : DAG.TasksKept run.dag run'.dag) :
    Equipped agents contexts run' :=
  fun context hcontext => ⟨hkept _ _ (h context hcontext).1, (h context hcontext).2⟩

section Batch

variable {env : Environment} {workflowId : UUID} {start : DAG} {bound size : Nat}

/-- Phase 1 with the nodes `rest` to come: what has a context no longer waits. -/
structure PacedPreparing (agents : String → Option Agent) (start : DAG) (bound size : Nat)
    (rest : List DAGNode) (run : Run) : Prop where
  paced : Paced agents start bound size (contextIds run ++ rest.map DAGNode.nodeId) run
  started : ∀ context ∈ run.contexts, ¬IsWaiting run.dag context.node.nodeId
  equipped : Equipped agents run.contexts run

/-- The gate and Phase 2. -/
structure PacedGating (agents : String → Option Agent) (start : DAG) (bound size : Nat) (run : Run) :
    Prop where
  paced : Paced agents start bound size (contextIds run) run
  equipped : Equipped agents run.contexts run

/-- Phase 3 with the nodes `rest` to come. -/
structure PacedSettling (agents : String → Option Agent) (start : DAG) (bound size : Nat)
    (rest : List NodeContext) (run : Run) : Prop where
  paced : Paced agents start bound size (rest.map (fun context => context.node.nodeId)) run
  equipped : Equipped agents rest run

theorem PacedPreparing.prepareNode {visit : Visit} {run : Run} {node : DAGNode} {rest : List DAGNode}
    (h : PacedPreparing agents start bound size (node :: rest) run) :
    Outcome.Holds (PacedPreparing agents start bound size rest) (fun _ => True)
      (prepareNode env workflowId agents visit run node) := by
  have hperm : (contextIds run ++ (node :: rest).map DAGNode.nodeId).Perm
      (node.nodeId :: (contextIds run ++ rest.map DAGNode.nodeId)) := List.perm_middle
  have hpaced := h.paced.perm hperm.symm
  have hmem : node.nodeId ∈ run.dag.ids := hpaced.known _ List.mem_cons_self
  have hother : ∀ context ∈ run.contexts, context.node.nodeId ≠ node.nodeId := by
    intro context hcontext heq
    refine (List.nodup_cons.1 hpaced.nodup).1 (List.mem_append_left _ ?_)
    exact heq ▸ mem_contextIds hcontext
  refine (prepareNode_steps env workflowId agents visit run node hmem).mono ?_ (fun _ h => h)
  rintro run' ⟨hsteps, hended, hcontexts⟩
  have hstarted : ∀ context ∈ run.contexts, ¬IsWaiting run'.dag context.node.nodeId :=
    fun context hcontext hwaiting => h.started context hcontext
      (hsteps.waiting _ (hother context hcontext) hwaiting)
  have hequipped : Equipped agents run.contexts run' := by
    intro context hcontext
    obtain ⟨hkey, hagent⟩ := h.equipped context hcontext
    refine ⟨?_, hagent⟩
    rcases hsteps.kept _ (hother context hcontext) with heq | hnone
    · exact heq.trans hkey
    · rw [hkey] at hnone
      cases hnone
  rcases hcontexts with hsame | ⟨taskId, agent, hnew, hkey, hagent⟩
  · have hids : contextIds run' = contextIds run := by rw [contextIds, contextIds, hsame]
    refine ⟨?_, ?_, ?_⟩
    · rw [hids]
      exact hpaced.finish hsteps hended
    · rw [hsame]
      exact hstarted
    · rw [hsame]
      exact hequipped
  · have hids : contextIds run' = contextIds run ++ [node.nodeId] := by
      rw [contextIds, contextIds, hnew, List.map_append, List.map_singleton]
    refine ⟨?_, ?_, ?_⟩
    · rw [hids, List.append_assoc]
      refine (h.paced.keep ?_ hsteps)
      exact List.mem_append_right _ List.mem_cons_self
    · intro context hcontext
      rw [hnew] at hcontext
      rcases List.mem_append.1 hcontext with hold | hlast
      · exact hstarted context hold
      · rw [List.mem_singleton.1 hlast]
        exact hended
    · intro context hcontext
      rw [hnew] at hcontext
      rcases List.mem_append.1 hcontext with hold | hlast
      · exact hequipped context hold
      · rw [List.mem_singleton.1 hlast]
        exact ⟨hkey, by rw [hagent]; rfl⟩

private theorem perm_dropContext {run : Run} {nodeId : String} (hnodup : (contextIds run).Nodup)
    (hmem : nodeId ∈ contextIds run) :
    (nodeId :: contextIds (run.dropContext nodeId)).Perm (contextIds run) := by
  rw [contextIds_dropContext]
  have herase : (contextIds run).erase nodeId = (contextIds run).filter (· ≠ nodeId) := by
    rw [hnodup.erase_eq_filter]
    refine List.filter_congr (fun other _ => ?_)
    by_cases heq : other = nodeId
    · simp [heq]
    · simp [heq]
  rw [← herase]
  exact (List.perm_cons_erase hmem).symm

theorem mem_of_dropContext {run : Run} {nodeId : String} {context : NodeContext}
    (h : context ∈ (run.dropContext nodeId).contexts) : context ∈ run.contexts :=
  (List.mem_filter.1 h).1

/-- A verdict: a denied node stays as it is, without its context. -/
theorem PacedPreparing.policyEvaluateNode {visit : Visit} {run : Run} {escalated : List DAGNode}
    {context : NodeContext} (h : PacedPreparing agents start bound size [] run) :
    Outcome.Holds (fun state => PacedPreparing agents start bound size [] state.1) (fun _ => True)
      (policyEvaluateNode visit (run, escalated) context) := by
  refine (policyEvaluateNode_moves visit run escalated context).mono ?_ (fun _ h => h)
  rintro ⟨run', escalated'⟩ ⟨hmoves, hdag, hcontexts⟩
  dsimp only at hmoves hdag hcontexts ⊢
  have hpaced : Paced agents start bound size (contextIds run) run := by
    have hhere := h.paced
    rwa [List.map_nil, List.append_nil] at hhere
  have hcounts : ∀ other, IsWaiting run'.dag other → IsWaiting run.dag other := by
    rw [hdag]
    exact fun _ h => h
  rcases hcontexts with hsame | hdropped
  · have hids : contextIds run' = contextIds run := by rw [contextIds, contextIds, hsame]
    refine ⟨?_, ?_, ?_⟩
    · rw [List.map_nil, List.append_nil, hids]
      exact hpaced.still hmoves.ids (fun other => Or.imp_right (hcounts other)) hmoves.retries
        hmoves.replans
    · rw [hsame, hdag]
      exact h.started
    · rw [hsame]
      exact h.equipped.of_kept hmoves.kept
  · have hids : contextIds run' = contextIds (run.dropContext context.node.nodeId) := by
      rw [contextIds, contextIds, hdropped]
    refine ⟨?_, ?_, ?_⟩
    · rw [List.map_nil, List.append_nil, hids]
      by_cases hmem : context.node.nodeId ∈ contextIds run
      · refine (hpaced.perm (perm_dropContext hpaced.nodup hmem)).finish hmoves.steps ?_
        obtain ⟨held, hheld, heq⟩ := List.mem_map.1 hmem
        intro hwaiting
        exact h.started held hheld (by rw [heq]; exact hcounts _ hwaiting)
      · have hall : contextIds (run.dropContext context.node.nodeId) = contextIds run := by
          rw [contextIds_dropContext, List.filter_eq_self]
          exact fun other hother => decide_eq_true (fun heq => hmem (heq ▸ hother))
        rw [hall]
        exact hpaced.still hmoves.ids (fun other => Or.imp_right (hcounts other))
          hmoves.retries hmoves.replans
    · intro other hother hwaiting
      rw [hdropped] at hother
      exact h.started other (mem_of_dropContext hother) (hcounts _ hwaiting)
    · intro other hother
      rw [hdropped] at hother
      exact h.equipped.of_kept hmoves.kept other (mem_of_dropContext hother)

theorem PacedGating.gateNode {visit : Visit} {run : Run} {node : DAGNode}
    (h : PacedGating agents start bound size run) :
    Outcome.Holds (PacedGating agents start bound size) (fun _ => True)
      (gateNode env workflowId visit run node) := by
  refine (gateNode_moves env workflowId visit run node).mono ?_ (fun _ h => h)
  rintro run' ⟨context, hcontext, hmoves, hsame | ⟨hdropped, hended⟩⟩
  · have hids : contextIds run' = contextIds run := by rw [contextIds, contextIds, hsame]
    refine ⟨?_, ?_⟩
    · rw [hids]
      exact h.paced.keep (mem_contextIds hcontext) hmoves.steps
    · rw [hsame]
      exact h.equipped.of_kept hmoves.kept
  · have hids : contextIds run' = contextIds (run.dropContext context.node.nodeId) := by
      rw [contextIds, contextIds, hdropped]
    refine ⟨?_, fun other hother => ?_⟩
    · rw [hids]
      exact (h.paced.perm (perm_dropContext h.paced.nodup (mem_contextIds hcontext))).finish
        hmoves.steps hended
    · rw [hdropped] at hother
      exact h.equipped.of_kept hmoves.kept other (mem_of_dropContext hother)

theorem PacedSettling.settleNode {visit : Visit} {run : Run} {context : NodeContext}
    {rest : List NodeContext} (hagents : AssignsOnly agents start)
    (h : PacedSettling agents start bound size (context :: rest) run) :
    Outcome.Holds (PacedSettling agents start bound size rest) (fun _ => True)
      (settleNode env workflowId visit run context) := by
  have hrest : Equipped agents rest run :=
    fun other hother => h.equipped other (List.mem_cons_of_mem _ hother)
  refine (settleNode_turned env workflowId visit run context).mono ?_ (fun _ h => h)
  intro run' hturned
  cases hturned with
  | ended hmoves hended =>
    exact ⟨h.paced.finish hmoves.steps hended, hrest.of_kept hmoves.kept⟩
  | replanned run₁ hmoves hended hreplanned =>
    refine ⟨(h.paced.finish hmoves.steps hended).replan hagents hreplanned, ?_⟩
    obtain ⟨node, hadd, -⟩ := hreplanned.added
    exact (hrest.of_kept hmoves.kept).of_kept (DAG.tasksKept_addNode hadd)
  | retried hmoves hbelow hcounted =>
    refine ⟨h.paced.leave hmoves.steps ?_, hrest.of_kept hmoves.kept⟩
    obtain ⟨hkey, hagent⟩ := h.equipped context List.mem_cons_self
    obtain ⟨agent, hagent⟩ := Option.isSome_iff_exists.1 hagent
    have hbefore : retries run context.node.nodeId = run.db.retryCount context.taskId := by
      rw [retries, hkey]
      rfl
    have hafter : retries run' context.node.nodeId = run'.db.retryCount context.taskId := by
      rw [retries, hmoves.kept _ _ hkey]
      rfl
    -- the retry that was counted is one turn less, whether the node counts or not
    have hturns : turnsLeft agents run' context.node.nodeId <
        turnsLeft agents run context.node.nodeId := by
      unfold turnsLeft
      rw [hagent, hbefore, hafter]
      dsimp only
      omega
    unfold weight
    split
    · exact hturns
    · exact turnsLeft_pos run _

/-- A batch uses up a turn for each of its ready nodes. -/
theorem executeBatch_potential (hagents : AssignsOnly agents start) (iteration : Nat) (run : Run)
    (hgrown : start.ids ⊆ run.dag.ids) :
    Outcome.Holds
      (fun run' => potential agents [] run' + run.dag.getReadyNodes.length ≤
        potential agents [] run ∧ start.ids ⊆ run'.dag.ids)
      (fun _ => True) (executeBatch env workflowId agents iteration run) := by
  have hopened : PacedPreparing agents start (potential agents [] run) run.dag.getReadyNodes.length
      run.dag.getReadyNodes (openBatch run) := by
    refine ⟨⟨?_, DAG.getReadyNodes_nodup run.dag, fun nodeId hnode => ?_, hgrown⟩, ?_, ?_⟩
    · have hsum : (run.dag.ids.map (weight agents
          (run.dag.getReadyNodes.map DAGNode.nodeId) run)).sum ≤
            (run.dag.ids.map (weight agents [] run)).sum := by
        refine List.sum_le_sum (fun other _ => weight_le (fun hcounts => Or.inr ?_) (le_refl _))
        rcases hcounts with hready | hwaiting
        · obtain ⟨node, hnode, rfl⟩ := List.mem_map.1 hready
          obtain ⟨hfound, hstart⟩ := DAG.mem_getReadyNodes.1 hnode
          exact ⟨node.status, DAG.status?_eq_some_iff.2 ⟨node, hfound, rfl⟩, hstart.1⟩
        · exact hwaiting
      show (run.dag.ids.map (weight agents (run.dag.getReadyNodes.map DAGNode.nodeId) run)).sum +
        (maxReplansPerWorkflow - run.replanCount) + _ ≤ potential agents [] run +
          (run.dag.getReadyNodes.map DAGNode.nodeId).length
      rw [List.length_map]
      unfold potential
      omega
    · obtain ⟨node, hmem, rfl⟩ := List.mem_map.1 hnode
      exact DAG.mem_ids_iff.2 ⟨node, (DAG.mem_getReadyNodes.1 hmem).1⟩
    · intro context hcontext
      cases hcontext
    · intro context hcontext
      cases hcontext
  have hcalled : Outcome.Holds
      (PacedGating agents start (potential agents [] run) run.dag.getReadyNodes.length)
      (fun _ => True) (callPhases env workflowId agents iteration run) := by
    refine callPhases_holds (P := PacedPreparing agents start (potential agents [] run)
        run.dag.getReadyNodes.length)
      (Q := PacedPreparing agents start (potential agents [] run) run.dag.getReadyNodes.length [])
      (fun _ _ _ _ h => h.prepareNode) (fun _ h => h) (fun _ _ _ _ h => h.policyEvaluateNode)
      (fun run h => ⟨?_, h.equipped⟩) (fun _ _ _ h => h.gateNode) (fun run gated h => ?_)
      (fun _ _ => trivial) iteration run hopened
    · exact ⟨h.paced.still rfl (fun _ h => h) (fun _ => le_refl _) rfl, h.equipped⟩
    · have hpaced := h.paced
      rwa [List.map_nil, List.append_nil] at hpaced
  refine executeBatch_rule hcalled
    (S := PacedSettling agents start (potential agents [] run) run.dag.getReadyNodes.length)
    (fun run h => ⟨h.paced, h.equipped⟩) (fun _ _ _ _ h => h.settleNode hagents)
    (fun run' f h => ?_) (fun _ _ => trivial)
  exact ⟨h.paced.within, h.paced.grown⟩

/-! ## The loop -/

/-- The loop is left after at most one iteration more than turns are left. -/
theorem iterations_le_potential (hagents : AssignsOnly agents start) (remaining iteration : Nat)
    (run : Run) (hgrown : start.ids ⊆ run.dag.ids) :
    iterations env workflowId agents remaining iteration run ≤ potential agents [] run + 1 := by
  induction remaining generalizing iteration run with
  | zero => exact Nat.zero_le _
  | succ remaining ih =>
    unfold iterations
    split
    · exact Nat.zero_le _
    · split
      · omega
      · rename_i hready
        have hbatch := @executeBatch_potential agents env workflowId start hagents
          iteration run hgrown
        split
        · omega
        · rename_i run' hrun'
          obtain ⟨hless, hgrown'⟩ := hbatch.of_ok hrun'
          have hrest := ih (iteration + 1) run' hgrown'
          have hpos : 0 < run.dag.getReadyNodes.length := by
            rw [List.length_pos_iff]
            exact fun hnil => hready (by rw [hnil]; rfl)
          omega

/-- A loop that runs away has used up a turn in every iteration. -/
theorem le_potential_of_runaway (hagents : AssignsOnly agents start) (remaining iteration : Nat)
    (run last : Run) (hgrown : start.ids ⊆ run.dag.ids)
    (h : loop env workflowId agents remaining iteration run = .ok (true, last)) :
    remaining ≤ potential agents [] run := by
  induction remaining generalizing iteration run with
  | zero => exact Nat.zero_le _
  | succ remaining ih =>
    unfold loop at h
    split at h
    · cases h
    · split at h
      · cases h
      · rename_i hready
        obtain ⟨run', hrun', hrest⟩ := Outcome.bind_eq_ok h
        obtain ⟨hless, hgrown'⟩ := (executeBatch_potential hagents iteration run hgrown).of_ok hrun'
        have hlater := ih (iteration + 1) run' hgrown' hrest
        have hpos : 0 < run.dag.getReadyNodes.length := by
          rw [List.length_pos_iff]
          exact fun hnil => hready (by rw [hnil]; rfl)
        omega

end Batch

/-- Three turns for each node, and three alternatives. -/
theorem potential_startRun (env : Environment) (workflowId : UUID)
    (agents : String → Option Agent) (db : Db) (dag : DAG) :
    potential agents [] (startRun env workflowId db dag) ≤ 3 * dag.nodes.length + 3 := by
  have hweight : ∀ nodeId ∈ dag.ids,
      weight agents [] (startRun env workflowId db dag) nodeId ≤ 3 := by
    intro nodeId _
    unfold weight turnsLeft SelfCorrectionEngine.maxRetriesPerTask
    split
    · split
      · omega
      · omega
    · omega
  have hsum : (dag.ids.map (weight agents [] (startRun env workflowId db dag))).sum ≤
      dag.ids.length * 3 := by
    have h := List.sum_le_sum hweight
    rwa [List.map_const', List.sum_replicate, Nat.nsmul_eq_mul] at h
  have hids : dag.ids.length = dag.nodes.length := List.length_map _
  show (dag.ids.map (weight agents [] (startRun env workflowId db dag))).sum +
    (maxReplansPerWorkflow - 0) ≤ _
  unfold maxReplansPerWorkflow
  omega

/-- The loop is left after at most `3 * (n + 3)` iterations, so that the guard
against a runaway loop is never reached. -/
theorem iterations_le (env : Environment) (workflowId : UUID) (agents : String → Option Agent)
    (db : Db) (dag : DAG) (hagents : AssignsOnly agents dag) :
    iterations env workflowId agents (maxIterations dag) 1 (startRun env workflowId db dag) ≤
        3 * (dag.nodes.length + 3) ∧
      3 * (dag.nodes.length + 3) < maxIterations dag ∧
      ∀ run, loop env workflowId agents (maxIterations dag) 1 (startRun env workflowId db dag) ≠
        .ok (true, run) := by
  have hstart := potential_startRun env workflowId agents db dag
  have hgrown : dag.ids ⊆ (startRun env workflowId db dag).dag.ids := fun _ h => h
  have hlimit : 3 * (dag.nodes.length + 3) < maxIterations dag := by
    unfold maxIterations
    omega
  refine ⟨?_, hlimit, fun run hloop => ?_⟩
  · have hbound := @iterations_le_potential agents env workflowId dag hagents
      (maxIterations dag) 1 _ hgrown
    omega
  · have hbound := le_potential_of_runaway hagents _ _ _ _ hgrown hloop
    omega

open SchedulerExample in
/-- One node, with an agent of its own. -/
theorem iterations_le_of_single :
    iterations (env (fun _ nodeId => visit nodeId)) (UUID.ofNat 1)
        (fun nodeId => if nodeId = "t1" then some agent else none) 50 1
        (startRun (env (fun _ nodeId => visit nodeId)) (UUID.ofNat 1) db
          (DAG.ofNodes [root "t1" "research"])) ≤ 12 := by
  refine (iterations_le (env (fun _ nodeId => visit nodeId)) (UUID.ofNat 1)
    (fun nodeId => if nodeId = "t1" then some agent else none) db
    (DAG.ofNodes [root "t1" "research"]) ?_).1
  intro nodeId hnot
  refine if_neg (fun heq => hnot ?_)
  rw [heq]
  decide

end WorkflowScheduler

end MassClaw
