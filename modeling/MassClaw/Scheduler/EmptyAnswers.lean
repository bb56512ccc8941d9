import MassClaw.Dag.Engaged
import MassClaw.Scheduler.ToolCosts

/-!
# Empty answers

The tool loop returns an empty content when its rounds are used up, or the
budget is, and no text can be had.  Nothing looks at the content until the
scheduler builds the request that stores it in shared memory: the request
refuses an empty content, so the node fails after it has been charged, and all
nodes that wait for it are skipped.
-/

namespace MassClaw

namespace WorkflowScheduler

/-! ## The number of calls -/

section Calls

variable (env : ToolEnvironment) (workflow : Workflow) (node : DAGNode)

theorem length_roundCalls (remaining iteration : Nat) (state : ToolLoop) :
    (roundCalls env workflow node remaining iteration state).length ≤ remaining := by
  induction remaining generalizing iteration state with
  | zero => exact le_refl _
  | succ remaining ih =>
    unfold roundCalls
    cases env.generate iteration with
    | error message => simp
    | ok answer =>
      dsimp only
      split
      · simp
      · split
        · rw [List.length_cons]
          exact Nat.succ_le_succ (ih _ _)
        · simp

theorem length_summaryCall (result : RoundsEnd × ToolLoop) :
    (summaryCall env workflow node result).length ≤ 1 := by
  unfold summaryCall
  split
  · split
    · simp
    · simp
  · simp

/-- One call for each round, and one more without tools. -/
theorem length_modelCalls (agent : Agent) :
    ((modelCalls env workflow node agent).length : Int) ≤ max env.toolMaxIterations 0 + 1 := by
  unfold modelCalls
  split
  · simp only [List.length_nil]
    omega
  · have hrounds := length_roundCalls env workflow node env.toolMaxIterations.toNat 0 {}
    have hsummary := length_summaryCall env workflow node
      (toolRounds env workflow node env.toolMaxIterations.toNat 0 {} none)
    rw [List.length_append]
    omega

end Calls

/-! ## The nodes with an empty answer -/

/-- The node of a response without content. -/
def emptyAnswer? : Event → Option String
  | .processed context response _ _ =>
    if response.content = "" then some context.node.nodeId else none
  | _ => none

/-- The nodes that Phase 3 has seen an empty content of. -/
def emptied (run : Run) : List String := run.log.filterMap emptyAnswer?

theorem emptied_eq {run run' : Run} {events : List Event} (hlog : run'.log = run.log ++ events)
    (hevents : ∀ event ∈ events, emptyAnswer? event = none) : emptied run' = emptied run := by
  unfold emptied
  rw [hlog, List.filterMap_append, List.filterMap_eq_nil_iff.2 hevents, List.append_nil]

theorem emptied_of_log {run run' : Run} (hlog : run'.log = run.log) :
    emptied run' = emptied run := by
  unfold emptied
  rw [hlog]

theorem emptied_of_event {run run' : Run} {event : Event} (hlog : run'.log = run.log ++ [event])
    (hevent : emptyAnswer? event = none) : emptied run' = emptied run := by
  refine emptied_eq hlog (fun other hother => ?_)
  rw [List.mem_singleton.1 hother]
  exact hevent

/-- A step on one node leaves the other failed nodes failed. -/
def KeepsFailed (nodeId : String) (dag dag' : DAG) : Prop :=
  ∀ other, other ≠ nodeId → dag.status? other = some .failed → dag'.status? other = some .failed

section KeepsFailed

variable {nodeId : String} {dag dag' dag'' : DAG}

theorem KeepsFailed.trans (h : KeepsFailed nodeId dag dag') (h' : KeepsFailed nodeId dag' dag'') :
    KeepsFailed nodeId dag dag'' :=
  fun other hne hfailed => h' other hne (h other hne hfailed)

theorem KeepsFailed.of_assign {status : TaskStatus}
    (h : ∀ other, dag'.status? other =
      if other = nodeId then (dag.status? other).map (fun _ => status) else dag.status? other) :
    KeepsFailed nodeId dag dag' := by
  intro other hne hfailed
  rw [h, if_neg hne]
  exact hfailed

theorem keepsFailed_markFailed (error : Option String) :
    KeepsFailed nodeId dag (dag.markFailed nodeId error) := by
  intro other hne hfailed
  obtain ⟨node, hnode, hstatus⟩ := DAG.status?_eq_some_iff.1 hfailed
  refine DAG.status?_eq_some_iff.2 ⟨node, ?_, hstatus⟩
  refine DAG.node?_markFailed_of_not_skippable dag nodeId error hne hnode ?_
  rw [hstatus]
  decide

theorem keepsFailed_tasked {taskId : UUID} (h : Tasked dag dag' nodeId taskId) :
    KeepsFailed nodeId dag dag' := by
  intro other _ hfailed
  rcases h with ⟨rfl, -⟩ | rfl
  · exact hfailed
  · rw [DAG.status?_setTaskId]
    exact hfailed

theorem keepsFailed_reflected (h : Reflected dag nodeId dag') : KeepsFailed nodeId dag dag' := by
  rcases h with rfl | rfl | ⟨text, added, hreplan⟩
  · exact fun _ _ hfailed => hfailed
  · exact .of_assign (DAG.status?_markPending dag nodeId)
  · obtain ⟨node, -, rfl, hadd⟩ := DynamicReplanner.replan_eq_some hreplan
    intro other _ hfailed
    rw [DAG.status?_addNode_of_mem hadd (DAG.mem_ids_of_status? hfailed)]
    exact hfailed

end KeepsFailed

/-- A completed node is left alone, reset, or gets an alternative. -/
theorem engaged_reflected {start dag dag' : DAG} {active : Set String} {nodeId : String}
    {output : Option String} (h : DAG.Engaged start dag active) (hactive : nodeId ∈ active)
    (hreflected : Reflected (dag.markCompleted nodeId output) nodeId dag') :
    DAG.Engaged start dag' (active \ {nodeId}) := by
  rcases hreflected with rfl | rfl | ⟨text, added, hreplan⟩
  · exact h.markCompleted hactive output
  · exact h.retry hactive output
  · obtain ⟨node, hnode, rfl, hadd⟩ := DynamicReplanner.replan_eq_some hreplan
    refine (h.markCompleted hactive output).addNode hadd rfl ?_
    intro dep hdep
    have hdeps : dep ∈ dag.deps nodeId := by
      rw [DAG.deps_of_markCompleted hnode]
      exact hdep
    have hdone := h.met nodeId hactive dep hdeps
    rw [DAG.status?_markCompleted, if_neg (h.ne_of_completed hactive hdone)]
    exact hdone

/-! ## The invariant -/

/-- The nodes with an empty answer have failed, and none of them is at work. -/
structure EmptyFails (start : DAG) (active : Set String) (run : Run) : Prop where
  engaged : DAG.Engaged start run.dag active
  failed : ∀ nodeId ∈ emptied run, run.dag.status? nodeId = some .failed
  idle : ∀ nodeId ∈ emptied run, nodeId ∉ active

namespace EmptyFails

variable {start : DAG} {active active' : Set String} {run run' : Run} {nodeId : String}

theorem mono (h : EmptyFails start active run) (hsub : ∀ other ∈ active', other ∈ active)
    (hdag : run'.dag = run.dag) (hemptied : emptied run' = emptied run) :
    EmptyFails start active' run' := by
  refine ⟨?_, ?_, ?_⟩
  · rw [hdag]
    exact h.engaged.mono hsub
  · rw [hemptied, hdag]
    exact h.failed
  · rw [hemptied]
    exact fun other hother hactive => h.idle other hother (hsub other hactive)

/-- A step on a node at work, after which the node has failed if its answer is
empty. -/
theorem step (h : EmptyFails start active run) (hactive : nodeId ∈ active)
    (hengaged : DAG.Engaged start run'.dag active') (hsub : ∀ other ∈ active', other ∈ active)
    (hkeeps : KeepsFailed nodeId run.dag run'.dag)
    (hemptied : ∀ other ∈ emptied run', other ∈ emptied run ∨
      other = nodeId ∧ nodeId ∉ active' ∧ run'.dag.status? nodeId = some .failed) :
    EmptyFails start active' run' where
  engaged := hengaged
  failed := by
    intro other hother
    rcases hemptied other hother with hold | ⟨rfl, -, hfailed⟩
    · refine hkeeps other (fun heq => ?_) (h.failed other hold)
      exact h.idle other hold (heq ▸ hactive)
    · exact hfailed
  idle := by
    intro other hother
    rcases hemptied other hother with hold | ⟨rfl, hgone, -⟩
    · exact fun hmem => h.idle other hold (hsub other hmem)
    · exact hgone

end EmptyFails

/-! ## The points of a batch -/

/-- The invariant at each point of a batch. -/
def emptyPhases (start : DAG) : Phases where
  between run := EmptyFails start ∅ run
  preparing rest run :=
    EmptyFails start {id | id ∈ contextIds run ∨ id ∈ rest.map DAGNode.nodeId} run ∧
      (contextIds run ++ rest.map DAGNode.nodeId).Nodup
  evaluating run := EmptyFails start {id | id ∈ contextIds run} run ∧ (contextIds run).Nodup
  gating _ _ run := EmptyFails start {id | id ∈ contextIds run} run ∧ (contextIds run).Nodup
  settling rest run :=
    EmptyFails start {id | id ∈ rest.map (fun context => context.node.nodeId)} run ∧
      (rest.map (fun context => context.node.nodeId)).Nodup

section Kept

variable {env : Environment} {workflowId : UUID} {agents : String → Option Agent} {start : DAG}
  {run run' : Run}

/-- The nodes of a new batch wait, so none of them has failed. -/
theorem emptyFails_opened (h : EmptyFails start ∅ run) :
    EmptyFails start {id | id ∈ run.dag.getReadyNodes.map DAGNode.nodeId} (openBatch run) := by
  have hemptied : emptied (openBatch run) = emptied run := emptied_of_event rfl rfl
  refine ⟨h.engaged.of_ready, ?_, ?_⟩
  · rw [hemptied]
    exact h.failed
  · rw [hemptied]
    intro other hother hready
    obtain ⟨node, hnode, heq⟩ := List.mem_map.1 hready
    obtain ⟨⟨status, hstatus, hstart⟩, -⟩ := DAG.Consistent.of_ready ⟨node, hnode, heq⟩
    rw [h.failed other hother] at hstatus
    cases hstatus
    exact absurd hstart (by decide)

/-- A node that fails before it is called. -/
theorem emptyFails_markFailed {active active' : Set String} {nodeId : String}
    {error : Option String} (h : EmptyFails start active run)
    (hactive : nodeId ∈ active) (hsub : ∀ other ∈ active', other ∈ active \ {nodeId})
    (hdag : run'.dag = run.dag.markFailed nodeId error ∨
      ∃ taskId, Tasked (run.dag.markFailed nodeId error) run'.dag nodeId taskId)
    (hemptied : emptied run' = emptied run) : EmptyFails start active' run' := by
  have hold : ∀ other ∈ emptied run', other ∈ emptied run ∨
      other = nodeId ∧ nodeId ∉ active' ∧ run'.dag.status? nodeId = some .failed := by
    rw [hemptied]
    exact fun other hother => Or.inl hother
  have hless : ∀ other ∈ active', other ∈ active := fun other hother => (hsub other hother).1
  have hfailed := (h.engaged.markFailed hactive error).mono hsub
  rcases hdag with hdag | ⟨taskId, htask⟩
  · apply h.step hactive _ hless _ hold
    · rw [hdag]
      exact hfailed
    · rw [hdag]
      exact keepsFailed_markFailed error
  · apply h.step hactive _ hless _ hold
    · rcases htask with ⟨hdag, -⟩ | hdag
      · rw [hdag]
        exact hfailed
      · rw [hdag]
        exact hfailed.setTaskId taskId
    · exact (keepsFailed_markFailed error).trans (keepsFailed_tasked htask)

theorem emptyFails_prepared {node : DAGNode} {rest : List DAGNode}
    (h : (emptyPhases start).preparing (node :: rest) run)
    (hprepared : Prepared env workflowId agents run node run') :
    (emptyPhases start).preparing rest run' := by
  obtain ⟨hfails, hnodup⟩ := h
  have hactive : node.nodeId ∈
      {id | id ∈ contextIds run ∨ id ∈ (node :: rest).map DAGNode.nodeId} :=
    Or.inr List.mem_cons_self
  have hsplit : (contextIds run ++ rest.map DAGNode.nodeId).Nodup ∧
      node.nodeId ∉ contextIds run ++ rest.map DAGNode.nodeId := nodup_split hnodup
  have hsub : ∀ other ∈ {id | id ∈ contextIds run ∨ id ∈ rest.map DAGNode.nodeId},
      other ∈ {id | id ∈ contextIds run ∨ id ∈ (node :: rest).map DAGNode.nodeId} \
        {node.nodeId} :=
    fun other => (mem_split_iff hnodup other).1
  cases hprepared with
  | noAgent error _ hrun =>
    subst hrun
    exact ⟨emptyFails_markFailed hfails hactive hsub
      (Or.inl rfl) (emptied_of_log rfl), hsplit.1⟩
  | starved error tasks dag taskId htask hrun =>
    subst hrun
    exact ⟨emptyFails_markFailed hfails hactive hsub (Or.inr ⟨taskId, htask⟩) (emptied_of_log rfl),
      hsplit.1⟩
  | started agent reservation db tasks dag taskId _ _ htask hrun =>
    subst hrun
    have hids := contextIds_concat run { node, taskId, agent }
    have hmem : ∀ other ∈ {id | id ∈ contextIds run ++ [node.nodeId] ∨
        id ∈ rest.map DAGNode.nodeId},
        other ∈ {id | id ∈ contextIds run ∨ id ∈ (node :: rest).map DAGNode.nodeId} := by
      intro other hother
      rcases hother with hother | hother
      · rcases List.mem_append.1 hother with hold | hnew
        · exact Or.inl hold
        · rw [List.mem_singleton.1 hnew]
          exact hactive
      · exact Or.inr (List.mem_cons_of_mem _ hother)
    have hrunning : DAG.Engaged start dag {id | id ∈ contextIds run ++ [node.nodeId] ∨
        id ∈ rest.map DAGNode.nodeId} := by
      have hmarked := (hfails.engaged.markRunning hactive).mono hmem
      rcases htask with ⟨rfl, -⟩ | rfl
      · exact hmarked
      · exact hmarked.setTaskId taskId
    have hkeeps : KeepsFailed node.nodeId run.dag dag :=
      (KeepsFailed.of_assign (DAG.status?_markRunning run.dag node.nodeId)).trans
        (keepsFailed_tasked htask)
    have hemptied : ∀ db reservations contexts, emptied { run with
        db, dag, reservations, contexts, log := run.log ++ [.reserved node.nodeId reservation] } =
        emptied run := fun _ _ _ => emptied_of_event rfl rfl
    refine ⟨?_, ?_⟩
    · show EmptyFails start {id | id ∈ contextIds { run with
        contexts := run.contexts ++ [{ node, taskId, agent }] } ∨ _} _
      rw [hids]
      apply hfails.step hactive hrunning hmem hkeeps
      intro other hother
      rw [hemptied] at hother
      exact Or.inl hother
    · show (contextIds { run with contexts := run.contexts ++ [{ node, taskId, agent }] } ++
        _).Nodup
      rw [hids, List.append_assoc]
      exact hnodup

theorem emptyFails_gated {all rest : List DAGNode} {node : DAGNode} {visit : Visit}
    {context : NodeContext} (h : (emptyPhases start).gating all (node :: rest) run)
    (hcontext : context ∈ run.contexts) (hgated : Gated env workflowId visit run context run') :
    (emptyPhases start).gating all rest run' := by
  obtain ⟨hfails, hnodup⟩ := h
  have hactive : context.node.nodeId ∈ {id | id ∈ contextIds run} := mem_contextIds hcontext
  cases hgated with
  | denied decision tasks error _ hrun =>
    subst hrun
    have hsub : ∀ other ∈ {id | id ∈ contextIds (run.dropContext context.node.nodeId)},
        other ∈ {id | id ∈ contextIds run} \ {context.node.nodeId} :=
      fun _ => mem_contextIds_dropContext.1
    exact ⟨emptyFails_markFailed hfails hactive hsub (Or.inl rfl) (emptied_of_event rfl rfl),
      nodup_dropContext hnodup _⟩
  | passed decision _ _ hrun =>
    subst hrun
    exact ⟨hfails.mono (fun _ hother => hother) rfl (emptied_of_event rfl rfl), hnodup⟩
  | fellThrough tasks _ hrun =>
    subst hrun
    refine ⟨?_, hnodup⟩
    apply hfails.step hactive (hfails.engaged.markPending hactive) (fun _ hother => hother)
      (KeepsFailed.of_assign (DAG.status?_markPending _ _))
    have hemptied : ∀ db dag reopened, emptied { run with
        db, dag, reopened, log := run.log ++
          [.statusRead context.node.nodeId visit.statusRead] } = emptied run :=
      fun _ _ _ => emptied_of_event rfl rfl
    intro other hother
    rw [hemptied] at hother
    exact Or.inl hother

/-- What Phase 3 records names the node, and only if its answer is empty. -/
theorem emptied_settled {context : NodeContext} {visit : Visit}
    (h : Settled env workflowId visit run context run') :
    ∀ other ∈ emptied run', other ∈ emptied run ∨ other = context.node.nodeId ∧
      ∃ response, visit.response = .ok response ∧ response.content = "" := by
  obtain ⟨events, hlog, hevents⟩ := h.events
  have hreleased : ∀ event ∈ events, emptyAnswer? event = none := by
    intro event hevent
    obtain ⟨reservation, raised, heq⟩ := hevents event hevent
    rw [heq]
    rfl
  intro other hother
  unfold emptied at hother
  rw [hlog, List.filterMap_append, List.filterMap_append,
    List.filterMap_eq_nil_iff.2 hreleased, List.append_nil] at hother
  rcases List.mem_append.1 hother with hold | hnew
  · exact Or.inl hold
  · refine Or.inr ?_
    unfold attempt at hnew
    cases hresponse : visit.response with
    | error message =>
      rw [hresponse] at hnew
      cases hnew
    | ok response =>
      rw [hresponse] at hnew
      obtain ⟨event, hevent, hempty⟩ := List.mem_filterMap.1 hnew
      rw [List.mem_singleton.1 hevent] at hempty
      by_cases hcontent : response.content = ""
      · have hnode : some context.node.nodeId = some other := by
          rw [← hempty]
          exact (if_pos hcontent).symm
        cases hnode
        exact ⟨rfl, response, rfl, hcontent⟩
      · have hnone : none = some other := by
          rw [← hempty]
          exact (if_neg hcontent).symm
        cases hnone

/-- An answer that is stored is not empty. -/
theorem Wrote.content_ne {visit : Visit} {context : NodeContext} {content : String} {db db' : Db}
    (h : Wrote env workflowId visit context content db db') : content ≠ "" := by
  obtain ⟨hlength, -⟩ := h
  intro heq
  subst heq
  exact absurd hlength.1 (by decide)

theorem emptyFails_settled {context : NodeContext} {rest : List NodeContext} {visit : Visit}
    (h : (emptyPhases start).settling (context :: rest) run)
    (hsettled : Settled env workflowId visit run context run') :
    (emptyPhases start).settling rest run' := by
  obtain ⟨hfails, hnodup⟩ := h
  have hactive : context.node.nodeId ∈
      {id | id ∈ (context :: rest).map (fun context => context.node.nodeId)} :=
    List.mem_cons_self
  have hgone : context.node.nodeId ∉ rest.map (fun context => context.node.nodeId) :=
    (List.nodup_cons.1 hnodup).1
  have hsub : ∀ other ∈ {id | id ∈ rest.map (fun context => context.node.nodeId)},
      other ∈ {id | id ∈ (context :: rest).map (fun context => context.node.nodeId)} \
        {context.node.nodeId} :=
    fun other => (mem_rest_iff hnodup other).1
  have hless : ∀ other ∈ {id | id ∈ rest.map (fun context => context.node.nodeId)},
      other ∈ {id | id ∈ (context :: rest).map (fun context => context.node.nodeId)} :=
    fun other hother => (hsub other hother).1
  have hemptied := emptied_settled hsettled
  have hfailed : ∀ error, run'.dag = run.dag.markFailed context.node.nodeId error →
      EmptyFails start {id | id ∈ rest.map (fun context => context.node.nodeId)} run' := by
    intro error hdag
    have hengaged := (hfails.engaged.markFailed hactive error).mono hsub
    have hself : run'.dag.status? context.node.nodeId = some .failed := by
      rw [hdag]
      exact DAG.status?_markFailed_self (hfails.engaged.present _ hactive) error
    refine hfails.step hactive ?_ hless ?_ ?_
    · rw [hdag]
      exact hengaged
    · rw [hdag]
      exact keepsFailed_markFailed error
    · intro other hother
      exact (hemptied other hother).imp id (fun hnew => ⟨hnew.1, hgone, hself⟩)
  refine ⟨?_, (List.nodup_cons.1 hnodup).2⟩
  cases hsettled with
  | llmFailed message tasks run₁ _ hreleased hrun =>
    have hdag : run₁.dag = run.dag := by rw [hreleased.eq]
    apply hfailed (some message)
    rw [hrun, ← hdag]
  | completed response hresponse hcompleted =>
    obtain ⟨_, _, _, _, _, dag, _, -, -, hwrote, hdag, hrun⟩ := hcompleted
    have hdagEq : run'.dag = dag := by rw [hrun]
    refine hfails.step hactive ?_ hless ?_ ?_
    · rw [hdagEq]
      exact (engaged_reflected hfails.engaged hactive hdag).mono hsub
    · rw [hdagEq]
      exact (KeepsFailed.of_assign (DAG.status?_markCompleted run.dag _ _)).trans
        (keepsFailed_reflected hdag)
    · intro other hother
      rcases hemptied other hother with hold | ⟨-, given, hgiven, hcontent⟩
      · exact Or.inl hold
      · rw [hresponse] at hgiven
        cases hgiven
        exact absurd hcontent hwrote.content_ne
  | rejected response charged run₁ run₂ tasks error _ hrejected hreleased hrun =>
    have hdag : run₂.dag = run.dag := by rw [hrejected.eq hreleased]; rfl
    apply hfailed (some error)
    rw [hrun, ← hdag]

end Kept

/-- Every run keeps the invariant. -/
theorem emptyPhases_kept {env : Environment} {workflowId : UUID}
    {agents : String → Option Agent} {start : DAG} :
    (emptyPhases start).Kept env workflowId agents (fun _ => True)
      (fun stopped => stopped.1 ≠ .raised → EmptyFails start ∅ stopped.2) where
  opened := by
    intro run h
    refine ⟨(emptyFails_opened h).mono (fun other hother => ?_) rfl rfl,
      DAG.getReadyNodes_nodup run.dag⟩
    exact hother.resolve_left List.not_mem_nil
  prepared := fun h hprepared _ => emptyFails_prepared h hprepared
  evaluate := by
    rintro run ⟨hfails, hnodup⟩
    rw [List.map_nil, List.append_nil] at hnodup
    exact ⟨hfails.mono (fun _ hother => Or.inl hother) rfl rfl, hnodup⟩
  evaluated := by
    intro run escalated context state h hevaluated _
    obtain ⟨hfails, hnodup⟩ := h
    cases hevaluated with
    | failed hstate =>
      rw [hstate]
      exact ⟨hfails, hnodup⟩
    | denied ruleId reason tasks hrun _ =>
      rw [hrun]
      exact ⟨hfails.mono (fun _ hother => (mem_contextIds_dropContext.1 hother).1) rfl
        (emptied_of_event rfl rfl), nodup_dropContext hnodup _⟩
    | kept verdict _ hrun _ =>
      rw [hrun]
      exact ⟨hfails.mono (fun _ hother => hother) rfl (emptied_of_event rfl rfl), hnodup⟩
  gate := fun _ h => h
  gated := fun h hcontext _ hgated _ => emptyFails_gated h hcontext hgated
  paused := by
    intro all node rest run visit context stopped h hcontext _ hpaused _ _
    obtain ⟨workflows, tasks, hstate⟩ := hpaused.state
    have hactive : context.node.nodeId ∈ {id | id ∈ contextIds run} := mem_contextIds hcontext
    rw [hstate]
    refine h.1.step hactive ((h.1.engaged.markPending hactive).mono ?_) ?_
      (KeepsFailed.of_assign (DAG.status?_markPending _ _)) ?_
    · exact fun _ hother => absurd hother (Set.notMem_empty _)
    · exact fun _ hother => absurd hother (Set.notMem_empty _)
    · have hquiet : ∀ event ∈ [ Event.statusRead context.node.nodeId (some "pending")
          , .paused context.node.nodeId (run.contexts.map (fun context => context.node.nodeId))
              (run.reopened ++ [context.node.nodeId]) ], emptyAnswer? event = none := by
        intro event hevent
        rcases List.mem_cons.1 hevent with rfl | hlast
        · rfl
        · rw [List.mem_singleton.1 hlast]
          rfl
      have hemptied : ∀ db dag reopened, emptied { run with db, dag, reopened, log := run.log ++ _ } =
          emptied run := fun _ _ _ => emptied_eq rfl hquiet
      intro other hother
      rw [hemptied] at hother
      exact Or.inl hother
  called := fun h => ⟨h.1.mono (fun _ hother => hother) rfl (emptied_of_event rfl rfl), h.2⟩
  settled := fun h hsettled _ => emptyFails_settled h hsettled
  persist := fun f h => h.1.mono (fun _ hother => absurd hother (Set.notMem_empty _)) rfl rfl
  raised := fun _ hraisedFrom _ hne => absurd hraisedFrom.1 hne

/-- A run that returns or pauses keeps the invariant. -/
theorem emptyFails_of_delivers {env : Environment} {workflowId : UUID}
    {agents : String → Option Agent} {db : Db} {dag : DAG} {run : Run} (hdag : dag.Grounded)
    (hrun : Delivers (executeWorkflow env workflowId agents db dag) run) :
    EmptyFails dag ∅ run := by
  refine emptyPhases_kept.of_delivers ?_ ?_ hrun (fun _ _ => trivial)
  · refine ⟨DAG.Engaged.of_grounded hdag, ?_, ?_⟩
    · exact fun other hother => absurd hother List.not_mem_nil
    · exact fun other hother => absurd hother List.not_mem_nil
  · exact fun last hlast workflows => hlast.mono (fun _ hother => hother) rfl rfl

/-- The event of an empty content names an emptied node. -/
theorem mem_emptied {run : Run} {context : NodeContext} {response : LLMResponse} {before : Db}
    {visit : Visit} (hevent : Event.processed context response before visit ∈ run.log)
    (hcontent : response.content = "") : context.node.nodeId ∈ emptied run :=
  List.mem_filterMap.2 ⟨_, hevent, if_pos hcontent⟩

/-- The tool loop makes at most one call for each round and one more.  When it
returns an empty content, and the run that processes it returns or pauses, the
node has failed and every node that waits for it is skipped, unless it had
failed before the run. -/
theorem emptyAnswer_fails (env : Environment) (workflowId : UUID)
    (agents : String → Option Agent) (db : Db) (dag : DAG) (hdag : dag.Grounded)
    (toolEnv : ToolEnvironment) (workflow : Workflow) (node : DAGNode) (agent : Agent) :
    ((modelCalls toolEnv workflow node agent).length : Int) ≤
        max toolEnv.toolMaxIterations 0 + 1 ∧
      ∀ answer, (runToolLoop toolEnv workflow node agent).outcome = .ok answer →
        answer.response.content = "" →
        ∀ run, Delivers (executeWorkflow env workflowId agents db dag) run →
          ∀ context before visit,
            Event.processed context answer.response before visit ∈ run.log →
            run.dag.status? context.node.nodeId = some .failed ∧
              ∀ other, run.dag.IsDescendant context.node.nodeId other →
                run.dag.status? other = some .skipped ∨
                  dag.status? other = some .failed ∧ run.dag.status? other = some .failed := by
  refine ⟨length_modelCalls toolEnv workflow node agent, ?_⟩
  intro answer _ hcontent run hrun context before visit hevent
  have hfails := emptyFails_of_delivers hdag hrun
  have hfailed := hfails.failed _ (mem_emptied hevent hcontent)
  exact ⟨hfailed, fun other hother => hfails.engaged.skipped_descendant hfailed hother⟩

end WorkflowScheduler

deriving instance DecidableEq for LLMResponse

namespace SchedulerExample

/-- What the exhausted loop returns when the call without tools fails. -/
def emptyResponse : LLMResponse where
  content := ""
  model := "claude-sonnet-5"
  cost := 12 / 1000

/-- Every answer is empty. -/
def answeredEmpty (_ : Nat) (nodeId : String) : Visit :=
  { visit nodeId with response := .ok emptyResponse }

/-- A second node waits for the first one. -/
def waiting : List DAGNode :=
  [root "t1" "research", { root "t2" "research" with dependsOn := ["t1"] }]

/-- The event is the empty answer of the first node. -/
def isEmptyAnswer : Event → Bool
  | .processed context response _ _ => context.node.nodeId == "t1" && response == emptyResponse
  | _ => false

/-- The loop may not make any round, and the setting is not even zero. -/
def negativeRounds : ToolEnvironment := { toolbelt with toolMaxIterations := -1 }

/-- The nodes that wait are a DAG to start with. -/
theorem grounded_waiting : (DAG.ofNodes waiting).Grounded := by
  have hvalid : (DAG.ofNodes waiting).validate = .ok () := by decide +kernel
  have hnew : DAG.new waiting = .ok (DAG.ofNodes waiting) := by
    rw [DAG.new, hvalid]
    rfl
  exact DAG.Begun.grounded hnew (DAG.begun_of_startable (by decide +kernel))

end SchedulerExample

namespace WorkflowScheduler

open SchedulerExample in
/-- The empty answer of an exhausted loop fails its node. -/
theorem emptyAnswer_fails_exhausted :
    ∃ run, Delivers (execute answeredEmpty waiting) run ∧
      run.dag.status? "t1" = some .failed ∧
      (run.dag.status? "t2" = some .skipped ∨
        (DAG.ofNodes waiting).status? "t2" = some .failed ∧
          run.dag.status? "t2" = some .failed) := by
  have hreturned : ∃ result run, execute answeredEmpty waiting = .ok (result, run) ∧
      run.log.any isEmptyAnswer = true ∧ "t1" ∈ run.dag.deps "t2" := by
    have hcheck : (execute answeredEmpty waiting).toOption.any (fun returned =>
        returned.2.log.any isEmptyAnswer && decide ("t1" ∈ returned.2.dag.deps "t2")) = true := by
      decide +kernel
    cases hexecution : execute answeredEmpty waiting with
    | error stopped =>
      rw [hexecution] at hcheck
      cases hcheck
    | ok returned =>
      rw [hexecution] at hcheck
      obtain ⟨hlog, hdep⟩ := Bool.and_eq_true_iff.1 hcheck
      exact ⟨returned.1, returned.2, rfl, hlog, of_decide_eq_true hdep⟩
  have hloop : ∃ answer, (runToolLoop toolbelt workflow (root "t1" "research") searching).outcome =
      .ok answer ∧ answer.response = emptyResponse := by
    have hcheck :
        (runToolLoop toolbelt workflow (root "t1" "research") searching).outcome.toOption.any
          (fun answer => answer.response == emptyResponse) = true := by
      decide +kernel
    cases houtcome : (runToolLoop toolbelt workflow (root "t1" "research") searching).outcome with
    | error message =>
      rw [houtcome] at hcheck
      cases hcheck
    | ok answer =>
      rw [houtcome] at hcheck
      exact ⟨answer, rfl, eq_of_beq hcheck⟩
  obtain ⟨result, run, hrun, hlog, hdep⟩ := hreturned
  obtain ⟨answer, hanswer, hresponse⟩ := hloop
  obtain ⟨event, hevent, hempty⟩ := List.any_eq_true.1 hlog
  have hdelivers : Delivers (execute answeredEmpty waiting) run := Or.inl ⟨result, hrun⟩
  cases event with
  | processed context response before visit =>
    obtain ⟨hid, heq⟩ := Bool.and_eq_true_iff.1 hempty
    have hnode : context.node.nodeId = "t1" := eq_of_beq hid
    rw [eq_of_beq heq, ← hresponse] at hevent
    obtain ⟨hfailed, hdescendants⟩ := (emptyAnswer_fails (env answeredEmpty) (UUID.ofNat 1)
      (fun _ => some agent) db (DAG.ofNodes waiting) grounded_waiting toolbelt workflow
      (root "t1" "research") searching).2 answer hanswer (by rw [hresponse]; rfl) run hdelivers
      context before visit hevent
    rw [hnode] at hfailed hdescendants
    exact ⟨run, hdelivers, hfailed, hdescendants "t2" (.single hdep)⟩
  | _ => cases hempty

open SchedulerExample in
/-- A negative setting still lets the call without tools through. -/
theorem modelCalls_fails :
    ¬∀ (env : ToolEnvironment) (workflow : Workflow) (node : DAGNode) (agent : Agent),
      ((modelCalls env workflow node agent).length : Int) ≤ env.toolMaxIterations + 1 := by
  intro h
  have hcalls : (modelCalls negativeRounds workflow (root "t1" "research") searching).length =
      1 := by decide +kernel
  have hbound := h negativeRounds workflow (root "t1" "research") searching
  rw [hcalls] at hbound
  exact absurd hbound (by decide)

end WorkflowScheduler

end MassClaw
