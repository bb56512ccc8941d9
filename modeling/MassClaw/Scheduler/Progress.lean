import MassClaw.Dag.Progress
import MassClaw.Scheduler.Runs

/-!
# The DAG during a run

As long as no policy verdict is a denial, the nodes at work are exactly those
that hold a context or are still to be prepared.  A denied node would lose its
context and stay running.
-/

namespace MassClaw

namespace WorkflowScheduler

/-- The ids of the nodes with a context. -/
def contextIds (run : Run) : List String := run.contexts.map (fun context => context.node.nodeId)

theorem mem_contextIds {run : Run} {context : NodeContext} (h : context ∈ run.contexts) :
    context.node.nodeId ∈ contextIds run :=
  List.mem_map.2 ⟨context, h, rfl⟩

/-- The ids with a new context. -/
theorem contextIds_concat (run : Run) (context : NodeContext) :
    contextIds { run with contexts := run.contexts ++ [context] } =
      contextIds run ++ [context.node.nodeId] := by
  simp [contextIds]

/-- The ids without the one that is dropped. -/
theorem contextIds_dropContext (run : Run) (nodeId : String) :
    contextIds (run.dropContext nodeId) = (contextIds run).filter (fun id => id ≠ nodeId) := by
  rw [contextIds, contextIds, List.filter_map]
  rfl

theorem mem_contextIds_dropContext {run : Run} {nodeId other : String} :
    other ∈ contextIds (run.dropContext nodeId) ↔ other ∈ contextIds run ∧ other ≠ nodeId := by
  rw [contextIds_dropContext, List.mem_filter, decide_eq_true_eq]

theorem nodup_dropContext {run : Run} (h : (contextIds run).Nodup) (nodeId : String) :
    (contextIds (run.dropContext nodeId)).Nodup := by
  rw [contextIds_dropContext]
  exact h.filter _

/-- The next of several distinct items. -/
theorem nodup_split {ids rest : List String} {first : String} (h : (ids ++ first :: rest).Nodup) :
    (ids ++ rest).Nodup ∧ first ∉ ids ++ rest := by
  rw [List.nodup_middle, List.nodup_cons] at h
  exact ⟨h.2, h.1⟩

/-- The items that are left when the next one is done. -/
theorem mem_split_iff {ids rest : List String} {first : String} (h : (ids ++ first :: rest).Nodup)
    (id : String) : id ∈ ids ∨ id ∈ rest ↔ id ∈ {id | id ∈ ids ∨ id ∈ first :: rest} \ {first} := by
  have hnot : first ∉ ids ++ rest := (nodup_split h).2
  constructor
  · intro hid
    refine ⟨hid.imp_right (List.mem_cons_of_mem _), fun heq => hnot ?_⟩
    rw [← Set.mem_singleton_iff.1 heq]
    exact List.mem_append.2 hid
  · rintro ⟨hid, hne⟩
    exact hid.imp_right (fun hmem => (List.mem_cons.1 hmem).resolve_left hne)

/-- One of several distinct items is done. -/
theorem mem_rest_iff {first : String} {rest : List String} (hnodup : (first :: rest).Nodup)
    (id : String) : id ∈ rest ↔ id ∈ {id | id ∈ first :: rest} \ {first} := by
  have hsplit := @mem_split_iff [] rest first hnodup id
  simpa using hsplit

/-- The policy rules deny a node. -/
def isPolicyDenial : Event → Bool
  | .policy _ (.deny _ _) => true
  | _ => false

/-- The nodes at work at each point of a batch; the nodes the gate has reset
are waiting or terminal. -/
def workingPhases : Phases where
  between run := run.dag.Working ∅
  preparing rest run :=
    run.dag.Working {id | id ∈ contextIds run ∨ id ∈ rest.map DAGNode.nodeId} ∧
      (contextIds run ++ rest.map DAGNode.nodeId).Nodup ∧ run.reopened = []
  evaluating run :=
    run.dag.Working {id | id ∈ contextIds run} ∧ (contextIds run).Nodup ∧ run.reopened = []
  gating _ _ run :=
    run.dag.Working {id | id ∈ contextIds run} ∧ (contextIds run).Nodup ∧
      ∀ id ∈ run.reopened, ∀ status, run.dag.status? id = some status → DAG.IsQuiet status
  settling rest run :=
    run.dag.Working {id | id ∈ rest.map (fun context => context.node.nodeId)} ∧
      (rest.map (fun context => context.node.nodeId)).Nodup

theorem working_tasked {before after : DAG} {nodeId : String} {taskId : UUID}
    {active : Set String} (h : before.Working active) (htask : Tasked before after nodeId taskId) :
    after.Working active := by
  rcases htask with ⟨rfl, -⟩ | rfl
  · exact h
  · exact h.setTaskId taskId

/-- A completed node is left alone, reset, or gets an alternative. -/
theorem working_reflected {dag dag' : DAG} {nodeId : String} {output : Option String}
    {active : Set String} (h : dag.Working active) (hactive : nodeId ∈ active)
    (hreflected : Reflected (dag.markCompleted nodeId output) nodeId dag') :
    dag'.Working (active \ {nodeId}) := by
  rcases hreflected with rfl | rfl | ⟨text, added, hreplan⟩
  · exact h.markCompleted hactive output
  · exact h.retry hactive output
  · obtain ⟨node, hnode, rfl, hadd⟩ := DynamicReplanner.replan_eq_some hreplan
    refine (h.markCompleted hactive output).addNode hadd rfl ?_
    intro dep hdep
    have hdeps : dep ∈ dag.deps nodeId := by
      rw [DAG.deps_of_markCompleted hnode]
      exact hdep
    rw [DAG.status?_markCompleted, if_neg (h.ne_of_dep hactive hactive hdeps)]
    exact h.met nodeId hactive dep hdeps

section Kept

variable {env : Environment} {workflowId : UUID} {agents : String → Option Agent} {run run' : Run}

theorem working_prepared {node : DAGNode} {rest : List DAGNode}
    (h : workingPhases.preparing (node :: rest) run)
    (hprepared : Prepared env workflowId agents run node run') :
    workingPhases.preparing rest run' := by
  obtain ⟨hworking, hnodup, hreopened⟩ := h
  have hactive : node.nodeId ∈
      {id | id ∈ contextIds run ∨ id ∈ (node :: rest).map DAGNode.nodeId} :=
    Or.inr List.mem_cons_self
  have hsplit : (contextIds run ++ rest.map DAGNode.nodeId).Nodup ∧
      node.nodeId ∉ contextIds run ++ rest.map DAGNode.nodeId := nodup_split hnodup
  have hfailed : ∀ error, (run.dag.markFailed node.nodeId error).Working
      {id | id ∈ contextIds run ∨ id ∈ rest.map DAGNode.nodeId} := by
    intro error
    exact (hworking.markFailed hactive error).congr (mem_split_iff hnodup)
  cases hprepared with
  | noAgent error _ hrun =>
    rw [hrun]
    exact ⟨hfailed _, hsplit.1, hreopened⟩
  | starved error tasks dag taskId htask hrun =>
    rw [hrun]
    exact ⟨working_tasked (hfailed _) htask, hsplit.1, hreopened⟩
  | started agent reservation db tasks dag taskId _ _ htask hrun =>
    rw [hrun]
    have hids : ∀ id, id ∈ contextIds run ++ [node.nodeId] ↔
        id ∈ contextIds run ∨ id = node.nodeId := by simp
    have hcontexts := contextIds_concat run { node, taskId, agent }
    refine ⟨(working_tasked (hworking.markRunning hactive) htask).congr (fun id => ?_), ?_,
      hreopened⟩
    · show id ∈ contextIds { run with contexts := run.contexts ++ [{ node, taskId, agent }] } ∨ _ ↔ _
      rw [hcontexts, hids]
      simp only [Set.mem_ofPred_eq, List.map_cons, List.mem_cons]
      exact or_assoc
    · show (contextIds { run with contexts := run.contexts ++ [{ node, taskId, agent }] } ++
        _).Nodup
      rw [hcontexts, List.append_assoc]
      exact hnodup

theorem working_gated {all rest : List DAGNode} {node : DAGNode} {visit : Visit}
    {context : NodeContext} (h : workingPhases.gating all (node :: rest) run)
    (hcontext : context ∈ run.contexts)
    (hgated : Gated env workflowId visit run context run') :
    workingPhases.gating all rest run' := by
  obtain ⟨hworking, hnodup, hreopened⟩ := h
  have hactive : context.node.nodeId ∈ {id | id ∈ contextIds run} :=
    mem_contextIds hcontext
  cases hgated with
  | denied decision tasks error _ hrun =>
    rw [hrun]
    refine ⟨(hworking.markFailed hactive (some error)).congr (fun id => mem_contextIds_dropContext),
      nodup_dropContext hnodup _, ?_⟩
    intro id hid status hstatus
    rcases DAG.status?_markFailed_cases run.dag context.node.nodeId (some error) hstatus with
      ⟨-, rfl⟩ | ⟨-, rfl⟩ | ⟨-, -, hold⟩
    · exact Or.inr (by decide)
    · exact Or.inr (by decide)
    · exact hreopened id hid status hold
  | passed decision _ _ hrun =>
    rw [hrun]
    exact ⟨hworking, hnodup, hreopened⟩
  | fellThrough tasks _ hrun =>
    rw [hrun]
    refine ⟨hworking.markPending hactive, hnodup, ?_⟩
    intro id hid status hstatus
    rw [DAG.status?_markPending] at hstatus
    split at hstatus
    · obtain ⟨_, -, rfl⟩ := Option.map_eq_some_iff.1 hstatus
      exact Or.inl (by decide)
    · rename_i hne
      rcases List.mem_append.1 hid with hold | hnew
      · exact hreopened id hold status hstatus
      · exact absurd (List.mem_singleton.1 hnew) hne

theorem working_settled {context : NodeContext} {rest : List NodeContext} {visit : Visit}
    (h : workingPhases.settling (context :: rest) run)
    (hsettled : Settled env workflowId visit run context run') :
    workingPhases.settling rest run' := by
  obtain ⟨hworking, hnodup⟩ := h
  have hactive : context.node.nodeId ∈
      {id | id ∈ (context :: rest).map (fun context => context.node.nodeId)} :=
    List.mem_cons_self
  have hdone : ∀ {dag : DAG}, dag.Working ({id | id ∈ (context :: rest).map
      (fun context => context.node.nodeId)} \ {context.node.nodeId}) →
      dag.Working {id | id ∈ rest.map (fun context => context.node.nodeId)} :=
    fun hdag => hdag.congr (mem_rest_iff hnodup)
  refine ⟨?_, (List.nodup_cons.1 hnodup).2⟩
  cases hsettled with
  | llmFailed message tasks run₁ _ hreleased hrun =>
    have hdag : run₁.dag = run.dag := by rw [hreleased.eq]
    rw [hrun]
    show (run₁.dag.markFailed _ _).Working _
    rw [hdag]
    exact hdone (hworking.markFailed hactive _)
  | completed response _ hcompleted =>
    obtain ⟨_, _, _, _, _, dag, _, -, -, -, hdag, hrun⟩ := hcompleted
    rw [hrun]
    exact hdone (working_reflected hworking hactive hdag)
  | rejected response charged run₁ run₂ tasks error _ hrejected hreleased hrun =>
    have hdag : run₂.dag = run.dag := by rw [hrejected.eq hreleased]; rfl
    rw [hrun]
    show (run₂.dag.markFailed _ _).Working _
    rw [hdag]
    exact hdone (hworking.markFailed hactive _)

end Kept

variable {env : Environment} {workflowId : UUID} {agents : String → Option Agent}
  {condition : Event → Prop} {stop : Stopped → Prop}

/-- The nodes at work are the nodes with a context in every run without a
policy denial; what holds at a pause is left to the caller. -/
theorem workingPhases_kept
    (hcondition : ∀ event, condition event → isPolicyDenial event = false)
    (hraised : ∀ stopped : Stopped, stopped.1 = .raised → stop stopped)
    (hpaused : ∀ {run : Run} {visit : Visit} {context : NodeContext} {stopped : Stopped},
      workingPhases.gating [] [] run → context ∈ run.contexts →
      Paused workflowId visit run context stopped → Meets condition stopped.2 → stop stopped) :
    workingPhases.Kept env workflowId agents condition stop where
  opened := by
    intro run h
    refine ⟨h.of_ready.congr (fun id => ?_), DAG.getReadyNodes_nodup run.dag, rfl⟩
    exact ⟨fun hid => hid.resolve_left List.not_mem_nil, Or.inr⟩
  prepared := fun h hprepared _ => working_prepared h hprepared
  evaluate := by
    rintro run ⟨hworking, hnodup, hreopened⟩
    rw [List.map_nil, List.append_nil] at hnodup
    exact ⟨hworking.congr (fun id => ⟨Or.inl, fun hid => hid.resolve_right List.not_mem_nil⟩),
      hnodup, hreopened⟩
  evaluated := by
    intro run escalated context state h hevaluated hmeets
    cases hevaluated with
    | failed hstate =>
      rw [hstate]
      exact h
    | denied ruleId reason tasks hrun _ =>
      have hdenied := hcondition _ (hmeets (.policy context.node.nodeId (.deny ruleId reason))
        (by rw [hrun]; simp))
      cases hdenied
    | kept verdict _ hrun _ =>
      rw [hrun]
      exact h
  gate := by
    rintro run gated ⟨hworking, hnodup, hreopened⟩
    refine ⟨hworking, hnodup, ?_⟩
    rw [hreopened]
    exact fun id hid => absurd hid List.not_mem_nil
  gated := fun h hcontext _ hgated _ => working_gated h hcontext hgated
  paused := fun h hcontext _ hpause hmeets => hpaused h hcontext hpause hmeets
  called := fun h => ⟨h.1, h.2.1⟩
  settled := fun h hsettled _ => working_settled h hsettled
  persist := fun f h => h.1.congr (fun id => by simp)
  raised := fun _ hraisedFrom _ => hraised _ hraisedFrom.1

end WorkflowScheduler

end MassClaw
