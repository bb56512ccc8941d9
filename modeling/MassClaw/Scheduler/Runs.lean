import MassClaw.Scheduler.Loop

/-!
# Invariants of whole runs

`Phases` gives one predicate for each point of a batch, and `Phases.Kept` what
has to be shown of each step.  `executeWorkflow_holds` is the induction over
the loop and over the items of each phase, once for every property of a run.

Most properties hold only as long as certain steps do not occur.  The steps
leave an event in the log, so the predicates are required only of runs whose
events all satisfy a condition.
-/

namespace MassClaw

namespace WorkflowScheduler

/-- Every event of the run satisfies the condition. -/
def Meets (condition : Event → Prop) (run : Run) : Prop := ∀ event ∈ run.log, condition event

theorem Meets.of_prefix {condition : Event → Prop} {run run' : Run} (h : Meets condition run')
    (hlog : run.log <+: run'.log) : Meets condition run :=
  fun event hevent => h event (hlog.subset hevent)

/-- One predicate for each point of a batch.  A list argument holds the items
that the phase has still to visit; the gate also gets all its nodes. -/
structure Phases where
  between : Run → Prop
  preparing : List DAGNode → Run → Prop
  evaluating : Run → Prop
  gating : List DAGNode → List DAGNode → Run → Prop
  settling : List NodeContext → Run → Prop

/-- The run is at some point of a batch. -/
def Phases.AtSome (phases : Phases) (run : Run) : Prop :=
  phases.between run ∨ (∃ rest, phases.preparing rest run) ∨ phases.evaluating run ∨
    (∃ all rest, phases.gating all rest run) ∨ ∃ rest, phases.settling rest run

/-! ## The log only grows -/

section Logs

variable {env : Environment} {workflowId : UUID} {agents : String → Option Agent} {run run' : Run}

theorem Prepared.quietly {node : DAGNode} (h : Prepared env workflowId agents run node run') :
    Quietly run run' := by
  cases h with
  | noAgent error _ hrun => exact .refl (by rw [hrun])
  | starved error tasks dag taskId _ hrun => exact .refl (by rw [hrun])
  | started agent reservation db tasks dag taskId _ _ _ hrun => exact .record (by rw [hrun]) rfl

theorem Evaluated.quietly {escalated : List DAGNode} {context : NodeContext}
    {state : Run × List DAGNode} (h : Evaluated run escalated context state) :
    Quietly run state.1 := by
  cases h with
  | failed hstate => exact .refl (by rw [hstate])
  | denied ruleId reason tasks hrun _ => exact .record (by rw [hrun]) rfl
  | kept verdict _ hrun _ => exact .record (by rw [hrun]; rfl) rfl

theorem Gated.quietly {visit : Visit} {context : NodeContext}
    (h : Gated env workflowId visit run context run') : Quietly run run' := by
  cases h with
  | denied decision tasks error _ hrun => exact .record (by rw [hrun]) rfl
  | passed decision _ _ hrun => exact .record (by rw [hrun]; rfl) rfl
  | fellThrough tasks _ hrun => exact .record (by rw [hrun]) rfl

theorem Paused.quietly {visit : Visit} {context : NodeContext} {stopped : Stopped}
    (h : Paused workflowId visit run context stopped) : Quietly run stopped.2 := by
  obtain ⟨workflows, tasks, hstate⟩ := h.state
  refine ⟨_, by rw [hstate], ?_⟩
  intro event hevent
  rcases List.mem_cons.1 hevent with rfl | hlast
  · rfl
  · rw [List.mem_singleton.1 hlast]
    rfl

/-- The event that Phase 3 records about the answer of Phase 2. -/
def attempt (visit : Visit) (run : Run) (context : NodeContext) : List Event :=
  match visit.response with
  | .ok response => [.processed context response run.db visit]
  | .error _ => []

/-- Giving a reservation back records that and nothing else. -/
theorem Released.events {nodeId : String} (h : Released workflowId run nodeId run') :
    ∃ events, run'.log = run.log ++ events ∧
      ∀ event ∈ events, ∃ reservation raised, event = .released nodeId reservation raised := by
  cases h with
  | unreserved _ hrun => exact ⟨[], by rw [hrun, List.append_nil], by simp⟩
  | failed reservation _ hrun =>
    refine ⟨[.released nodeId reservation true], by rw [hrun]; rfl, ?_⟩
    intro event hevent
    exact ⟨reservation, true, List.mem_singleton.1 hevent⟩
  | released reservation _ _ db _ _ hrun =>
    refine ⟨[.released nodeId reservation false], by rw [hrun]; rfl, ?_⟩
    intro event hevent
    exact ⟨reservation, false, List.mem_singleton.1 hevent⟩

/-- Phase 3 records an answer and what it gives back. -/
theorem Settled.events {visit : Visit} {context : NodeContext}
    (h : Settled env workflowId visit run context run') :
    ∃ events, run'.log = run.log ++ attempt visit run context ++ events ∧
      ∀ event ∈ events,
        ∃ reservation raised, event = .released context.node.nodeId reservation raised := by
  cases h with
  | llmFailed message tasks run₁ hresponse hreleased hrun =>
    obtain ⟨events, hlog, hevents⟩ := hreleased.events
    refine ⟨events, ?_, hevents⟩
    rw [hrun, attempt, hresponse, List.append_nil]
    exact hlog
  | completed response hresponse hcompleted =>
    obtain ⟨_, _, _, _, _, _, _, _, _, _, _, hrun⟩ := hcompleted
    refine ⟨[], ?_, by simp⟩
    rw [hrun, attempt, hresponse, List.append_nil]
    rfl
  | rejected response charged run₁ run₂ tasks error hresponse hrejected hreleased hrun =>
    obtain ⟨_, _, _, _, _, hrun₁⟩ := hrejected
    have hlog₁ : run₁.log = run.log ++ attempt visit run context := by
      rw [hrun₁, attempt, hresponse]
      rfl
    rw [hrun]
    rcases hreleased with ⟨-, rfl⟩ | ⟨-, hreleased⟩
    · exact ⟨[], by rw [List.append_nil]; exact hlog₁, by simp⟩
    · obtain ⟨events, hlog, hevents⟩ := hreleased.events
      refine ⟨events, ?_, hevents⟩
      rw [← hlog₁]
      exact hlog

theorem Settled.quietly {visit : Visit} {context : NodeContext}
    (h : Settled env workflowId visit run context run') : Quietly run run' := by
  obtain ⟨events, hlog, hevents⟩ := h.events
  refine ⟨attempt visit run context ++ events, by rw [hlog, List.append_assoc], ?_⟩
  intro event hevent
  rcases List.mem_append.1 hevent with hattempt | hreleased
  · unfold attempt at hattempt
    split at hattempt
    · rw [List.mem_singleton.1 hattempt]
      rfl
    · cases hattempt
  · obtain ⟨_, _, rfl⟩ := hevents event hreleased
    rfl

end Logs

/-! ## What has to be shown of each step -/

variable (env : Environment) (workflowId : UUID) (agents : String → Option Agent)

/-- Every step leads from a predicate to the next one, and every early stop to
`stop`, as long as the events satisfy the condition. -/
structure Phases.Kept (condition : Event → Prop) (stop : Stopped → Prop) (phases : Phases) :
    Prop where
  opened : ∀ {run}, phases.between run → phases.preparing run.dag.getReadyNodes (openBatch run)
  prepared : ∀ {node rest run run'}, phases.preparing (node :: rest) run →
    Prepared env workflowId agents run node run' → Meets condition run' →
      phases.preparing rest run'
  evaluate : ∀ {run}, phases.preparing [] run → phases.evaluating run
  evaluated : ∀ {run escalated context state}, phases.evaluating run →
    Evaluated run escalated context state → Meets condition state.1 → phases.evaluating state.1
  gate : ∀ {run} gated, phases.evaluating run → phases.gating gated gated run
  gated : ∀ {all node rest run visit context run'}, phases.gating all (node :: rest) run →
    context ∈ run.contexts → context.node.nodeId = node.nodeId →
    Gated env workflowId visit run context run' → Meets condition run' →
      phases.gating all rest run'
  paused : ∀ {all node rest run visit context stopped}, phases.gating all (node :: rest) run →
    context ∈ run.contexts → context.node.nodeId = node.nodeId →
    Paused workflowId visit run context stopped → Meets condition stopped.2 → stop stopped
  called : ∀ {all run}, phases.gating all [] run →
    phases.settling run.contexts (run.record (.llmCalls (all.map DAGNode.nodeId)
      (run.contexts.map (fun context => context.node.nodeId))))
  settled : ∀ {context rest run visit run'}, phases.settling (context :: rest) run →
    Settled env workflowId visit run context run' → Meets condition run' →
      phases.settling rest run'
  persist : ∀ {run} f, phases.settling [] run →
    phases.between { run with db := run.db.updateWorkflow workflowId f }
  raised : ∀ {run stopped}, phases.AtSome run → RaisedFrom run stopped →
    Meets condition stopped.2 → stop stopped

variable {env workflowId agents} {condition : Event → Prop} {stop : Stopped → Prop}
  {phases : Phases}

namespace Phases.Kept

variable (h : phases.Kept env workflowId agents condition stop)

include h

theorem preparePhase_holds (iteration : Nat) (ready : List DAGNode) (run : Run)
    (hrun : Meets condition run → phases.preparing ready run) :
    Outcome.Holds (fun run' => Meets condition run' → phases.preparing [] run')
      (fun stopped => Meets condition stopped.2 → stop stopped)
      (preparePhase env workflowId agents iteration ready run) := by
  refine Outcome.Holds.foldlM (I := fun rest run => Meets condition run → phases.preparing rest run)
    ?_ ready run hrun
  intro node rest run hrun
  refine (prepareNode_holds env workflowId agents (env.visit iteration node.nodeId) run node).mono
    ?_ ?_
  · intro run' hprepared hmeets
    exact h.prepared (hrun (hmeets.of_prefix hprepared.quietly.log)) hprepared hmeets
  · intro stopped hraised hmeets
    have hhere := hrun (hmeets.of_prefix hraised.2.log)
    exact h.raised (Or.inr (Or.inl ⟨_, hhere⟩)) hraised hmeets

theorem policyEvaluateNodes_holds (iteration : Nat) (run : Run)
    (hrun : Meets condition run → phases.evaluating run) :
    Outcome.Holds (fun state => Meets condition state.1 → phases.evaluating state.1)
      (fun stopped => Meets condition stopped.2 → stop stopped)
      (policyEvaluateNodes env iteration run) := by
  unfold policyEvaluateNodes
  split
  · refine Outcome.Holds.foldlM_mem (I := fun state : Run × List DAGNode =>
      Meets condition state.1 → phases.evaluating state.1) run.contexts (run, []) ?_ hrun
    rintro context - ⟨run, escalated⟩ hrun
    refine (policyEvaluateNode_holds (env.visit iteration context.node.nodeId) run escalated
      context).mono ?_ ?_
    · intro state hevaluated hmeets
      exact h.evaluated (hrun (hmeets.of_prefix hevaluated.quietly.log)) hevaluated hmeets
    · intro stopped hraised hmeets
      have hhere := hrun (hmeets.of_prefix hraised.2.log)
      exact h.raised (Or.inr (Or.inr (Or.inl hhere))) hraised hmeets
  · exact hrun

theorem approvalGate_holds (iteration : Nat) (gated : List DAGNode) (run : Run)
    (hrun : Meets condition run → phases.gating gated gated run) :
    Outcome.Holds (fun run' => Meets condition run' → phases.gating gated [] run')
      (fun stopped => Meets condition stopped.2 → stop stopped)
      (approvalGate env workflowId iteration gated run) := by
  have hraised : ∀ {rest run stopped}, (Meets condition run → phases.gating gated rest run) →
      RaisedFrom run stopped → Meets condition stopped.2 → stop stopped := by
    intro rest run stopped hrun hraised hmeets
    have hhere := hrun (hmeets.of_prefix hraised.2.log)
    exact h.raised (Or.inr (Or.inr (Or.inr (Or.inl ⟨_, _, hhere⟩)))) hraised hmeets
  unfold approvalGate
  split
  · rename_i hempty
    rw [List.isEmpty_iff] at hempty
    subst hempty
    exact hrun
  · refine ((Run.check_holds (.refl rfl)).mono (fun _ h => h) (fun _ => hraised hrun)).bind
      (fun _ _ => ?_)
    refine Outcome.Holds.foldlM (I := fun rest run =>
      Meets condition run → phases.gating gated rest run) ?_ gated run hrun
    intro node rest run hrun
    refine (gateNode_holds env workflowId (env.visit iteration node.nodeId) run node).mono ?_ ?_
    · rintro run' ⟨context, hcontext, hid, hgated⟩ hmeets
      exact h.gated (hrun (hmeets.of_prefix hgated.quietly.log)) hcontext hid hgated hmeets
    · rintro stopped (hstopped | ⟨context, hcontext, hid, hpaused⟩) hmeets
      · exact hraised hrun hstopped hmeets
      · exact h.paused (hrun (hmeets.of_prefix hpaused.quietly.log)) hcontext hid hpaused hmeets

theorem settlePhase_holds (iteration : Nat) (contexts : List NodeContext) (run : Run)
    (hrun : Meets condition run → phases.settling contexts run) :
    Outcome.Holds (fun run' => Meets condition run' → phases.settling [] run')
      (fun stopped => Meets condition stopped.2 → stop stopped)
      (contexts.foldlM (fun run context =>
        settleNode env workflowId (env.visit iteration context.node.nodeId) run context) run) := by
  refine Outcome.Holds.foldlM (I := fun rest run => Meets condition run → phases.settling rest run)
    ?_ contexts run hrun
  intro context rest run hrun
  refine (settleNode_holds env workflowId (env.visit iteration context.node.nodeId) run
    context).mono ?_ ?_
  · intro run' hsettled hmeets
    exact h.settled (hrun (hmeets.of_prefix hsettled.quietly.log)) hsettled hmeets
  · intro stopped hraised hmeets
    have hhere := hrun (hmeets.of_prefix hraised.2.log)
    exact h.raised (Or.inr (Or.inr (Or.inr (Or.inr ⟨_, hhere⟩)))) hraised hmeets

/-- One batch leads from a point between two batches to the next. -/
theorem executeBatch_holds (iteration : Nat) (run : Run)
    (hrun : Meets condition run → phases.between run) :
    Outcome.Holds (fun run' => Meets condition run' → phases.between run')
      (fun stopped => Meets condition stopped.2 → stop stopped)
      (executeBatch env workflowId agents iteration run) := by
  unfold executeBatch
  refine (h.preparePhase_holds iteration run.dag.getReadyNodes (openBatch run) ?_).bind ?_
  · intro hmeets
    exact h.opened (hrun (hmeets.of_prefix (List.prefix_append _ _)))
  intro run₁ hrun₁
  unfold gatePhase
  refine Outcome.Holds.bind (P := fun result : List DAGNode × Run =>
    Meets condition result.2 → phases.gating result.1 [] result.2) ?_ ?_
  · refine (h.policyEvaluateNodes_holds iteration run₁
      (fun hmeets => h.evaluate (hrun₁ hmeets))).bind ?_
    rintro ⟨run₂, escalated⟩ hrun₂
    refine (h.approvalGate_holds iteration _ run₂ (fun hmeets => h.gate _ (hrun₂ hmeets))).bind ?_
    exact fun run₃ hrun₃ => hrun₃
  rintro ⟨gated, run₃⟩ hrun₃
  have hcalled : ∀ run₄, run₄ = run₃.record (.llmCalls (gated.map DAGNode.nodeId)
      (run₃.contexts.map (fun context => context.node.nodeId))) →
      Meets condition run₄ → phases.settling run₃.contexts run₄ := by
    rintro run₄ rfl hmeets
    exact h.called (hrun₃ (hmeets.of_prefix (List.prefix_append _ _)))
  unfold executeNodes
  refine Outcome.Holds.bind (P := fun run₄ => run₄.contexts = run₃.contexts ∧
    (Meets condition run₄ → phases.settling run₃.contexts run₄)) ?_ ?_
  · refine ((Run.check_holds (.refl rfl)).mono (fun _ h => h) ?_).bind ?_
    · intro stopped hraised hmeets
      have hhere := hcalled _ rfl (hmeets.of_prefix hraised.2.log)
      exact h.raised (Or.inr (Or.inr (Or.inr (Or.inr ⟨_, hhere⟩)))) hraised hmeets
    · exact fun _ _ => ⟨rfl, hcalled _ rfl⟩
  rintro run₄ ⟨hcontexts, hrun₄⟩
  unfold settlePhase
  rw [hcontexts]
  refine (h.settlePhase_holds iteration run₃.contexts run₄ hrun₄).bind ?_
  intro run₅ hrun₅
  have hpersist : Meets condition run₅ → phases.between { run₅ with
      db := run₅.db.updateWorkflow workflowId (fun workflow =>
        { workflow with dagSnapshot := some run₅.dag.toDict }) } :=
    fun hmeets => h.persist _ (hrun₅ hmeets)
  unfold persistDag
  refine ((Run.check_holds (.refl rfl)).mono (fun _ h => h) ?_).bind ?_
  · intro stopped hraised hmeets
    exact h.raised (Or.inl (hpersist (hmeets.of_prefix hraised.2.log))) hraised hmeets
  · exact fun _ _ => hpersist

/-- The loop ends between two batches; when it did not run away, the DAG is
complete or has no ready node. -/
theorem loop_holds (remaining iteration : Nat) (run : Run)
    (hrun : Meets condition run → phases.between run) :
    Outcome.Holds
      (fun result => (Meets condition result.2 → phases.between result.2) ∧
        (result.1 = false →
          result.2.dag.isComplete = true ∨ result.2.dag.getReadyNodes = []))
      (fun stopped => Meets condition stopped.2 → stop stopped)
      (loop env workflowId agents remaining iteration run) := by
  induction remaining generalizing iteration run with
  | zero => exact ⟨hrun, fun hcomplete => Or.inl (by simpa using hcomplete)⟩
  | succ remaining ih =>
    unfold loop
    split
    · rename_i hcomplete
      exact ⟨hrun, fun _ => Or.inl hcomplete⟩
    · split
      · rename_i hready
        exact ⟨hrun, fun _ => Or.inr (List.isEmpty_iff.1 hready)⟩
      · refine (h.executeBatch_holds iteration run hrun).bind ?_
        exact fun run' hrun' => ih (iteration + 1) run' hrun'

end Phases.Kept

/-! ## The end of a run -/

/-- How a run that returns has ended, from the last state of its loop. -/
inductive Ended (env : Environment) (workflowId : UUID) (limit : Nat) (run : Run)
    (result : List (String × Json) × Run) : Prop
  | runaway (hresult : failRunaway env workflowId limit run = .ok result)
  | finalised (hexit : run.dag.isComplete = true ∨ run.dag.getReadyNodes = [])
      (hresult : finalise env workflowId run = .ok result)

theorem failRunaway_eq {limit : Nat} {run : Run} {result : List (String × Json) × Run}
    (h : failRunaway env workflowId limit run = .ok result) :
    result.2 = { run with db := { run.db with workflows := result.2.db.workflows } } := by
  unfold failRunaway at h
  obtain ⟨_, -, h⟩ := Outcome.bind_eq_ok h
  cases h
  rfl

theorem finalise_eq {run : Run} {result : List (String × Json) × Run}
    (h : finalise env workflowId run = .ok result) :
    result.2 = { run with db := { run.db with workflows := result.2.db.workflows } } := by
  unfold finalise at h
  split at h
  · cases h
  · obtain ⟨_, -, h⟩ := Outcome.bind_eq_ok h
    cases h
    rfl

/-- Ending a run writes the workflow row and nothing else. -/
theorem Ended.eq {limit : Nat} {run : Run} {result : List (String × Json) × Run}
    (h : Ended env workflowId limit run result) :
    result.2 = { run with db := { run.db with workflows := result.2.db.workflows } } := by
  cases h with
  | runaway hresult => exact failRunaway_eq hresult
  | finalised hexit hresult => exact finalise_eq hresult

theorem failRunaway_raises {limit : Nat} {run : Run} {stopped : Stopped}
    (h : failRunaway env workflowId limit run = .error stopped) : RaisedFrom run stopped := by
  have hholds : Outcome.Holds (fun _ => True) (RaisedFrom run)
      (failRunaway env workflowId limit run) := by
    unfold failRunaway
    exact (Run.check_holds (.refl rfl)).bind (fun _ _ => trivial)
  exact hholds.of_error h

theorem finalise_raises {run : Run} {stopped : Stopped}
    (h : finalise env workflowId run = .error stopped) : RaisedFrom run stopped := by
  have hholds : Outcome.Holds (fun _ => True) (RaisedFrom run) (finalise env workflowId run) := by
    unfold finalise
    split
    · exact ⟨rfl, .refl rfl⟩
    · exact (Run.check_holds (.refl rfl)).bind (fun _ _ => trivial)
  exact hholds.of_error h

/-- The rule for whole runs. -/
theorem Phases.Kept.executeWorkflow_holds
    (h : phases.Kept env workflowId agents condition stop) (db : Db) (dag : DAG)
    (hstart : phases.between (startRun env workflowId db dag)) :
    Outcome.Holds
      (fun result => ∃ run, (Meets condition run → phases.between run) ∧
        Ended env workflowId (maxIterations dag) run result)
      (fun stopped => Meets condition stopped.2 → stop stopped)
      (executeWorkflow env workflowId agents db dag) := by
  have hraised : ∀ {run stopped}, (Meets condition run → phases.between run) →
      RaisedFrom run stopped → Meets condition stopped.2 → stop stopped := by
    intro run stopped hrun hraised hmeets
    exact h.raised (Or.inl (hrun (hmeets.of_prefix hraised.2.log))) hraised hmeets
  unfold executeWorkflow
  refine ((Run.check_holds (.refl rfl)).mono (fun _ h => h)
    (fun _ => hraised (fun _ => hstart))).bind (fun _ _ => ?_)
  refine (h.loop_holds (maxIterations dag) 1 _ (fun _ => hstart)).bind ?_
  rintro ⟨runaway, run⟩ ⟨hrun, hexit⟩
  cases runaway with
  | true =>
    show Outcome.Holds _ _ (failRunaway env workflowId (maxIterations dag) run)
    cases hresult : failRunaway env workflowId (maxIterations dag) run with
    | ok result => exact ⟨run, hrun, .runaway hresult⟩
    | error stopped => exact hraised hrun (failRunaway_raises hresult)
  | false =>
    show Outcome.Holds _ _ (finalise env workflowId run)
    cases hresult : finalise env workflowId run with
    | ok result => exact ⟨run, hrun, .finalised (hexit rfl) hresult⟩
    | error stopped => exact hraised hrun (finalise_raises hresult)

/-- The execution returns or pauses with this run; the caller keeps what it
has written. -/
def Delivers (execution : Except Stopped (List (String × Json) × Run)) (run : Run) : Prop :=
  (∃ result, execution = .ok (result, run)) ∨ ∃ pause, execution = .error (.paused pause, run)

/-- The rule for runs that return or pause. -/
theorem Phases.Kept.of_delivers {P : Run → Prop}
    (h : phases.Kept env workflowId agents condition
      (fun stopped => stopped.1 ≠ .raised → P stopped.2))
    {db : Db} {dag : DAG} {run : Run}
    (hstart : phases.between (startRun env workflowId db dag))
    (hend : ∀ last : Run, phases.between last →
      ∀ workflows, P { last with db := { last.db with workflows } })
    (hrun : Delivers (executeWorkflow env workflowId agents db dag) run)
    (hmeets : Meets condition run) : P run := by
  have hholds := h.executeWorkflow_holds db dag hstart
  rcases hrun with ⟨result, hreturned⟩ | ⟨pause, hpaused⟩
  · obtain ⟨last, hlast, hended⟩ := hholds.of_ok hreturned
    have heq : run = _ := hended.eq
    have hlog : run.log = last.log := by rw [heq]
    rw [Meets, hlog] at hmeets
    rw [heq]
    exact hend last (hlast hmeets) _
  · exact hholds.of_error hpaused hmeets (by simp)

end WorkflowScheduler

end MassClaw
