import MassClaw.Scheduler.Abort
import MassClaw.Scheduler.Selector
import MassClaw.Scheduler.Termination

/-!
# What becomes of an alternative

The agents are selected before the loop, for the nodes the DAG has then; the
replanner adds its alternatives during the loop.  So an alternative never has
an agent: Phase 1 fails it as soon as it is ready.
-/

namespace MassClaw

theorem AgentSelector.assignsOnly {rows : List AgentRow} {dag : DAG} {budget : ℚ}
    {state : Assignment} (hselect : selectAgentsForDag rows dag budget = .ok state) :
    WorkflowScheduler.AssignsOnly state.agents state.dag := by
  intro nodeId hnot
  cases hagent : state.agents nodeId with
  | none => rfl
  | some agent =>
    obtain ⟨node, hnode, rfl, -⟩ := capability_of_agents hselect hagent
    rw [ids_of_selectAgentsForDag hselect] at hnot
    exact absurd (List.mem_map_of_mem hnode) hnot

namespace WorkflowScheduler

/-- Phase 1 takes the node up in some batch. -/
def TakenUp (run : Run) (nodeId : String) : Prop :=
  ∃ ready, Event.batch ready ∈ run.log ∧ nodeId ∈ ready

/-- The node has got a task row for an agent, or has reached Phase 2. -/
def Attempted (run : Run) (nodeId : String) : Prop :=
  run.dag.taskId? nodeId ≠ none ∨
    ∃ gated called, Event.llmCalls gated called ∈ run.log ∧ nodeId ∈ called

/-- Every node that the run has added to its DAG is attempted when it is taken
up. -/
def AttemptsAlternatives (start : DAG) (run : Run) : Prop :=
  ∀ nodeId, nodeId ∉ start.ids → TakenUp run nodeId → Attempted run nodeId

/-- The node is failed since the agents have no entry for it. -/
def IsUnassigned (dag : DAG) (nodeId : String) : Prop :=
  ∃ node, dag.node? nodeId = some node ∧ node.status = .failed ∧
    node.error = some "No agent assigned"

theorem Idly.mem_of_startsNodes {run run' : Run} {event : Event} (h : Idly run run')
    (hevent : event ∈ run'.log) (hstarts : event.startsNodes = true) : event ∈ run.log := by
  obtain ⟨events, hlog, hquiet⟩ := h
  rw [hlog] at hevent
  rcases List.mem_append.1 hevent with hold | hnew
  · exact hold
  · rw [hquiet event hnew] at hstarts
    cases hstarts

/-! ## The nodes that the run has added -/

/-- The step skips some of the nodes that are not `held`, and leaves the others
of them as they are. -/
structure Spares (held : String → Prop) (dag dag' : DAG) : Prop where
  ids : dag'.ids = dag.ids
  node : ∀ nodeId, ¬held nodeId → dag'.node? nodeId = dag.node? nodeId ∨
    ∃ node failedId, dag.node? nodeId = some node ∧ DAG.IsSkippable node.status ∧
      dag'.node? nodeId = some (DAG.skipNode failedId node)

namespace Spares

variable {held : String → Prop} {dag dag' : DAG} {nodeId : String}

theorem refl (dag : DAG) : Spares held dag dag := ⟨rfl, fun _ _ => Or.inl rfl⟩

theorem modify {f : DAGNode → DAGNode} (dag : DAG) (hheld : held nodeId)
    (hf : ∀ node, (f node).nodeId = node.nodeId) : Spares held dag (dag.modify nodeId f) where
  ids := DAG.ids_modify dag nodeId
  node := by
    intro other hother
    have hne : other ≠ nodeId := fun heq => hother (heq ▸ hheld)
    exact Or.inl (DAG.node?_modify_ne dag nodeId hf hne)

theorem markRunning (dag : DAG) (hheld : held nodeId) : Spares held dag (dag.markRunning nodeId) :=
  .modify dag hheld (fun _ => rfl)

theorem markFailed (dag : DAG) (hheld : held nodeId) (error : Option String) :
    Spares held dag (dag.markFailed nodeId error) where
  ids := DAG.ids_markFailed dag nodeId error
  node := by
    intro other hother
    have hne : other ≠ nodeId := fun heq => hother (heq ▸ hheld)
    rw [DAG.node?_markFailed, DAG.node?_modify_ne dag nodeId (DAG.failNode_nodeId error) hne]
    split
    · rename_i hskipped
      obtain ⟨-, status, hstatus, hskip⟩ := DAG.skippedBy_startable dag nodeId error hskipped
      obtain ⟨node, hnode, rfl⟩ := DAG.status?_eq_some_iff.1 hstatus
      refine Or.inr ⟨node, nodeId, hnode, hskip, ?_⟩
      rw [hnode]
      rfl
    · exact Or.inl rfl

theorem trans {dag₁ dag₂ dag₃ : DAG} (h : Spares held dag₁ dag₂) (h' : Spares held dag₂ dag₃) :
    Spares held dag₁ dag₃ where
  ids := h'.ids.trans h.ids
  node := by
    intro nodeId hnot
    rcases h.node nodeId hnot with hsame | ⟨node, failedId, hnode, hskip, hskipped⟩
    · rw [← hsame]
      exact h'.node nodeId hnot
    · rcases h'.node nodeId hnot with hsame' | ⟨node', _, hnode', hskip', -⟩
      · exact Or.inr ⟨node, failedId, hnode, hskip, hsame'.trans hskipped⟩
      · rw [hskipped] at hnode'
        cases hnode'
        rw [DAG.skipNode_status] at hskip'
        exact absurd hskip' (by decide)

/-- A spared node gets no task row. -/
theorem taskId_eq_none (h : Spares held dag dag') (hnot : ¬held nodeId)
    (hnone : ∀ node, dag.node? nodeId = some node → node.taskId = none) (node : DAGNode)
    (hnode : dag'.node? nodeId = some node) : node.taskId = none := by
  rcases h.node nodeId hnot with hsame | ⟨old, failedId, hold, -, hskipped⟩
  · exact hnone node (hsame ▸ hnode)
  · rw [hskipped] at hnode
    cases hnode
    exact hnone old hold

/-- A failed node stays as it is. -/
theorem isUnassigned (h : Spares held dag dag') (hnot : ¬held nodeId)
    (hunassigned : IsUnassigned dag nodeId) : IsUnassigned dag' nodeId := by
  obtain ⟨node, hnode, hstatus, herror⟩ := hunassigned
  rcases h.node nodeId hnot with hsame | ⟨old, _, hfound, hskip, -⟩
  · exact ⟨node, hsame.trans hnode, hstatus, herror⟩
  · rw [hnode] at hfound
    cases hfound
    rw [hstatus] at hskip
    exact absurd hskip (by decide)

end Spares

theorem node?_markFailed_self (dag : DAG) (nodeId : String) (error : Option String) :
    (dag.markFailed nodeId error).node? nodeId =
      (dag.node? nodeId).map (DAG.failNode error) := by
  have hself : nodeId ∉ dag.skippedBy nodeId error :=
    fun hmem => (DAG.skippedBy_startable dag nodeId error hmem).1 rfl
  rw [DAG.node?_markFailed, if_neg hself]
  exact DAG.node?_modify_self dag nodeId (DAG.failNode_nodeId error)

/-- The run has attempted no node that it has added. -/
structure Unattempted (start : DAG) (run : Run) : Prop where
  nodes : ∀ nodeId node, nodeId ∉ start.ids → run.dag.node? nodeId = some node →
    node.taskId = none
  called : ∀ gated called, Event.llmCalls gated called ∈ run.log → ∀ nodeId ∈ called,
    nodeId ∈ start.ids

/-- Of the nodes that the run has added, those that are taken up are failed,
apart from the nodes `coming` that Phase 1 has still to visit. -/
structure Unattended (start : DAG) (coming : List String) (run : Run) : Prop
    extends Unattempted start run where
  contexts : ∀ context ∈ run.contexts, context.node.nodeId ∈ start.ids
  known : ∀ nodeId ∈ coming, nodeId ∈ run.dag.ids
  taken : ∀ nodeId, nodeId ∉ start.ids → TakenUp run nodeId →
    nodeId ∈ coming ∨ IsUnassigned run.dag nodeId

/-! ## Where a step stops early -/

/-- The run goes on from `run`, sparing the nodes it has added. -/
structure Sparing (start : DAG) (run run' : Run) : Prop where
  spares : Spares (· ∈ start.ids) run.dag run'.dag
  idly : Idly run run'

theorem Sparing.unattempted {start : DAG} {run run' : Run} (h : Sparing start run run')
    (hrun : Unattempted start run) : Unattempted start run' where
  nodes := fun nodeId node hnot =>
    h.spares.taskId_eq_none hnot (fun node => hrun.nodes nodeId node hnot) node
  called := fun gated called hevent =>
    hrun.called gated called (h.idly.mem_of_startsNodes hevent rfl)

section Stops

variable {start : DAG} {env : Environment} {workflowId : UUID} {agents : String → Option Agent}
  {visit : Visit} {run run' : Run}

/-- The state of a step that has been left early. -/
def StopsSparing (start : DAG) (run : Run) (stopped : Stopped) : Prop :=
  Sparing start run stopped.2

theorem check_sparing (h : Sparing start run run') (raises : Bool) :
    Outcome.Holds (fun _ => True) (StopsSparing start run) (run'.check raises) := by
  cases raises with
  | true => exact h
  | false => trivial

theorem upsertTaskRow_sparing {node : DAGNode} {agentId : Option UUID} {status : TaskStatus}
    {errorMessage : Option String} (hmem : node.nodeId ∈ start.ids)
    (h : Sparing start run run') :
    Outcome.Holds (fun result => Sparing start run result.2) (StopsSparing start run)
      (upsertTaskRow workflowId visit run' node agentId status errorMessage) := by
  unfold upsertTaskRow
  refine (check_sparing h _).bind (fun _ _ => ?_)
  split
  · exact ⟨h.spares, h.idly⟩
  · refine (check_sparing h _).bind (fun _ _ => ?_)
    exact ⟨h.spares.trans (.modify _ hmem (fun _ => rfl)), h.idly⟩

theorem prepareNode_sparing (env : Environment) (workflowId : UUID)
    (agents : String → Option Agent) (visit : Visit) (run : Run) {node : DAGNode}
    (hmem : node.nodeId ∈ start.ids) :
    Outcome.Holds (Sparing start run) (StopsSparing start run)
      (prepareNode env workflowId agents visit run node) := by
  have hrefl : Sparing start run run := ⟨.refl _, .refl rfl⟩
  unfold prepareNode
  split
  · exact ⟨.markFailed _ hmem _, .refl rfl⟩
  · dsimp only
    refine (check_sparing hrefl _).bind (fun _ _ => ?_)
    split
    · unfold starveNode
      refine (upsertTaskRow_sparing hmem ?_).bind (fun _ h => h)
      exact ⟨.markFailed _ hmem _, .refl rfl⟩
    · exact hrefl
    · refine (check_sparing ?_ _).bind (fun _ _ => ?_)
      · exact ⟨.refl _, .refl rfl⟩
      unfold startNode
      refine (upsertTaskRow_sparing hmem ?_).bind ?_
      · exact ⟨.markRunning _ hmem, ⟨_, rfl, by simp [Event.startsNodes]⟩⟩
      · rintro ⟨taskId, run'⟩ h
        refine (check_sparing h _).bind (fun _ _ => ?_)
        exact ⟨h.spares, h.idly⟩

theorem policyEvaluateNode_sparing (visit : Visit) (run : Run) (escalated : List DAGNode)
    (context : NodeContext) :
    Outcome.Holds (fun state => Sparing start run state.1) (StopsSparing start run)
      (policyEvaluateNode visit (run, escalated) context) := by
  have hpolicy : ∀ verdict, Sparing start run
      (run.record (.policy context.node.nodeId verdict)) :=
    fun _ => ⟨.refl _, ⟨_, rfl, by simp [Event.startsNodes]⟩⟩
  unfold policyEvaluateNode
  split
  · exact ⟨.refl _, .refl rfl⟩
  · refine (check_sparing ⟨.refl _, .refl rfl⟩ _).bind (fun _ _ => ?_)
    dsimp only
    split
    · refine (check_sparing ?_ _).bind (fun _ _ => ?_)
      · exact ⟨.refl _, (hpolicy _).idly⟩
      · exact ⟨.refl _, (hpolicy _).idly⟩
    · exact hpolicy _
    · exact hpolicy _
    · exact hpolicy _

theorem gateNode_sparing (env : Environment) (workflowId : UUID) (visit : Visit) (run : Run)
    (node : DAGNode) (hcontexts : ∀ context ∈ run.contexts, context.node.nodeId ∈ start.ids) :
    Outcome.Holds (Sparing start run) (StopsSparing start run)
      (gateNode env workflowId visit run node) := by
  unfold gateNode
  split
  · exact ⟨.refl _, .refl rfl⟩
  · rename_i context hcontext
    have hmem := hcontexts context (Run.context?_eq_some hcontext).1
    dsimp only
    split
    · rename_i decision _
      have hfound : Idly run
          (run.record (.decisionFound node.nodeId (visit.twins.getD []) decision)) :=
        ⟨_, rfl, by simp [Event.startsNodes]⟩
      split
      · unfold denyNode
        refine (check_sparing ?_ _).bind (fun _ _ => ?_)
        · exact ⟨.markFailed _ hmem _, hfound⟩
        · exact ⟨.markFailed _ hmem _, hfound⟩
      · exact ⟨.refl _, hfound⟩
    · unfold requestApproval
      dsimp only
      have hreset : Spares (· ∈ start.ids) run.dag (run.dag.markPending context.node.nodeId) :=
        .modify _ hmem (fun _ => rfl)
      refine (check_sparing ?_ _).bind (fun _ _ => (check_sparing ?_ _).bind (fun _ _ => ?_))
      · exact ⟨hreset, .refl rfl⟩
      · exact ⟨hreset, .refl rfl⟩
      have hread : Idly run (run.record (.statusRead context.node.nodeId visit.statusRead)) :=
        ⟨_, rfl, by simp [Event.startsNodes]⟩
      split
      · exact ⟨hreset, hread.trans ⟨_, rfl, by simp [Event.startsNodes]⟩⟩
      · refine (check_sparing ?_ _).bind (fun _ _ => ?_)
        · exact ⟨hreset, hread⟩
        · exact ⟨hreset, hread⟩

/-- Phase 3 raises with the DAG as it was. -/
theorem settleNode_stops (env : Environment) (workflowId : UUID) (visit : Visit) (run : Run)
    (context : NodeContext) :
    Outcome.Holds (fun _ => True) (StopsSparing start run)
      (settleNode env workflowId visit run context) := by
  unfold settleNode
  split
  · unfold settleError
    refine (check_sparing ?_ _).bind (fun _ _ => ?_)
    · exact ⟨.refl _, .refl rfl⟩
    · trivial
  · rename_i response hresponse
    dsimp only
    split
    · trivial
    · rename_i failure hfailure
      obtain ⟨_, _, _, -, -, hrun⟩ := (processResponse_holds env workflowId visit
        (run.record (.processed context response run.db visit)) context response).of_error hfailure
      have hfailed : Sparing start run failure.run := by
        rw [hrun]
        exact ⟨.refl _, ⟨_, rfl, by simp [Event.startsNodes]⟩⟩
      unfold settleFailure
      refine (check_sparing ?_ _).bind (fun _ _ => ?_)
      · split
        · exact ⟨hfailed.spares, hfailed.idly⟩
        · have hreleased := releaseNode_released workflowId visit failure.aborted failure.run
            context.node.nodeId
            s!"Task {context.node.nodeId} post-processing failed: {env.errorText failure.error}"
          refine ⟨?_, hfailed.idly.trans hreleased.onward.idly⟩
          show Spares _ run.dag (releaseNode _ _ _ _ _ _).dag
          rw [hreleased.eq]
          exact hfailed.spares
      · trivial

theorem Settled.idly {context : NodeContext}
    (h : Settled env workflowId visit run context run') : Idly run run' := by
  obtain ⟨events, hlog, hreleased⟩ := h.events
  refine ⟨attempt visit run context ++ events, by rw [hlog, List.append_assoc], ?_⟩
  intro event hevent
  rcases List.mem_append.1 hevent with hattempt | hrelease
  · unfold attempt at hattempt
    split at hattempt
    · rw [List.mem_singleton.1 hattempt]
      rfl
    · cases hattempt
  · obtain ⟨_, _, rfl⟩ := hreleased event hrelease
    rfl

end Stops

namespace Unattended

variable {start : DAG} {coming : List String} {run run' : Run}

/-- A step that spares the added nodes. -/
theorem sparing (h : Unattended start coming run) (hsparing : Sparing start run run')
    (hcontexts : ∀ context ∈ run'.contexts, context.node.nodeId ∈ start.ids) :
    Unattended start coming run' where
  toUnattempted := hsparing.unattempted h.toUnattempted
  contexts := hcontexts
  known := by
    rw [hsparing.spares.ids]
    exact h.known
  taken := by
    rintro nodeId hnot ⟨ready, hevent, hready⟩
    have hold : Event.batch ready ∈ run.log := hsparing.idly.mem_of_startsNodes hevent rfl
    exact (h.taken nodeId hnot ⟨ready, hold, hready⟩).imp id (hsparing.spares.isUnassigned hnot)

/-- The node at the front is visited. -/
theorem visited {nodeId : String} {rest : List String}
    (h : Unattended start (nodeId :: rest) run)
    (hdone : nodeId ∈ start.ids ∨ IsUnassigned run.dag nodeId) : Unattended start rest run where
  toUnattempted := h.toUnattempted
  contexts := h.contexts
  known := fun other hother => h.known other (List.mem_cons_of_mem _ hother)
  taken := by
    intro other hnot htaken
    rcases h.taken other hnot htaken with hcoming | hunassigned
    · rcases List.mem_cons.1 hcoming with rfl | hrest
      · exact Or.inr (hdone.resolve_left hnot)
      · exact Or.inl hrest
    · exact Or.inr hunassigned

/-- A node without an agent is failed. -/
theorem fail {nodeId : String} {rest : List String} (h : Unattended start (nodeId :: rest) run) :
    Unattended start rest { run with
      dag := run.dag.markFailed nodeId (some "No agent assigned") } := by
  have hself := node?_markFailed_self run.dag nodeId (some "No agent assigned")
  have hspares : Spares (fun other => other ∈ start.ids ∨ other = nodeId) run.dag
      (run.dag.markFailed nodeId (some "No agent assigned")) := .markFailed _ (Or.inr rfl) _
  have hunassigned : IsUnassigned (run.dag.markFailed nodeId (some "No agent assigned")) nodeId := by
    obtain ⟨node, hnode⟩ := DAG.mem_ids_iff.1 (h.known nodeId List.mem_cons_self)
    refine ⟨DAG.failNode (some "No agent assigned") node, ?_, rfl, rfl⟩
    rw [hself, hnode]
    rfl
  suffices hcoming : Unattended start (nodeId :: rest) { run with
      dag := run.dag.markFailed nodeId (some "No agent assigned") } from
    hcoming.visited (Or.inr hunassigned)
  refine ⟨⟨?_, h.called⟩, h.contexts, ?_, ?_⟩
  · intro other node hnot hnode
    by_cases heq : other = nodeId
    · rw [heq, hself] at hnode
      obtain ⟨old, hold, rfl⟩ := Option.map_eq_some_iff.1 hnode
      exact h.nodes nodeId old (heq ▸ hnot) hold
    · exact hspares.taskId_eq_none (not_or.2 ⟨hnot, heq⟩)
        (fun node => h.nodes other node hnot) node hnode
  · show ∀ other ∈ nodeId :: rest, other ∈ (run.dag.markFailed _ _).ids
    rw [DAG.ids_markFailed]
    exact h.known
  · intro other hnot htaken
    by_cases heq : other = nodeId
    · exact Or.inl (heq ▸ List.mem_cons_self)
    · exact (h.taken other hnot htaken).imp id (hspares.isUnassigned (not_or.2 ⟨hnot, heq⟩))

/-- An alternative is added. -/
theorem replan {nodeId text : String} {added : DAGNode} {dag : DAG} (h : Unattended start [] run)
    (hreplan : DynamicReplanner.replan run.dag nodeId text = some (added, dag)) :
    Unattended start [] { run with dag } := by
  obtain ⟨node, -, rfl, hadd⟩ := DynamicReplanner.replan_eq_some hreplan
  refine ⟨⟨?_, h.called⟩, h.contexts, fun _ hother => absurd hother List.not_mem_nil, ?_⟩
  · intro other found hnot hfound
    have hnode := DAG.node?_addNode hadd other
    rw [hnode] at hfound
    split at hfound
    · cases hfound
      rfl
    · exact h.nodes other found hnot hfound
  · intro other hnot htaken
    refine Or.inr ?_
    obtain ⟨found, hfound, hstatus⟩ := (h.taken other hnot htaken).resolve_left List.not_mem_nil
    refine ⟨found, ?_, hstatus⟩
    have hne : other ≠ (DynamicReplanner.altNode node text).nodeId := by
      rintro rfl
      exact (DAG.addNode_eq_some hadd).1 (DAG.mem_ids_iff.2 ⟨found, hfound⟩)
    show dag.node? other = some found
    rw [DAG.node?_addNode hadd, if_neg hne]
    exact hfound

/-! ## The steps of a batch -/

variable {env : Environment} {workflowId : UUID} {agents : String → Option Agent} {visit : Visit}

/-- A run has attempted no added node when it stops, and has failed those taken
up when it pauses. -/
def Stops (start : DAG) (stopped : Stopped) : Prop :=
  Unattempted start stopped.2 ∧ (stopped.1 ≠ .raised → Unattended start [] stopped.2)

theorem stops_of_raised {stopped : Stopped} (h : Unattempted start run)
    (hraised : stopped.1 = .raised) (hstopped : StopsSparing start run stopped) :
    Stops start stopped :=
  ⟨Sparing.unattempted hstopped h, fun hnot => absurd hraised hnot⟩

theorem prepareNode {node : DAGNode} {rest : List String} (hagents : AssignsOnly agents start)
    (h : Unattended start (node.nodeId :: rest) run) :
    Outcome.Holds (Unattended start rest) (Stops start)
      (prepareNode env workflowId agents visit run node) := by
  by_cases hmem : node.nodeId ∈ start.ids
  · refine ((prepareNode_holds env workflowId agents visit run node).and
      (prepareNode_sparing env workflowId agents visit run hmem)).mono ?_
      (fun stopped hstopped => stops_of_raised h.toUnattempted hstopped.1.1 hstopped.2)
    rintro run' ⟨hprepared, hsparing⟩
    refine (h.sparing hsparing ?_).visited (Or.inl hmem)
    cases hprepared with
    | noAgent error _ hrun =>
      rw [hrun]
      exact h.contexts
    | starved error tasks dag taskId _ hrun =>
      rw [hrun]
      exact h.contexts
    | started agent reservation db tasks dag taskId _ _ _ hrun =>
      rw [hrun]
      intro context hcontext
      rcases List.mem_append.1 hcontext with hold | hnew
      · exact h.contexts context hold
      · rw [List.mem_singleton.1 hnew]
        exact hmem
  · unfold WorkflowScheduler.prepareNode
    rw [hagents _ hmem]
    exact h.fail

theorem policyEvaluateNode {escalated : List DAGNode} {context : NodeContext}
    (h : Unattended start [] run) :
    Outcome.Holds (fun state => Unattended start [] state.1) (Stops start)
      (policyEvaluateNode visit (run, escalated) context) := by
  refine ((policyEvaluateNode_holds visit run escalated context).and
    (policyEvaluateNode_sparing visit run escalated context)).mono ?_
    (fun stopped hstopped => stops_of_raised h.toUnattempted hstopped.1.1 hstopped.2)
  rintro state ⟨hevaluated, hsparing⟩
  refine h.sparing hsparing ?_
  cases hevaluated with
  | failed hstate =>
    rw [hstate]
    exact h.contexts
  | denied ruleId reason tasks hrun _ =>
    rw [hrun]
    exact fun other hother => h.contexts other (List.mem_filter.1 hother).1
  | kept verdict _ hrun _ =>
    rw [hrun]
    exact h.contexts

theorem gateNode {node : DAGNode} (h : Unattended start [] run) :
    Outcome.Holds (Unattended start []) (Stops start)
      (gateNode env workflowId visit run node) := by
  refine ((gateNode_holds env workflowId visit run node).and
    (gateNode_sparing env workflowId visit run node h.contexts)).mono ?_ ?_
  · rintro run' ⟨⟨context, hcontext, -, hgated⟩, hsparing⟩
    refine h.sparing hsparing ?_
    cases hgated with
    | denied decision tasks error _ hrun =>
      rw [hrun]
      exact fun other hother => h.contexts other (List.mem_filter.1 hother).1
    | passed decision _ _ hrun =>
      rw [hrun]
      exact h.contexts
    | fellThrough tasks _ hrun =>
      rw [hrun]
      exact h.contexts
  · rintro stopped ⟨hstopped, hsparing⟩
    refine ⟨Sparing.unattempted hsparing h.toUnattempted, fun hnot => h.sparing hsparing ?_⟩
    rcases hstopped with hraised | ⟨context, hcontext, -, hpaused⟩
    · exact absurd hraised.1 hnot
    · obtain ⟨workflows, tasks, hstate⟩ := hpaused.state
      rw [hstate]
      exact h.contexts

theorem settleNode {context : NodeContext} (h : Unattended start [] run)
    (hmem : context.node.nodeId ∈ start.ids) :
    Outcome.Holds (Unattended start []) (Stops start)
      (settleNode env workflowId visit run context) := by
  refine ((settleNode_holds env workflowId visit run context).and
    (settleNode_stops env workflowId visit run context)).mono ?_
    (fun stopped hstopped => stops_of_raised h.toUnattempted hstopped.1.1 hstopped.2)
  rintro run' ⟨hsettled, -⟩
  have hidly : Idly run run' := hsettled.idly
  cases hsettled with
  | llmFailed message tasks run₁ _ hreleased hrun =>
    have hrun₁ : run₁ = { run with db := run₁.db, log := run₁.log } := hreleased.eq
    refine h.sparing ⟨?_, hidly⟩ ?_
    · rw [hrun, hrun₁]
      exact .markFailed _ hmem _
    · rw [hrun, hrun₁]
      exact h.contexts
  | completed response _ hcompleted =>
    obtain ⟨_, _, db, workflows, tasks, dag, replanCount, -, -, -, hdag, hrun⟩ := hcompleted
    have hcompleted : Unattended start [] { run with
        dag := run.dag.markCompleted context.node.nodeId (some response.content) } :=
      h.sparing ⟨.modify _ hmem (fun _ => rfl), .refl rfl⟩ h.contexts
    have hreflected : Unattended start [] { run with dag } := by
      rcases hdag with rfl | rfl | ⟨text, added, hreplan⟩
      · exact hcompleted
      · exact hcompleted.sparing ⟨.modify _ hmem (fun _ => rfl), .refl rfl⟩ h.contexts
      · exact hcompleted.replan hreplan
    rw [hrun] at hidly ⊢
    exact hreflected.sparing ⟨.refl _, hidly⟩ h.contexts
  | rejected response charged run₁ run₂ tasks error _ hrejected hreleased hrun =>
    have hdag : run₂.dag = run.dag := by rw [hrejected.eq hreleased]; rfl
    have hcontexts : run₂.contexts = run.contexts := by rw [hrejected.eq hreleased]; rfl
    refine h.sparing ⟨?_, hidly⟩ ?_
    · rw [hrun]
      show Spares _ run.dag (run₂.dag.markFailed _ _)
      rw [hdag]
      exact .markFailed _ hmem _
    · rw [hrun]
      show ∀ context ∈ run₂.contexts, _
      rw [hcontexts]
      exact h.contexts

/-! ## Batches and runs -/

theorem executeBatch (hagents : AssignsOnly agents start) (iteration : Nat)
    (h : Unattended start [] run) :
    Outcome.Holds (Unattended start []) (Stops start)
      (executeBatch env workflowId agents iteration run) := by
  have hraised : ∀ run : Run, Unattended start [] run → Stops start (.raised, run) :=
    fun _ h => ⟨h.toUnattempted, fun hnot => absurd rfl hnot⟩
  have hopened : Unattended start (run.dag.getReadyNodes.map DAGNode.nodeId) (openBatch run) := by
    refine ⟨⟨h.nodes, ?_⟩, fun _ hcontext => absurd hcontext List.not_mem_nil, ?_, ?_⟩
    · intro gated called hevent
      rcases List.mem_append.1 hevent with hold | hnew
      · exact h.called gated called hold
      · cases List.mem_singleton.1 hnew
    · intro nodeId hready
      obtain ⟨node, hnode, rfl⟩ := List.mem_map.1 hready
      exact DAG.mem_ids_iff.2 ⟨node, (DAG.mem_getReadyNodes.1 hnode).1⟩
    · rintro nodeId hnot ⟨ready, hevent, hready⟩
      rcases List.mem_append.1 hevent with hold | hnew
      · exact Or.inr ((h.taken nodeId hnot ⟨ready, hold, hready⟩).resolve_left List.not_mem_nil)
      · cases List.mem_singleton.1 hnew
        exact Or.inl hready
  have hcalled : Outcome.Holds (Unattended start []) (Stops start)
      (callPhases env workflowId agents iteration run) := by
    refine callPhases_holds
      (P := fun rest run => Unattended start (rest.map DAGNode.nodeId) run)
      (Q := Unattended start []) (fun _ _ _ _ h => h.prepareNode hagents) (fun _ h => h)
      (fun _ _ _ _ h => h.policyEvaluateNode) (fun _ h => h) (fun _ _ _ h => h.gateNode) ?_
      hraised iteration run hopened
    intro run gated h
    refine ⟨⟨h.nodes, ?_⟩, h.contexts, h.known, ?_⟩
    · intro others called hevent
      rcases List.mem_append.1 hevent with hold | hnew
      · exact h.called others called hold
      · cases List.mem_singleton.1 hnew
        intro nodeId hcalled
        obtain ⟨context, hcontext, rfl⟩ := List.mem_map.1 hcalled
        exact h.contexts context hcontext
    · rintro nodeId hnot ⟨ready, hevent, hready⟩
      rcases List.mem_append.1 hevent with hold | hnew
      · exact h.taken nodeId hnot ⟨ready, hold, hready⟩
      · cases List.mem_singleton.1 hnew
  refine executeBatch_rule hcalled
    (S := fun rest run => Unattended start [] run ∧
      ∀ context ∈ rest, context.node.nodeId ∈ start.ids)
    (fun run h => ⟨h, h.contexts⟩) ?_ ?_ hraised
  · rintro visit context rest run ⟨h, hrest⟩
    refine (h.settleNode (hrest context List.mem_cons_self)).mono (fun run' h' => ⟨h', ?_⟩)
      (fun _ h => h)
    exact fun other hother => hrest other (List.mem_cons_of_mem _ hother)
  · rintro run' f ⟨h, -⟩
    exact h.sparing ⟨.refl _, .refl rfl⟩ h.contexts

theorem loop (hagents : AssignsOnly agents start) (remaining iteration : Nat)
    (h : Unattended start [] run) :
    Outcome.Holds (fun result => Unattended start [] result.2) (Stops start)
      (loop env workflowId agents remaining iteration run) := by
  induction remaining generalizing iteration run with
  | zero => exact h
  | succ remaining ih =>
    unfold WorkflowScheduler.loop
    split
    · exact h
    · split
      · exact h
      · exact (h.executeBatch hagents iteration).bind (fun _ h' => ih (iteration + 1) h')

theorem startRun (env : Environment) (workflowId : UUID) (db : Db) (start : DAG) :
    Unattended start [] (startRun env workflowId db start) := by
  refine ⟨⟨?_, ?_⟩, ?_, ?_, ?_⟩
  · intro nodeId node hnot hnode
    exact absurd (DAG.mem_ids_iff.2 ⟨node, hnode⟩) hnot
  · intro gated called hevent
    cases hevent
  · intro context hcontext
    cases hcontext
  · intro nodeId hnodeId
    cases hnodeId
  · rintro nodeId - ⟨ready, hevent, -⟩
    cases hevent

/-- Every run leaves the nodes it has added without an agent. -/
theorem executeWorkflow (hagents : AssignsOnly agents start) (db : Db) :
    Outcome.Holds (fun result => Unattended start [] result.2) (Stops start)
      (executeWorkflow env workflowId agents db start) := by
  have hended : ∀ {last : Run}, Unattended start [] last → ∀ workflows,
      Unattended start [] { last with db := { last.db with workflows } } :=
    fun h _ => h.sparing ⟨.refl _, .refl rfl⟩ h.contexts
  have hraised : ∀ {run : Run} {f : Workflow → Workflow} (raises : Bool),
      Unattended start [] run → Outcome.Holds (fun _ => True) (Stops start)
        ({ run with db := run.db.updateWorkflow workflowId f }.check raises) := by
    intro run f raises h
    cases raises with
    | true => exact ⟨(hended h _).toUnattempted, fun hnot => absurd rfl hnot⟩
    | false => trivial
  unfold WorkflowScheduler.executeWorkflow
  have hstart := startRun env workflowId db start
  refine Outcome.Holds.bind (P := fun _ => True) ?_ (fun _ _ => ?_)
  · cases env.startFlushRaises with
    | true => exact ⟨hstart.toUnattempted, fun hnot => absurd rfl hnot⟩
    | false => trivial
  refine (hstart.loop hagents (maxIterations start) 1).bind ?_
  rintro ⟨runaway, last⟩ hlast
  dsimp only at hlast ⊢
  split
  · unfold failRunaway
    exact (hraised env.finishFlushRaises hlast).bind (fun _ _ => hended hlast _)
  · unfold finalise
    split
    · exact ⟨hlast.toUnattempted, fun hnot => absurd rfl hnot⟩
    · exact (hraised env.finishFlushRaises hlast).bind (fun _ _ => hended hlast _)

end Unattended

theorem Unattempted.not_attempted {start : DAG} {run : Run} (h : Unattempted start run)
    {nodeId : String} (hnot : nodeId ∉ start.ids) : ¬Attempted run nodeId := by
  rintro (htask | ⟨gated, called, hevent, hcalled⟩)
  · refine htask ?_
    unfold DAG.taskId?
    cases hnode : run.dag.node? nodeId with
    | none => rfl
    | some node => exact h.nodes nodeId node hnot hnode
  · exact hnot (h.called gated called hevent nodeId hcalled)

/-- A run attempts the alternatives that it takes up only if it takes up none:
each of them is failed for lack of an agent. -/
theorem attemptsAlternatives_iff (env : Environment) (workflowId : UUID) (rows : List AgentRow)
    (dag : DAG) (budget : ℚ) (state : AgentSelector.Assignment) (db : Db)
    (hselect : AgentSelector.selectAgentsForDag rows dag budget = .ok state) :
    (AttemptsAlternatives state.dag
        (finalRun (executeWorkflow env workflowId state.agents db state.dag)) ↔
      ∀ nodeId, TakenUp (finalRun (executeWorkflow env workflowId state.agents db state.dag))
        nodeId → nodeId ∈ state.dag.ids) ∧
    ∀ run, Delivers (executeWorkflow env workflowId state.agents db state.dag) run →
      ∀ nodeId, nodeId ∉ state.dag.ids → TakenUp run nodeId → IsUnassigned run.dag nodeId := by
  have hholds := @Unattended.executeWorkflow state.dag env workflowId state.agents
    (AgentSelector.assignsOnly hselect) db
  have hunattempted : Unattempted state.dag
      (finalRun (executeWorkflow env workflowId state.agents db state.dag)) := by
    cases hrun : executeWorkflow env workflowId state.agents db state.dag with
    | ok result => exact (hholds.of_ok hrun).toUnattempted
    | error stopped => exact (hholds.of_error hrun).1
  refine ⟨⟨fun h nodeId htaken => ?_, fun h nodeId hnot htaken => absurd (h nodeId htaken) hnot⟩,
    ?_⟩
  · by_contra hnot
    exact hunattempted.not_attempted hnot (h nodeId hnot htaken)
  · intro run hrun nodeId hnot htaken
    have hunattended : Unattended state.dag [] run := by
      rcases hrun with ⟨result, hreturned⟩ | ⟨pause, hpaused⟩
      · exact hholds.of_ok hreturned
      · exact (hholds.of_error hpaused).2 (by simp)
    exact (hunattended.taken nodeId hnot htaken).resolve_left List.not_mem_nil

/-! ## An alternative that is failed -/

instance (run : Run) (nodeId : String) : Decidable (TakenUp run nodeId) :=
  decidable_of_iff (run.log.any (fun event =>
      match event with
      | .batch ready => nodeId ∈ ready
      | _ => false)) (by
    rw [List.any_eq_true]
    constructor
    · rintro ⟨event, hevent, hready⟩
      cases event with
      | batch ready => exact ⟨ready, hevent, of_decide_eq_true hready⟩
      | _ => cases hready
    · rintro ⟨ready, hevent, hready⟩
      exact ⟨.batch ready, hevent, decide_eq_true hready⟩)

instance (run : Run) (nodeId : String) : Decidable (Attempted run nodeId) :=
  decidable_of_iff (run.dag.taskId? nodeId ≠ none ∨ run.log.any (fun event =>
      match event with
      | .llmCalls _ called => nodeId ∈ called
      | _ => false)) (by
    refine or_congr_right ?_
    rw [List.any_eq_true]
    constructor
    · rintro ⟨event, hevent, hcalled⟩
      cases event with
      | llmCalls gated called => exact ⟨gated, called, hevent, of_decide_eq_true hcalled⟩
      | _ => cases hcalled
    · rintro ⟨gated, called, hevent, hcalled⟩
      exact ⟨.llmCalls gated called, hevent, decide_eq_true hcalled⟩)

end WorkflowScheduler

namespace SchedulerExample

/-- An agent for research. -/
def researcher : AgentRow :=
  { agent with capabilities := ["research"], status := .active }

/-- The reflection asks for another plan on the first attempt. -/
def replanned (iteration : Nat) (nodeId : String) : Visit :=
  { visit nodeId with reflection := some { action := if iteration = 1 then "re_plan" else "accept" } }

/-- The run of one node that gets an alternative. -/
def replannedRun (state : AgentSelector.Assignment) : Run :=
  WorkflowScheduler.finalRun
    (WorkflowScheduler.executeWorkflow (env replanned) (UUID.ofNat 1) state.agents db state.dag)

/-- The agents for one node. -/
def selection : Except AgentUnavailableError AgentSelector.Assignment :=
  AgentSelector.selectAgentsForDag [researcher] (DAG.ofNodes [root "t1" "research"]) 1000

theorem replanned_takenUp : ∃ state, selection = .ok state ∧ "t1_alt" ∉ state.dag.ids ∧
    WorkflowScheduler.TakenUp (replannedRun state) "t1_alt" ∧
      ¬WorkflowScheduler.Attempted (replannedRun state) "t1_alt" := by
  have hrun : (match selection with
    | .error _ => false
    | .ok state => decide ("t1_alt" ∉ state.dag.ids ∧
        WorkflowScheduler.TakenUp (replannedRun state) "t1_alt" ∧
          ¬WorkflowScheduler.Attempted (replannedRun state) "t1_alt")) = true := by
    decide +kernel
  cases hselect : selection with
  | error error =>
    rw [hselect] at hrun
    cases hrun
  | ok state =>
    rw [hselect] at hrun
    exact ⟨state, rfl, of_decide_eq_true hrun⟩

end SchedulerExample

namespace WorkflowScheduler

open SchedulerExample in
/-- The node that comes up is not one of the DAG the agents were selected for,
so the run does not attempt its alternatives. -/
theorem attemptsAlternatives_of_replanned :
    ∃ state, selection = .ok state ∧ ¬AttemptsAlternatives state.dag (replannedRun state) := by
  obtain ⟨state, hselect, hnot, htaken, -⟩ := replanned_takenUp
  refine ⟨state, hselect, fun h => hnot ?_⟩
  exact (attemptsAlternatives_iff (env replanned) (UUID.ofNat 1) [researcher]
    (DAG.ofNodes [root "t1" "research"]) 1000 state db hselect).1.1 h _ htaken

open SchedulerExample in
/-- An alternative is failed without an attempt. -/
theorem attemptsAlternatives_fails :
    ¬∀ (env : Environment) (workflowId : UUID) (rows : List AgentRow) (dag : DAG) (budget : ℚ)
      (state : AgentSelector.Assignment) (db : Db),
      AgentSelector.selectAgentsForDag rows dag budget = .ok state →
        AttemptsAlternatives state.dag
          (finalRun (executeWorkflow env workflowId state.agents db state.dag)) := by
  intro h
  obtain ⟨state, hselect, hnot, htaken, hattempted⟩ := replanned_takenUp
  exact hattempted (h (env replanned) (UUID.ofNat 1) [researcher]
    (DAG.ofNodes [root "t1" "research"]) 1000 state db hselect _ hnot htaken)

end WorkflowScheduler

end MassClaw
