import MassClaw.Scheduler.Progress

/-!
# Completed workflows

A workflow that is finalised as completed has a DAG whose nodes are all
terminal, as long as no policy verdict of the run is a denial: a denied node
loses its context but stays running, so it is never ready again, and the
finaliser only looks at the counts of failed and completed nodes.
-/

namespace MassClaw

namespace WorkflowScheduler

variable {env : Environment} {workflowId : UUID} {agents : String → Option Agent} {limit : Nat}
  {run run' : Run} {result : List (String × Json)}

/-- A runaway workflow is failed. -/
theorem status_of_runaway (h : failRunaway env workflowId limit run = .ok (result, run')) :
    (run'.db.workflow? workflowId).map Workflow.status ≠ some .completed := by
  unfold failRunaway at h
  obtain ⟨_, -, h⟩ := Outcome.bind_eq_ok h
  cases h
  dsimp only
  rw [Db.workflow?_updateWorkflow _ _ _ (by intro; rfl), Option.map_map]
  cases run.db.workflow? workflowId with
  | none => simp
  | some workflow => simp

/-- The DAG a run may start with: accepted by the constructor, every node waits
or is terminal, and none waits for a node that failed or was skipped. -/
structure Startable (dag : DAG) : Prop where
  accepted : ∃ nodes, (nodes.map DAGNode.nodeId).Nodup ∧ DAG.new nodes = .ok dag
  quiet : ∀ node ∈ dag.nodes, DAG.IsQuiet node.status
  closed : dag.FailureClosed

theorem Startable.working {dag : DAG} (h : Startable dag) : dag.Working ∅ where
  acyclic := by
    obtain ⟨nodes, hnodup, hnew⟩ := h.accepted
    exact DAG.acyclic_of_new hnodup hnew
  closed := h.closed
  quiet := by
    intro nodeId status hstatus _
    obtain ⟨node, hnode, rfl⟩ := DAG.status?_eq_some_iff.1 hstatus
    exact h.quiet node (DAG.node?_eq_some_iff.1 hnode).1
  met := fun _ hmem => absurd hmem (Set.notMem_empty _)
  undone := fun _ hmem => absurd hmem (Set.notMem_empty _)

/-- In a run without a policy denial, a workflow finalised as completed has
only terminal nodes. -/
theorem isComplete_of_completed (env : Environment) (workflowId : UUID)
    (agents : String → Option Agent) (db : Db) (dag : DAG) (hdag : Startable dag)
    (result : List (String × Json)) (run : Run)
    (hrun : executeWorkflow env workflowId agents db dag = .ok (result, run))
    (hpolicy : ∀ event ∈ run.log, isPolicyDenial event = false)
    (hstatus : (run.db.workflow? workflowId).map Workflow.status = some .completed) :
    run.dag.isComplete = true := by
  have hkept : workingPhases.Kept env workflowId agents (isPolicyDenial · = false)
      (fun _ => True) :=
    workingPhases_kept (fun _ h => h) (fun _ _ => trivial) (fun _ _ _ _ => trivial)
  have hholds := hkept.executeWorkflow_holds db dag hdag.working
  obtain ⟨last, hlast, hended⟩ := hholds.of_ok hrun
  have heq := hended.eq
  cases hended with
  | runaway hresult => exact absurd hstatus (status_of_runaway hresult)
  | finalised hexit hresult =>
    have hdagEq : run.dag = last.dag := by rw [show run = _ from heq]
    have hlog : run.log = last.log := by rw [show run = _ from heq]
    rw [hlog] at hpolicy
    rw [hdagEq]
    rcases hexit with hcomplete | hready
    · exact hcomplete
    · exact (hlast hpolicy).complete_or_ready.resolve_right (fun hne => hne hready)

end WorkflowScheduler

/-! ## A denied node -/

namespace SchedulerExample

/-- A host whose digests are all zero. -/
def host : Host where
  sha256 _ := List.replicate 32 0
  sign _ _ := []
  verify _ _ _ := false
  repr _ := ""
  parseFloat? _ := none
  parseInt? _ := none
  isoformat _ := ""
  fromIsoformat? _ := none

/-- A set is iterated in the order of its list. -/
def order : SetOrder where
  enumerate items := items
  mem_enumerate _ _ := Iff.rfl

/-- A workflow with a limit of 1000 credits. -/
def workflow : Workflow where
  workflowId := UUID.ofNat 1
  prompt := "audit"
  status := .pending
  budgetLimit := 10000000
  budgetUsed := 0
  dagSnapshot := none
  result := none
  startedAt := none
  completedAt := none

/-- An agent for every node. -/
def agent : Agent where
  agentId := UUID.ofNat 2
  name := "analyst"
  trustScore := 1 / 2
  capabilities := []
  avgCostPerCall := 0
  supportedTools := .null

/-- A database with the workflow and the agent. -/
def db : Db where
  workflows := [workflow]
  agents := [agent]
  tasks := []
  memoryRecords := Table.empty
  walletEvents := Table.empty

/-- A node without dependencies. -/
def root (nodeId capability : String) : DAGNode where
  nodeId := nodeId
  capability := capability
  description := "d"

/-- A response that costs twelve credits. -/
def response : LLMResponse where
  content := "findings"
  model := "claude-sonnet-5"
  cost := 12 / 1000

/-- What every visit answers unless it is said otherwise. -/
def visit (nodeId : String) : Visit where
  newTaskId := UUID.ofNat (100 + WorkflowScheduler.stepNumber nodeId)
  response := .ok response

/-- The environment in which `visits` answers. -/
def env (visits : Nat → String → Visit) : Environment where
  host := host
  order := order
  policyRules _ := true
  visit := visits
  synthesis := .ok [("content", .str "summary")]

/-- The run of a list of root nodes. -/
def execute (visits : Nat → String → Visit) (nodes : List DAGNode) :
    Except Stopped (List (String × Json) × Run) :=
  WorkflowScheduler.executeWorkflow (env visits) (UUID.ofNat 1) (fun _ => some agent) db
    (DAG.ofNodes nodes)

/-- Accepted root nodes that wait are a DAG to start with. -/
theorem startable {nodes : List DAGNode} (hids : (nodes.map DAGNode.nodeId).Nodup)
    (hvalid : (DAG.ofNodes nodes).validate = .ok ())
    (hroots : ∀ node ∈ nodes, node.dependsOn = [] ∧ node.status = .pending) :
    WorkflowScheduler.Startable (DAG.ofNodes nodes) where
  accepted := ⟨nodes, hids, by rw [DAG.new, hvalid]; rfl⟩
  quiet := by
    intro node hnode
    have hnodes : (DAG.ofNodes nodes).nodes = nodes := DAG.nodeDict_of_nodup hids
    rw [hnodes] at hnode
    rw [(hroots node hnode).2]
    exact Or.inl (by decide)
  closed := by
    intro nodeId status hstatus _ dep hdep
    have hnodes : (DAG.ofNodes nodes).nodes = nodes := DAG.nodeDict_of_nodup hids
    obtain ⟨node, hnode, -⟩ := DAG.status?_eq_some_iff.1 hstatus
    have hmem := (DAG.node?_eq_some_iff.1 hnode).1
    rw [hnodes] at hmem
    rw [DAG.deps_of_node? hnode, (hroots node hmem).1] at hdep
    cases hdep

/-- What a returned run leaves behind, as far as it can be decided. -/
structure Ending where
  status : Option WorkflowStatus
  statuses : List TaskStatus
  complete : Bool
  policyDenial : Bool
  deriving DecidableEq

/-- How a returned run ends. -/
def ending? : Except Stopped (List (String × Json) × Run) → Option Ending
  | .ok (_, run) => some
    { status := (run.db.workflow? (UUID.ofNat 1)).map Workflow.status
      statuses := run.dag.nodes.map DAGNode.status
      complete := run.dag.isComplete
      policyDenial := run.log.any WorkflowScheduler.isPolicyDenial }
  | .error _ => none

theorem ending?_eq_some {execution : Except Stopped (List (String × Json) × Run)}
    {ending : Ending} (h : ending? execution = some ending) :
    ∃ result run, execution = .ok (result, run) ∧
      (run.db.workflow? (UUID.ofNat 1)).map Workflow.status = ending.status ∧
      run.dag.isComplete = ending.complete ∧
      run.log.any WorkflowScheduler.isPolicyDenial = ending.policyDenial := by
  cases execution with
  | error stopped => cases h
  | ok returned =>
    cases h
    exact ⟨returned.1, returned.2, rfl, rfl, rfl, rfl⟩

/-- A policy rule denies the node. -/
def denied (_ : Nat) (nodeId : String) : Visit :=
  { visit nodeId with policy := some (.deny (some "r1") "forbidden") }

end SchedulerExample

namespace WorkflowScheduler

open SchedulerExample in
/-- A node that no rule denies is completed before its workflow is. -/
theorem isComplete_of_allowed :
    ∃ result run, execute (fun _ nodeId => visit nodeId) [root "t1" "research"] =
      .ok (result, run) ∧ run.dag.isComplete = true := by
  have hending : ending? (execute (fun _ nodeId => visit nodeId) [root "t1" "research"]) =
      some ⟨some .completed, [.completed], true, false⟩ := by decide +kernel
  obtain ⟨result, run, hrun, hstatus, -, hdenial⟩ := ending?_eq_some hending
  refine ⟨result, run, hrun, isComplete_of_completed _ _ _ _ _
    (startable (by decide) (by decide +kernel) (by decide)) result run hrun ?_ hstatus⟩
  intro event hevent
  simpa using List.any_eq_false.1 hdenial event hevent

open SchedulerExample in
/-- A denied node stays running in a workflow that is finalised as completed. -/
theorem isComplete_fails :
    ¬∀ (env : Environment) (workflowId : UUID) (agents : String → Option Agent) (db : Db)
      (dag : DAG), Startable dag → ∀ (result : List (String × Json)) (run : Run),
        executeWorkflow env workflowId agents db dag = .ok (result, run) →
        (run.db.workflow? workflowId).map Workflow.status = some .completed →
          run.dag.isComplete = true := by
  intro h
  have hending : ending? (execute denied [root "t1" "research"]) =
      some ⟨some .completed, [.running], false, true⟩ := by decide +kernel
  obtain ⟨result, run, hrun, hstatus, hcomplete, -⟩ := ending?_eq_some hending
  have htrue := h _ _ _ _ _ (startable (by decide) (by decide +kernel) (by decide)) result run
    hrun hstatus
  rw [hcomplete] at htrue
  cases htrue

end WorkflowScheduler

end MassClaw
