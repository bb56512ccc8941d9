import MassClaw.Lib.Prefixwise
import MassClaw.Scheduler.Completion

/-!
# What the gate lets through

A node that needs an approval is handed to the LLM only after the gate has found
a decision for it that is not a denial, or has read its own request back as
approved.  An expired decision is let through like an approved one.

A request that is denied or has vanished when it is read back falls through the
gate, too; the statement below leaves such runs out.
-/

namespace MassClaw

namespace WorkflowScheduler

/-- The log has a decision for the node that is not a denial, or the request of
the gate was approved when it was read back. -/
def DecisionRecorded (workflowId : UUID) (nodeId : String) (log : List Event) : Prop :=
  (∃ twins decision, .decisionFound nodeId twins decision ∈ log ∧ decision.status ≠ "denied" ∧
      FederatedApprovalStore.Decides twins workflowId.str nodeId decision) ∨
    .statusRead nodeId (some "approved") ∈ log

theorem DecisionRecorded.mono {workflowId : UUID} {nodeId : String} {log log' : List Event}
    (h : DecisionRecorded workflowId nodeId log) (hlog : log ⊆ log') :
    DecisionRecorded workflowId nodeId log' := by
  rcases h with ⟨twins, decision, hevent, hdecision⟩ | hevent
  · exact Or.inl ⟨twins, decision, hlog hevent, hdecision⟩
  · exact Or.inr (hlog hevent)

/-- Every node that is called and has been gated has its decision on record. -/
def CallRecorded (workflowId : UUID) (before : List Event) : Event → Prop
  | .llmCalls gated called =>
    ∀ nodeId ∈ called, nodeId ∈ gated → DecisionRecorded workflowId nodeId before
  | _ => True

/-- The calls of a log come after the decisions they need. -/
def CallsRecorded (workflowId : UUID) (log : List Event) : Prop :=
  Prefixwise (CallRecorded workflowId) log

/-- The gate reads its own request back as pending or approved. -/
def readsPendingOrApproved : Event → Bool
  | .statusRead _ status => status = some "pending" ∨ status = some "approved"
  | _ => true

section Calls

variable {env : Environment} {workflowId : UUID} {agents : String → Option Agent} {run run' : Run}

theorem CallsRecorded.quietly (h : CallsRecorded workflowId run.log) (hquiet : Quietly run run') :
    CallsRecorded workflowId run'.log := by
  obtain ⟨events, hlog, hevents⟩ := hquiet
  rw [hlog]
  refine h.append (fun before event hevent => ?_)
  have hcall := hevents event hevent
  cases event with
  | llmCalls gated called => cases hcall
  | _ => trivial

/-- The gated nodes that still have a context are to be visited, or have their
decision on record. -/
structure Gating (workflowId : UUID) (all rest : List DAGNode) (run : Run) : Prop where
  calls : CallsRecorded workflowId run.log
  decided : ∀ nodeId ∈ contextIds run, nodeId ∈ all.map DAGNode.nodeId →
    nodeId ∈ rest.map DAGNode.nodeId ∨ DecisionRecorded workflowId nodeId run.log

theorem Gating.gated {all rest : List DAGNode} {node : DAGNode} {visit : Visit}
    {context : NodeContext} (h : Gating workflowId all (node :: rest) run)
    (hid : context.node.nodeId = node.nodeId)
    (hgated : Gated env workflowId visit run context run')
    (hmeets : ∀ event ∈ run'.log, readsPendingOrApproved event = true) :
    Gating workflowId all rest run' := by
  have hlog := hgated.quietly.log
  refine ⟨h.calls.quietly hgated.quietly, ?_⟩
  have hother : ∀ nodeId ∈ contextIds run, nodeId ≠ node.nodeId →
      nodeId ∈ all.map DAGNode.nodeId →
        nodeId ∈ rest.map DAGNode.nodeId ∨ DecisionRecorded workflowId nodeId run'.log := by
    intro nodeId hcontext hne hall
    rcases h.decided nodeId hcontext hall with hrest | hdecided
    · rw [List.map_cons, List.mem_cons] at hrest
      exact Or.inl (hrest.resolve_left hne)
    · exact Or.inr (hdecided.mono hlog.subset)
  cases hgated with
  | denied decision tasks error _ hrun =>
    intro nodeId hcontext hall
    have hmem : nodeId ∈ contextIds run ∧ nodeId ≠ context.node.nodeId := by
      rw [hrun] at hcontext
      obtain ⟨kept, hkept, rfl⟩ := List.mem_map.1 hcontext
      obtain ⟨hold, hne⟩ := List.mem_filter.1 hkept
      exact ⟨mem_contextIds hold, of_decide_eq_true hne⟩
    exact hother nodeId hmem.1 (hid ▸ hmem.2) hall
  | passed decision hstatus hdecides hrun =>
    intro nodeId hcontext hall
    have hold : nodeId ∈ contextIds run := by
      rw [hrun] at hcontext
      exact hcontext
    by_cases hself : nodeId = node.nodeId
    · refine Or.inr (Or.inl ⟨visit.twins.getD [], decision, ?_, hstatus, ?_⟩)
      · rw [hself, ← hid, hrun]
        exact List.mem_append_right _ (List.mem_singleton_self _)
      · rw [hself, ← hid]
        exact hdecides
    · exact hother nodeId hold hself hall
  | fellThrough tasks hstatus hrun =>
    have hread : Event.statusRead context.node.nodeId visit.statusRead ∈ run'.log := by
      rw [hrun]
      exact List.mem_append_right _ (List.mem_singleton_self _)
    have happroved : visit.statusRead = some "approved" := by
      have hmeet := hmeets _ hread
      rw [readsPendingOrApproved, decide_eq_true_eq] at hmeet
      exact hmeet.resolve_left hstatus
    intro nodeId hcontext hall
    have hold : nodeId ∈ contextIds run := by
      rw [hrun] at hcontext
      exact hcontext
    by_cases hself : nodeId = node.nodeId
    · rw [happroved, hid, ← hself] at hread
      exact Or.inr (Or.inr hread)
    · exact hother nodeId hold hself hall

/-- The calls are recorded at each point of a batch. -/
def gatingPhases (workflowId : UUID) : Phases where
  between run := CallsRecorded workflowId run.log
  preparing _ run := CallsRecorded workflowId run.log
  evaluating run := CallsRecorded workflowId run.log
  gating := Gating workflowId
  settling _ run := CallsRecorded workflowId run.log

/-- The calls are recorded wherever the run stands. -/
theorem callsRecorded_of_atSome (h : (gatingPhases workflowId).AtSome run) :
    CallsRecorded workflowId run.log := by
  rcases h with h | ⟨rest, h⟩ | h | ⟨all, rest, h⟩ | ⟨rest, h⟩
  · exact h
  · exact h
  · exact h
  · exact h.calls
  · exact h

theorem gatingPhases_kept (env : Environment) (workflowId : UUID)
    (agents : String → Option Agent) :
    (gatingPhases workflowId).Kept env workflowId agents (readsPendingOrApproved · = true)
      (fun stopped => CallsRecorded workflowId stopped.2.log) where
  opened := fun h => h.quietly (.record rfl rfl)
  prepared := fun h hprepared _ => h.quietly hprepared.quietly
  evaluate := fun h => h
  evaluated := fun h hevaluated _ => h.quietly hevaluated.quietly
  gate := fun gated h => ⟨h, fun _ _ hall => Or.inl hall⟩
  gated := fun h _ hid hgated hmeets => h.gated hid hgated hmeets
  paused := fun h _ _ hpaused _ => h.calls.quietly hpaused.quietly
  called := by
    intro all run h
    refine h.calls.concat ?_
    intro nodeId hcalled hgated
    exact (h.decided nodeId hcalled hgated).resolve_left List.not_mem_nil
  settled := fun h hsettled _ => h.quietly hsettled.quietly
  persist := fun f h => h
  raised := fun h hraised _ => (callsRecorded_of_atSome h).quietly hraised.2

end Calls

/-- The last state of a run, however it ends. -/
def lastRun : Except Stopped (List (String × Json) × Run) → Run
  | .ok (_, run) => run
  | .error (_, run) => run

/-- In a run that reads its own requests back as pending or approved, no gated
node is handed to the LLM without a decision on record that is not a denial. -/
theorem decisionRecorded_of_called (env : Environment) (workflowId : UUID)
    (agents : String → Option Agent) (db : Db) (dag : DAG) (log : List Event)
    (hlog : log = (lastRun (executeWorkflow env workflowId agents db dag)).log)
    (hmeets : ∀ event ∈ log, readsPendingOrApproved event = true) :
    ∀ before gated called after, log = before ++ .llmCalls gated called :: after →
      ∀ nodeId ∈ called, nodeId ∈ gated → DecisionRecorded workflowId nodeId before := by
  have hstart : CallsRecorded workflowId (startRun env workflowId db dag).log := Prefixwise.nil
  have hholds := (gatingPhases_kept env workflowId agents).executeWorkflow_holds db dag hstart
  have hcalls : CallsRecorded workflowId log := by
    cases hrun : executeWorkflow env workflowId agents db dag with
    | ok returned =>
      obtain ⟨last, hlast, hended⟩ := hholds.of_ok hrun
      have hsame : log = last.log := by
        rw [hlog, hrun]
        show returned.2.log = _
        rw [hended.eq]
      rw [hsame] at hmeets ⊢
      exact hlast hmeets
    | error stopped =>
      have hsame : log = stopped.2.log := by
        rw [hlog, hrun]
        rfl
      rw [hsame] at hmeets ⊢
      exact hholds.of_error hrun hmeets
  intro before gated called after hsplit
  exact hcalls before (.llmCalls gated called) after hsplit

/-- Some store of the run holds an approval of the node, or a request of the
gate is read back as approved. -/
def ApprovalRecorded (env : Environment) (workflowId : UUID) (nodeId : String) : Prop :=
  ∃ iteration other,
    (∃ twins decision, (env.visit iteration other).twins = some twins ∧
      FederatedApprovalStore.Decides twins workflowId.str nodeId decision ∧
      decision.status = "approved") ∨
    (env.visit iteration other).statusRead = some "approved"

end WorkflowScheduler

/-! ## An expired request -/

namespace SchedulerExample

/-- A twin of the request for the node. -/
def twin (status : String) (nodeId : Option String) : ApprovalTwin where
  request :=
    { requestId := "r1"
      workflowId := (UUID.ofNat 1).str
      action := "execute_risk-assessment"
      policyRule := "high_risk_task"
      status }
  nodeId := nodeId

/-- The request of the first node has been decided. -/
def decided (status : String) (_ : Nat) (nodeId : String) : Visit :=
  { visit nodeId with twins := some [twin status none, twin "pending" (some "t1")] }

/-- The LLM calls of a log, with the nodes that were gated. -/
def calls (log : List Event) : List (List String × List String) :=
  log.filterMap (fun event =>
    match event with
    | .llmCalls gated called => some (gated, called)
    | _ => none)

theorem mem_of_calls {log : List Event} {gated called : List String}
    (h : (gated, called) ∈ calls log) : .llmCalls gated called ∈ log := by
  obtain ⟨event, hevent, hcall⟩ := List.mem_filterMap.1 h
  cases event with
  | llmCalls gated' called' =>
    cases hcall
    exact hevent
  | _ => cases hcall

end SchedulerExample

namespace WorkflowScheduler

open SchedulerExample in
/-- An approved node is handed to the LLM. -/
theorem decisionRecorded_of_approved :
    ∃ before after,
      (lastRun (execute (decided "approved") [root "t1" "risk-assessment"])).log =
        before ++ .llmCalls ["t1"] ["t1"] :: after ∧
      DecisionRecorded (UUID.ofNat 1) "t1" before := by
  have hcalls : calls (lastRun (execute (decided "approved")
      [root "t1" "risk-assessment"])).log = [(["t1"], ["t1"])] := by decide +kernel
  have hreads : (lastRun (execute (decided "approved") [root "t1" "risk-assessment"])).log.all
      readsPendingOrApproved = true := by decide +kernel
  have hmem := mem_of_calls (hcalls ▸ List.mem_singleton_self _)
  obtain ⟨before, after, hsplit⟩ := List.append_of_mem hmem
  refine ⟨before, after, hsplit, ?_⟩
  exact decisionRecorded_of_called _ _ _ _ _ _ rfl (List.all_eq_true.1 hreads) before _ _ after
    hsplit "t1" (List.mem_singleton_self _) (List.mem_singleton_self _)

open SchedulerExample in
/-- A node whose request has expired is handed to the LLM. -/
theorem approvalRecorded_fails :
    ¬∀ (env : Environment) (workflowId : UUID) (agents : String → Option Agent) (db : Db)
      (dag : DAG) (before : List Event) (gated called : List String) (after : List Event),
      (lastRun (executeWorkflow env workflowId agents db dag)).log =
        before ++ .llmCalls gated called :: after →
      ∀ nodeId ∈ called, nodeId ∈ gated → ApprovalRecorded env workflowId nodeId := by
  intro h
  have hcalls : calls (lastRun (execute (decided "expired")
      [root "t1" "risk-assessment"])).log = [(["t1"], ["t1"])] := by decide +kernel
  have hmem := mem_of_calls (hcalls ▸ List.mem_singleton_self _)
  obtain ⟨before, after, hsplit⟩ := List.append_of_mem hmem
  obtain ⟨iteration, other, happroved | hread⟩ := h _ _ _ _ _ before _ _ after hsplit "t1"
    (List.mem_singleton_self _) (List.mem_singleton_self _)
  · obtain ⟨twins, decision, htwins, ⟨-, -, found, hfound, rfl, -⟩, hstatus⟩ := happroved
    cases htwins
    rcases List.mem_cons.1 hfound with rfl | hlast
    · exact absurd hstatus (by decide)
    · rw [List.mem_singleton.1 hlast] at hstatus
      exact absurd hstatus (by decide)
  · have hpending : some "pending" = some "approved" := hread
    exact absurd hpending (by decide)

end WorkflowScheduler

end MassClaw
