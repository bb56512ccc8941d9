import MassClaw.Scheduler.Loop

/-!
# One batch, phase by phase

A rule for the first three phases of a batch, and one for the whole batch.  The
predicates of Phase 1 and of Phase 3 get the items that are still to be
visited; what has to be shown of an item is a pre- and postcondition of the
function that visits it.
-/

namespace MassClaw

namespace WorkflowScheduler

variable (env : Environment) (workflowId : UUID) (agents : String → Option Agent)

/-- A batch up to the end of Phase 2. -/
def callPhases (iteration : Nat) (run : Run) : Except Stopped Run := do
  let run ← preparePhase env workflowId agents iteration run.dag.getReadyNodes (openBatch run)
  let (gated, run) ← gatePhase env workflowId iteration run
  executeNodes env iteration gated run

variable {env workflowId agents}

theorem executeBatch_eq (iteration : Nat) (run : Run) :
    executeBatch env workflowId agents iteration run =
      (callPhases env workflowId agents iteration run >>= fun called =>
        settlePhase env workflowId iteration called >>= persistDag env workflowId iteration) := by
  simp only [executeBatch, callPhases, bind_assoc]

variable {E : Stopped → Prop}

private theorem check_rule {run : Run} (hraise : E (.raised, run)) (raises : Bool) :
    Outcome.Holds (fun _ => True) E (run.check raises) := by
  cases raises with
  | true => exact hraise
  | false => trivial

/-- The first three phases.  The verdicts and the gate each start from what the
phase before has established. -/
theorem callPhases_holds {P : List DAGNode → Run → Prop} {Q G : Run → Prop}
    (hprepare : ∀ visit run node rest, P (node :: rest) run →
      Outcome.Holds (P rest) E (prepareNode env workflowId agents visit run node))
    (hverdicts : ∀ run, P [] run → Q run)
    (hevaluate : ∀ visit run escalated context, Q run →
      Outcome.Holds (fun state => Q state.1) E (policyEvaluateNode visit (run, escalated) context))
    (hgates : ∀ run, Q run → G run)
    (hgate : ∀ visit run node, G run → Outcome.Holds G E (gateNode env workflowId visit run node))
    (hrecord : ∀ run gated, G run → G (run.record
      (.llmCalls gated (run.contexts.map (fun context => context.node.nodeId)))))
    (hraise : ∀ run, G run → E (.raised, run)) (iteration : Nat) (run : Run)
    (h : P run.dag.getReadyNodes (openBatch run)) :
    Outcome.Holds G E (callPhases env workflowId agents iteration run) := by
  unfold callPhases
  refine (Outcome.Holds.foldlM (fun node rest run => hprepare _ run node rest) _ _ h).bind ?_
  intro run₁ hrun₁
  unfold gatePhase
  refine Outcome.Holds.bind (P := fun result : List DAGNode × Run => G result.2) ?_ ?_
  · refine Outcome.Holds.bind (P := fun state : Run × List DAGNode => Q state.1) ?_ ?_
    · unfold policyEvaluateNodes
      split
      · exact Outcome.Holds.foldlM_mem (I := fun state : Run × List DAGNode => Q state.1) _ _
          (fun context _ state hstate => hevaluate _ state.1 state.2 context hstate)
          (hverdicts run₁ hrun₁)
      · exact hverdicts run₁ hrun₁
    · rintro ⟨run₂, escalated⟩ hrun₂
      refine Outcome.Holds.bind (P := G) ?_ (fun run₃ hrun₃ => hrun₃)
      unfold approvalGate
      split
      · exact hgates run₂ hrun₂
      · refine (check_rule (hraise _ (hgates run₂ hrun₂)) _).bind (fun _ _ => ?_)
        exact Outcome.Holds.foldlM_mem _ _ (fun node _ run => hgate _ run node)
          (hgates run₂ hrun₂)
  · rintro ⟨gated, run₃⟩ hrun₃
    unfold executeNodes
    exact (check_rule (hraise _ (hrecord _ _ hrun₃)) _).bind (fun _ _ => hrecord _ _ hrun₃)

/-- A property that every node of the first three phases keeps. -/
theorem callPhases_rule {P : Run → Prop}
    (hprepare : ∀ visit run node, P run →
      Outcome.Holds P E (prepareNode env workflowId agents visit run node))
    (hevaluate : ∀ visit run escalated context, P run →
      Outcome.Holds (fun state => P state.1) E (policyEvaluateNode visit (run, escalated) context))
    (hgate : ∀ visit run node, P run → Outcome.Holds P E (gateNode env workflowId visit run node))
    (hrecord : ∀ run gated called, P run → P (run.record (.llmCalls gated called)))
    (hraise : ∀ run, P run → E (.raised, run)) (iteration : Nat) (run : Run)
    (h : P (openBatch run)) :
    Outcome.Holds P E (callPhases env workflowId agents iteration run) :=
  callPhases_holds (P := fun _ => P) (fun visit run node _ => hprepare visit run node)
    (fun _ h => h) hevaluate (fun _ h => h) hgate (fun run gated => hrecord run gated _) hraise
    iteration run h

/-- A whole batch, from what holds after the first three phases. -/
theorem executeBatch_rule {G : Run → Prop} {S : List NodeContext → Run → Prop} {Q : Run → Prop}
    {iteration : Nat} {run : Run}
    (hcalled : Outcome.Holds G E (callPhases env workflowId agents iteration run))
    (hstart : ∀ run, G run → S run.contexts run)
    (hsettle : ∀ visit context rest run, S (context :: rest) run →
      Outcome.Holds (S rest) E (settleNode env workflowId visit run context))
    (hpersist : ∀ run f, S [] run → Q { run with db := run.db.updateWorkflow workflowId f })
    (hraise : ∀ run, Q run → E (.raised, run)) :
    Outcome.Holds Q E (executeBatch env workflowId agents iteration run) := by
  rw [executeBatch_eq]
  refine hcalled.bind (fun run₁ hrun₁ => ?_)
  refine (Outcome.Holds.foldlM (fun context rest run => hsettle _ context rest run) _ _
    (hstart run₁ hrun₁)).bind (fun run₂ hrun₂ => ?_)
  unfold persistDag
  have hpersisted := hpersist run₂ (fun workflow =>
    { workflow with dagSnapshot := some run₂.dag.toDict }) hrun₂
  exact (check_rule (hraise _ hpersisted) _).bind (fun _ _ => hpersisted)

end WorkflowScheduler

end MassClaw
