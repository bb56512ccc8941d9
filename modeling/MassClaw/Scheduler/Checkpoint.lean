import MassClaw.Dag.Snapshot
import MassClaw.Identity.Canonicalize

/-!
# Workflow checkpoints, `app/orchestration/checkpoint.py`

A checkpoint is the stored DAG with the node ids sorted into buckets by status.
It is saved as a JSON payload in a memory record, and resuming a workflow reads
the payload back and rebuilds the DAG from its snapshot.
-/

namespace MassClaw

/-- `WorkflowCheckpoint`. -/
structure WorkflowCheckpoint where
  workflowId : UUID
  reason : String
  dagSnapshot : Json
  currentTaskId : Option String := none
  completedTaskIds : List String := []
  pendingTaskIds : List String := []
  failedTaskIds : List String := []
  vars : List (String × Json) := []
  reflection : Option (List (String × Json)) := none
  version : Int := 1
  createdAt : Time
  contentHash : Option String := none

/-- `CheckpointDecodeError`. -/
inductive CheckpointDecodeError
  | workflowId
  | field (key : String)
  | snapshot (error : SnapshotError)

namespace WorkflowCheckpoint

/-- The ids of the nodes whose status is in a bucket; an empty id is left out. -/
def bucket (dag : DAG) (p : TaskStatus → Bool) : List String :=
  (dag.nodes.filter (fun node => node.nodeId ≠ "" ∧ p node.status)).map DAGNode.nodeId

/-- `from_dag`. -/
def fromDag (now : Time) (workflowId : UUID) (dag : DAG) (reason : String)
    (currentTaskId : Option String) (vars : List (String × Json))
    (reflection : Option (List (String × Json))) : WorkflowCheckpoint where
  workflowId := workflowId
  reason := reason
  dagSnapshot := dag.toDict
  currentTaskId := currentTaskId
  completedTaskIds := bucket dag (· = .completed)
  pendingTaskIds := bucket dag (fun status => status ≠ .completed ∧ status ≠ .failed)
  failedTaskIds := bucket dag (· = .failed)
  vars := vars
  reflection := reflection
  createdAt := now

variable (host : Host)

/-- `to_payload`. -/
def toPayload (cp : WorkflowCheckpoint) : List (String × Json) :=
  [ ("version", .int cp.version)
  , ("workflow_id", .str cp.workflowId.str)
  , ("reason", .str cp.reason)
  , ("current_task_id", (cp.currentTaskId.map .str).getD .null)
  , ("completed_task_ids", .list (cp.completedTaskIds.map .str))
  , ("pending_task_ids", .list (cp.pendingTaskIds.map .str))
  , ("failed_task_ids", .list (cp.failedTaskIds.map .str))
  , ("variables", .dict cp.vars)
  , ("reflection", (cp.reflection.map .dict).getD .null)
  , ("dag_snapshot", cp.dagSnapshot)
  , ("created_at", .str (host.isoformat cp.createdAt)) ]

section Fields

variable (payload : List (String × Json)) (key : String)

/-- `tuple(payload.get(key) or ())`, of texts. -/
def textTuple : Except CheckpointDecodeError (List String) :=
  match (Json.lookup payload key).or (.list []) with
  | .list items =>
    match items.mapM Json.asString? with
    | some texts => .ok texts
    | none => .error (.field key)
  | _ => .error (.field key)

/-- `dict(payload.get(key) or {})`. -/
def objectOf : Except CheckpointDecodeError (List (String × Json)) :=
  match (Json.lookup payload key).or (.dict []) with
  | .dict entries => .ok entries
  | _ => .error (.field key)

end Fields

/-- `from_payload`; a creation time that cannot be read becomes the present. -/
def fromPayload (now : Time) (payload : List (String × Json)) :
    Except CheckpointDecodeError WorkflowCheckpoint := do
  let workflowId ← match payload.find? (fun entry => entry.1 == "workflow_id") with
    | none => throw .workflowId
    | some (_, value) =>
      match UUID.parse? (value.pyStr host.repr) with
      | none => throw .workflowId
      | some workflowId => pure workflowId
  let createdAt := (host.fromIsoformat?
    ((Json.getD payload "created_at" (.str "")).pyStr host.repr)).getD now
  let dagSnapshot ← objectOf payload "dag_snapshot"
  let currentTaskId ← match Json.lookup payload "current_task_id" with
    | .null => pure none
    | .str s => pure (some s)
    | _ => throw (.field "current_task_id")
  let completedTaskIds ← textTuple payload "completed_task_ids"
  let pendingTaskIds ← textTuple payload "pending_task_ids"
  let failedTaskIds ← textTuple payload "failed_task_ids"
  let vars ← objectOf payload "variables"
  let version ← match (Json.lookup payload "version").or (.int 1) with
    | .int version => pure version
    | _ => throw (.field "version")
  return {
    workflowId
    reason := (Json.getD payload "reason" (.str "")).pyStr host.repr
    dagSnapshot := .dict dagSnapshot
    currentTaskId
    completedTaskIds
    pendingTaskIds
    failedTaskIds
    vars
    reflection := match Json.lookup payload "reflection" with
      | .dict entries => some entries
      | _ => none
    version
    createdAt }

/-- The DAG a resumed run starts from: the saved payload is decoded, its
snapshot goes to the workflow row, and the run rebuilds the DAG from there. -/
def resumedDag (now : Time) (cp : WorkflowCheckpoint) : Except CheckpointDecodeError DAG := do
  let restored ← fromPayload host now (cp.toPayload host)
  match DAG.fromDict restored.dagSnapshot with
  | .ok dag => return dag
  | .error error => throw (.snapshot error)

/-! ## Round trip -/

private theorem textTuple_toPayload {payload : List (String × Json)} {key : String}
    {texts : List String} (h : Json.lookup payload key = .list (texts.map .str)) :
    textTuple payload key = .ok texts := by
  have hread : ∀ texts : List String,
      (texts.map Json.str).mapM Json.asString? = some texts := by
    intro texts
    induction texts with
    | nil => rfl
    | cons text rest ih =>
      rw [List.map_cons, List.mapM_cons, ih]
      rfl
  unfold textTuple
  rw [h]
  cases texts with
  | nil => rfl
  | cons text rest =>
    show (match ((text :: rest).map Json.str).mapM Json.asString? with
      | some texts => Except.ok texts
      | none => .error (CheckpointDecodeError.field key)) = .ok (text :: rest)
    rw [hread]

private theorem objectOf_toPayload {payload : List (String × Json)} {key : String}
    {entries : List (String × Json)} (h : Json.lookup payload key = .dict entries) :
    objectOf payload key = .ok entries := by
  unfold objectOf
  rw [h]
  cases entries with
  | nil => rfl
  | cons entry rest => rfl

/-- A payload with a version is read back as it was written, up to a creation
time that the host cannot read. -/
theorem fromPayload_toPayload (now : Time) (cp : WorkflowCheckpoint)
    {snapshot : List (String × Json)} (hsnapshot : cp.dagSnapshot = .dict snapshot)
    (hversion : cp.version ≠ 0) :
    fromPayload host now (cp.toPayload host) = .ok
      { cp with
        createdAt := (host.fromIsoformat? (host.isoformat cp.createdAt)).getD now
        contentHash := none } := by
  have hcurrent : Json.lookup (cp.toPayload host) "current_task_id" =
      (cp.currentTaskId.map .str).getD .null := rfl
  have hreflection : Json.lookup (cp.toPayload host) "reflection" =
      (cp.reflection.map .dict).getD .null := rfl
  have hsnapshot' : objectOf (cp.toPayload host) "dag_snapshot" = .ok snapshot :=
    objectOf_toPayload hsnapshot
  have hvars : objectOf (cp.toPayload host) "variables" = .ok cp.vars :=
    objectOf_toPayload rfl
  have hcompleted : textTuple (cp.toPayload host) "completed_task_ids" = .ok cp.completedTaskIds :=
    textTuple_toPayload rfl
  have hpending : textTuple (cp.toPayload host) "pending_task_ids" = .ok cp.pendingTaskIds :=
    textTuple_toPayload rfl
  have hfailed : textTuple (cp.toPayload host) "failed_task_ids" = .ok cp.failedTaskIds :=
    textTuple_toPayload rfl
  have hworkflow : (cp.toPayload host).find? (fun entry => entry.1 == "workflow_id") =
      some ("workflow_id", .str cp.workflowId.str) := rfl
  have hreason : Json.getD (cp.toPayload host) "reason" (.str "") = .str cp.reason := rfl
  have hcreated : Json.getD (cp.toPayload host) "created_at" (.str "") =
      .str (host.isoformat cp.createdAt) := rfl
  have hnumber : (Json.lookup (cp.toPayload host) "version").or (.int 1) = .int cp.version := by
    show Json.or (.int cp.version) (.int 1) = .int cp.version
    simp [Json.or, Json.truthy, hversion]
  unfold fromPayload
  simp only [hworkflow, Json.pyStr, UUID.parse?_str, hsnapshot', hcurrent, hcompleted, hpending,
    hfailed, hvars, hnumber, hreason, hcreated, hreflection, bind, Except.bind, pure,
    Except.pure]
  cases cp with
  | mk workflowId reason dagSnapshot currentTaskId completed pending failed vars reflection
      version createdAt contentHash =>
    subst hsnapshot
    cases currentTaskId <;> cases reflection <;> rfl

/-- The DAG of a resumed run is the constructor's on the nodes at the time of
the checkpoint. -/
theorem resumedDag_fromDag (now created : Time) (workflowId : UUID) (dag : DAG) (reason : String)
    (currentTaskId : Option String) (vars : List (String × Json))
    (reflection : Option (List (String × Json))) {rebuilt : DAG}
    (h : resumedDag host now
      (fromDag created workflowId dag reason currentTaskId vars reflection) = .ok rebuilt) :
    DAG.new dag.nodes = .ok rebuilt := by
  unfold resumedDag at h
  rw [fromPayload_toPayload host now _ rfl (show (1 : Int) ≠ 0 by decide)] at h
  obtain ⟨restored, hrestored, h⟩ := Outcome.bind_eq_ok h
  cases hrestored
  have hsnapshot : DAG.fromDict dag.toDict =
      (DAG.new dag.nodes).mapError SnapshotError.validation := DAG.fromDict_toDict dag
  cases hnew : DAG.new dag.nodes with
  | error error =>
    rw [hnew] at hsnapshot
    simp only [fromDag, hsnapshot, Except.mapError] at h
    cases h
  | ok built =>
    rw [hnew] at hsnapshot
    simp only [fromDag, hsnapshot, Except.mapError, pure, Except.pure] at h
    cases h
    rfl

end WorkflowCheckpoint

end MassClaw
