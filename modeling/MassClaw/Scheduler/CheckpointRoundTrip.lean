import MassClaw.Dag.Operations
import MassClaw.Dag.Revalidation
import MassClaw.Scheduler.Checkpoint

/-!
# The checkpoint of a DAG that was changed

A checkpoint holds the DAG as it stands, after changes of status and after nodes
were added to it.  Its payload is read back as it was written, and its snapshot
gives the DAG back, although the constructor runs on nodes that it has never
seen together.
-/

namespace MassClaw

namespace WorkflowCheckpoint

/-- `restore_dag`. -/
def restoreDag (cp : WorkflowCheckpoint) : Except CheckpointDecodeError DAG :=
  match DAG.fromDict cp.dagSnapshot with
  | .ok dag => .ok dag
  | .error error => .error (.snapshot error)

/-- The snapshot gives back a DAG that the constructor gives back. -/
theorem restoreDag_fromDag {now : Time} {workflowId : UUID} {dag : DAG} {reason : String}
    {currentTaskId : Option String} {vars : List (String × Json)}
    {reflection : Option (List (String × Json))} (h : dag.Rebuildable) :
    (fromDag now workflowId dag reason currentTaskId vars reflection).restoreDag = .ok dag := by
  have hsnapshot : DAG.fromDict dag.toDict = .ok dag := by
    rw [DAG.fromDict_toDict, h.new_of_rebuildable]
    rfl
  unfold restoreDag
  show (match DAG.fromDict dag.toDict with
    | .ok dag => Except.ok dag
    | .error error => .error (CheckpointDecodeError.snapshot error)) = .ok dag
  rw [hsnapshot]

section RoundTrip

variable (host : Host) (now created : Time) (workflowId : UUID) (reason : String)
  (currentTaskId : Option String) (vars : List (String × Json))
  (reflection : Option (List (String × Json))) (contentHash : Option String)

/-- The payload of a checkpoint decodes to the checkpoint, up to the content hash,
and the snapshot of a DAG that was accepted and changed is that DAG. -/
theorem checkpoint_roundTrip (hclock : host.fromIsoformat? (host.isoformat created) = some created) :
    (∀ dag : DAG, fromPayload host now
        (({ fromDag created workflowId dag reason currentTaskId vars reflection with
            contentHash := contentHash } : WorkflowCheckpoint).toPayload host) =
      .ok (fromDag created workflowId dag reason currentTaskId vars reflection)) ∧
    ∀ dag : DAG, Transition.Reachable DAG.Accepted DAG.Change dag →
      (fromDag created workflowId dag reason currentTaskId vars reflection).restoreDag =
        .ok dag := by
  constructor
  · intro dag
    rw [fromPayload_toPayload host now _ rfl (show (1 : Int) ≠ 0 by decide)]
    show Except.ok ({ fromDag created workflowId dag reason currentTaskId vars reflection with
      createdAt := (host.fromIsoformat? (host.isoformat created)).getD now
      contentHash := none } : WorkflowCheckpoint) = _
    rw [hclock]
    rfl
  · intro dag hdag
    exact restoreDag_fromDag (DAG.rebuildable_of_reachable hdag)

end RoundTrip

namespace RoundTripExample

/-- A host that knows the beginning of the epoch. -/
def epochHost : Host where
  sha256 _ := []
  sign _ _ := []
  verify _ _ _ := false
  repr _ := ""
  parseFloat? _ := none
  parseInt? _ := none
  isoformat _ := "1970-01-01T00:00:00+00:00"
  fromIsoformat? text := if text = "1970-01-01T00:00:00+00:00" then some 0 else none

open DAG.OperationsExample in
/-- The chain with its first node failed and an alternative added to it. -/
def changed : DAG :=
  let failed := start.markFailed "a" (some "timeout")
  (failed.addNode (node "alternative" ["b"])).getD failed

open DAG.OperationsExample in
theorem reachable_changed : Transition.Reachable DAG.Accepted DAG.Change changed := by
  have haccepted : start.Accepted := ⟨chain, by decide +kernel, by decide +kernel⟩
  have hadd : (start.markFailed "a" (some "timeout")).addNode (node "alternative" ["b"]) =
      some changed := by
    decide +kernel
  refine ((Transition.Reachable.start haccepted).next
    (.failed start "a" (some "timeout"))).next (.added ?_ hadd)
  decide +kernel

end RoundTripExample

open WorkflowCheckpoint.RoundTripExample in
theorem checkpoint_roundTrip_changed :
    (∀ dag : DAG, fromPayload epochHost 5
        (({ fromDag 0 (UUID.ofNat 1) dag "paused" (some "a") [("prompt", .str "")] none with
            contentHash := some "z" } : WorkflowCheckpoint).toPayload epochHost) =
      .ok (fromDag 0 (UUID.ofNat 1) dag "paused" (some "a") [("prompt", .str "")] none)) ∧
    (fromDag 0 (UUID.ofNat 1) changed "paused" (some "a") [("prompt", .str "")] none).restoreDag =
      .ok changed := by
  have hroundTrip := checkpoint_roundTrip epochHost 5 0 (UUID.ofNat 1) "paused" (some "a")
    [("prompt", .str "")] none (some "z") rfl
  exact ⟨hroundTrip.1, hroundTrip.2 changed reachable_changed⟩

end WorkflowCheckpoint

end MassClaw
