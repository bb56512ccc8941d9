import MassClaw.Crdt.Store
import MassClaw.Safety.Federated
import MassClaw.Scheduler.Checkpoint

/-!
# Checkpoints in the memory table, `CheckpointStore`

A checkpoint is a META record with a marker in its metadata, as an approval
twin is.  `load_by_hash` looks a record up by its content hash and decodes the
payload; the marker and the type are all that it asks of the record.
-/

namespace MassClaw

/-- `is_checkpoint_record`. -/
def isCheckpointRecord (record : MemoryRecord) : Bool :=
  record.hasMarker "checkpoint" && record.memoryType = .metaType

/-- What `load_by_hash` raises. -/
inductive CheckpointLoadError
  | missingPayload
  | payload (error : CheckpointDecodeError)

namespace CheckpointStore

variable (host : Host) (now : Time)

/-- `_metadata_for`. -/
def metadataFor (checkpoint : WorkflowCheckpoint) : List (String × Json) :=
  [ ("checkpoint", .bool true)
  , ("checkpoint_workflow_id", .str checkpoint.workflowId.str)
  , ("checkpoint_reason", .str checkpoint.reason)
  , ("checkpoint_payload", .dict (checkpoint.toPayload host)) ]

/-- `_decode_record`. -/
def decodeRecord (record : MemoryRecord) : Except CheckpointLoadError WorkflowCheckpoint :=
  match Json.lookup record.metadata "checkpoint_payload" with
  | .dict payload =>
    match WorkflowCheckpoint.fromPayload host now payload with
    | .ok checkpoint => .ok { checkpoint with contentHash := record.contentHash }
    | .error error => .error (.payload error)
  | _ => .error .missingPayload

/-- `load_by_hash`. -/
def loadByHash (db : Db) (contentHash : String) :
    Except CheckpointLoadError (Option WorkflowCheckpoint) :=
  match db.fetchByHash (some contentHash) with
  | none => .ok none
  | some record =>
    if isCheckpointRecord record then (decodeRecord host now record).map some else .ok none

variable {host now} {db : Db} {contentHash : String} {checkpoint : WorkflowCheckpoint}

/-- A loaded checkpoint is the decoded form of the record with the hash. -/
theorem loadByHash_eq_some (h : loadByHash host now db contentHash = .ok (some checkpoint)) :
    ∃ record ∈ db.memoryRecords.rows, record.contentHash = some contentHash ∧
      isCheckpointRecord record = true ∧ decodeRecord host now record = .ok checkpoint := by
  unfold loadByHash at h
  split at h
  · cases h
  · rename_i record hfound
    split at h
    · rename_i hcheckpoint
      refine ⟨record, List.mem_of_find?_eq_some hfound, ?_, hcheckpoint, ?_⟩
      · simpa using List.find?_some hfound
      · cases hdecoded : decodeRecord host now record with
        | error error =>
          rw [hdecoded] at h
          cases h
        | ok decoded =>
          rw [hdecoded] at h
          cases h
          rfl
    · cases h

/-- A record with the metadata of a checkpoint decodes to the checkpoint, up to
a creation time that the host cannot read. -/
theorem decodeRecord_metadataFor {record : MemoryRecord} {snapshot : List (String × Json)}
    (hmetadata : record.metadata = metadataFor host checkpoint)
    (hsnapshot : checkpoint.dagSnapshot = .dict snapshot) (hversion : checkpoint.version ≠ 0) :
    decodeRecord host now record = .ok
      { checkpoint with
        createdAt := (host.fromIsoformat? (host.isoformat checkpoint.createdAt)).getD now
        contentHash := record.contentHash } := by
  have hpayload : Json.lookup (metadataFor host checkpoint) "checkpoint_payload" =
      .dict (checkpoint.toPayload host) := rfl
  unfold decodeRecord
  rw [hmetadata, hpayload]
  dsimp only
  rw [WorkflowCheckpoint.fromPayload_toPayload host now checkpoint hsnapshot hversion]

/-- The checkpoint names the hash that it was loaded by. -/
theorem contentHash_of_loadByHash
    (h : loadByHash host now db contentHash = .ok (some checkpoint)) :
    checkpoint.contentHash = some contentHash := by
  obtain ⟨record, -, hhash, -, hdecoded⟩ := loadByHash_eq_some h
  unfold decodeRecord at hdecoded
  split at hdecoded
  · split at hdecoded
    · cases hdecoded
      exact hhash
    · cases hdecoded
  · cases hdecoded

end CheckpointStore

end MassClaw
