import MassClaw.Crdt.Store

/-!
# Merkle summaries, `app/crdt/merkle.py` and `app/crdt/sync.py`

A node's active content hashes fall into 256 buckets by the first byte of the
hash.  The summary has one digest for each bucket and a root over them; two
nodes compare roots, then digests, then the hashes of the buckets that differ.
-/

namespace MassClaw

/-- `BUCKET_COUNT`. -/
def bucketCount : Nat := 256

/-- `bucket_for_hash`; `none` is the `ValueError` of a malformed hash. -/
def bucketForHash? (contentHash : String) : Option Nat :=
  (decodeMultibase? contentHash).bind (fun decoded => decoded.head?.map UInt8.toNat)

/-- `MerkleSummary`. -/
structure MerkleSummary where
  root : String
  buckets : List (Option String)
  recordCount : Int

/-- `self.buckets[i] != other.buckets[i]`; a peer's bucket can be any value. -/
def bucketDiffers : Option String → Json → Bool
  | none, .null => false
  | some digest, .str other => digest != other
  | _, _ => true

/-- `diverges_from`, against the buckets of a peer; `none` is the `IndexError`
of a summary with too few buckets. -/
def MerkleSummary.divergesFrom (summary : MerkleSummary) (other : List Json) :
    Option (List Nat) :=
  if summary.buckets.length < bucketCount ∨ other.length < bucketCount then none
  else some ((List.range bucketCount).filter (fun i =>
    bucketDiffers (summary.buckets.getD i none) (other.getD i .null)))

/-- `digest.hexdigest()`. -/
def hexdigest (digest : Bytes) : String :=
  String.ofList (digest.flatMap (fun byte => UUID.hexDigits 2 byte.toNat))

/-- The sorted, distinct hashes of one bucket. -/
def bucketOf (hashes : List String) (index : Nat) : List String :=
  ((hashes.filter (fun hash => bucketForHash? hash = some index)).dedup).insertionSort (· ≤ ·)

section Summary

variable (host : Host)

/-- The digest of one bucket. -/
def bucketDigest (bucket : List String) : Option String :=
  if bucket.isEmpty then none
  else some (hexdigest (host.sha256 ("\n".intercalate bucket).toUTF8.toList))

/-- `summarise_hashes`. -/
def summariseHashes (hashes : List String) : MerkleSummary :=
  let digests := (List.range bucketCount).map (fun i => bucketDigest host (bucketOf hashes i))
  { root := hexdigest (host.sha256 (digests.flatMap (fun digest =>
      (digest.getD "").toUTF8.toList)))
    buckets := digests
    recordCount := ((List.range bucketCount).map (fun i => (bucketOf hashes i).length)).sum }

/-- A summary has a digest for every bucket. -/
theorem length_buckets (hashes : List String) :
    (summariseHashes host hashes).buckets.length = bucketCount := by
  show ((List.range bucketCount).map _).length = bucketCount
  rw [List.length_map, List.length_range]

theorem getElem?_buckets (hashes : List String) {index : Nat} (h : index < bucketCount) :
    (summariseHashes host hashes).buckets[index]? =
      some (bucketDigest host (bucketOf hashes index)) := by
  show ((List.range bucketCount).map (fun i => bucketDigest host (bucketOf hashes i)))[index]? = _
  rw [List.getElem?_map, List.getElem?_range h, Option.map_some]

end Summary

namespace SyncService

/-- `_iter_hashes`: the hashes of the active records, of one workflow or of all. -/
def iterHashes (db : Db) (workflowId : Option UUID) : List String :=
  (db.memoryRecords.rows.filter (fun record =>
    record.recordState = .active ∧ workflowId.all (fun id => record.workflowId = some id))).filterMap
      (fun record => record.contentHash.filter (· ≠ ""))

/-- `summarise`: the cached summary when there is one. -/
def summarise (host : Host) (db : Db) (cached : Option MerkleSummary)
    (workflowId : Option UUID) : MerkleSummary :=
  cached.getD (summariseHashes host (iterHashes db workflowId))

theorem summarise_none (host : Host) (db : Db) (workflowId : Option UUID) :
    summarise host db none workflowId = summariseHashes host (iterHashes db workflowId) := rfl

/-- `bucket_hashes`. -/
def bucketHashes (db : Db) (index : Nat) (workflowId : Option UUID) : List String :=
  bucketOf (iterHashes db workflowId) index

end SyncService

end MassClaw
