import MassClaw.Crdt.Union

/-!
# What two summaries tell

Two summaries of well-formed content hashes have one root exactly if they are
summaries of one set, and they diverge exactly in the buckets that hold
different hashes.  The root is a digest over the digests of the buckets that
are not empty, without their positions; a hash has its bucket in its own text,
so no position is lost.

This needs SHA-256 not to collide on what the two summaries hash.
-/

namespace MassClaw

/-- A hash that `bucket_for_hash` accepts. -/
def IsContentHash (hash : String) : Prop := (bucketForHash? hash).isSome

/-- What the sorted hashes of a bucket are, as a set. -/
theorem bucketOf_eq_iff {xs ys : List String} {index : Nat} :
    bucketOf xs index = bucketOf ys index ↔
      ∀ hash, hash ∈ bucketOf xs index ↔ hash ∈ bucketOf ys index := by
  constructor
  · intro h hash
    rw [h]
  · intro h
    refine bucketOf_congr (fun hash hbucket => ?_)
    have hmem := h hash
    rw [mem_bucketOf, mem_bucketOf] at hmem
    simpa [hbucket] using hmem

section Summaries

variable {host : Host} {xs ys : List String}

/-- Summaries have one root exactly if they are summaries of one set. -/
theorem root_eq_iff (hlength : ∀ data, (host.sha256 data).length = 32)
    (hxs : ∀ hash ∈ xs, IsContentHash hash) (hys : ∀ hash ∈ ys, IsContentHash hash)
    (hfree : CollisionFree host (summaryInputs host xs ++ summaryInputs host ys)) :
    (summariseHashes host xs).root = (summariseHashes host ys).root ↔
      ∀ hash, hash ∈ xs ↔ hash ∈ ys := by
  constructor
  · intro h hash
    have hswapped : CollisionFree host (summaryInputs host ys ++ summaryInputs host xs) :=
      hfree.mono (fun data hdata => List.mem_append.2 (List.mem_append.1 hdata).symm)
    constructor
    · intro hmem
      obtain ⟨index, hbucket⟩ := Option.isSome_iff_exists.1 (hxs hash hmem)
      exact root_inj hlength hfree h hmem hbucket
    · intro hmem
      obtain ⟨index, hbucket⟩ := Option.isSome_iff_exists.1 (hys hash hmem)
      exact root_inj hlength hswapped h.symm hmem hbucket
  · intro h
    rw [summariseHashes_congr h]

/-- Digests differ exactly if the buckets do. -/
theorem bucketDigest_ne_iff
    (hfree : CollisionFree host (summaryInputs host xs ++ summaryInputs host ys)) {index : Nat}
    (hindex : index < bucketCount) :
    bucketDigest host (bucketOf xs index) ≠ bucketDigest host (bucketOf ys index) ↔
      bucketOf xs index ≠ bucketOf ys index := by
  refine not_congr ⟨fun h => bucketDigest_inj hfree hindex h, fun h => ?_⟩
  rw [h]

end Summaries

/-- For nodes whose hashes are those of the two lists, in any order and with
any repetitions, the roots tell whether the lists have the same hashes, and
`diverges_from` lists the buckets in which the nodes hold different ones. -/
theorem summaries_tell (host : Host) (hlength : ∀ data, (host.sha256 data).length = 32)
    (xs ys : List String) (hxs : ∀ hash ∈ xs, IsContentHash hash)
    (hys : ∀ hash ∈ ys, IsContentHash hash)
    (hfree : CollisionFree host (summaryInputs host xs ++ summaryInputs host ys)) :
    ((summariseHashes host xs).root = (summariseHashes host ys).root ↔
      ∀ hash, hash ∈ xs ↔ hash ∈ ys) ∧
    ∃ listed, (summariseHashes host xs).divergesFrom
        ((summariseHashes host ys).buckets.map jsonOption) = some listed ∧
      listed.Pairwise (· < ·) ∧
      ∀ (here there : Db) (workflowId otherId : Option UUID),
        (∀ hash, hash ∈ SyncService.iterHashes here workflowId ↔ hash ∈ xs) →
        (∀ hash, hash ∈ SyncService.iterHashes there otherId ↔ hash ∈ ys) →
        ∀ i, i ∈ listed ↔ i < bucketCount ∧
          ¬∀ hash, hash ∈ SyncService.bucketHashes here i workflowId ↔
            hash ∈ SyncService.bucketHashes there i otherId := by
  refine ⟨root_eq_iff hlength hxs hys hfree, _, GossipService.divergesFrom_eq host xs ys,
    List.pairwise_lt_range.filter _, ?_⟩
  intro here there workflowId otherId hhere hthere i
  rw [List.mem_filter, List.mem_range, decide_eq_true_eq]
  refine and_congr_right (fun hi => ?_)
  have hleft : SyncService.bucketHashes here i workflowId = bucketOf xs i :=
    bucketOf_congr (fun hash _ => hhere hash)
  have hright : SyncService.bucketHashes there i otherId = bucketOf ys i :=
    bucketOf_congr (fun hash _ => hthere hash)
  rw [bucketDigest_ne_iff hfree hi, hleft, hright, ← bucketOf_eq_iff]

open GossipService.UnionExample in
/-- A repeated hash and one that the other list lacks. -/
theorem summaries_tell_missing :
    (summariseHashes tails ["zz", "z1", "zz"]).root ≠ (summariseHashes tails ["zz"]).root := by
  have hfilled : filledBuckets ["zz", "z1", "zz"] = [["z1"], ["zz"]] := by decide +kernel
  have hfilled' : filledBuckets ["zz"] = [["zz"]] := by decide +kernel
  have hfree : CollisionFree tails
      (summaryInputs tails ["zz", "z1", "zz"] ++ summaryInputs tails ["zz"]) := by
    unfold summaryInputs
    rw [rootBody_eq, rootBody_eq, hfilled, hfilled']
    unfold CollisionFree
    decide +kernel
  have hxs : ∀ hash ∈ ["zz", "z1", "zz"], IsContentHash hash := by
    unfold IsContentHash
    decide +kernel
  have hys : ∀ hash ∈ ["zz"], IsContentHash hash := by
    unfold IsContentHash
    decide +kernel
  intro h
  have hsame := (summaries_tell tails length_tails _ _ hxs hys hfree).1.1 h "z1"
  exact absurd (hsame.1 (by decide)) (by decide)

end MassClaw
