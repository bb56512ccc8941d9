import MassClaw.Crdt.Merkle
import MassClaw.Lib.Memo
import MassClaw.Memory.Addressing

/-!
# The cached summaries, `app/crdt/sync.py`

`summarise` looks its scope up in Redis, and after a miss or a failure it reads
the active hashes, and writes the summary to the cache; the entry ends after
`_SUMMARY_CACHE_TTL_SECONDS`, or when Redis drops it.  `invalidate_summary_cache`
exists, and no writer of the memory store calls it.  So an entry stays when the
hashes change, and `summarise` returns it.
-/

namespace MassClaw

/-- The active hashes of the scope are the same set in both databases. -/
def SyncService.sameHashes (workflowId : Option UUID) (db db' : Db) : Bool :=
  (iterHashes db workflowId).all (· ∈ iterHashes db' workflowId) &&
    (iterHashes db' workflowId).all (· ∈ iterHashes db workflowId)

namespace SummaryCache

variable (host : Host)

/-- The memory store with its writers, and the summary of each scope.  A lookup
that finds an entry is `summarise` with a cached summary, which it returns; a
computation is `summarise` without one. -/
def system : Memo.System Db (Option UUID) MerkleSummary StoreOp where
  run := StoreOp.run host
  view workflowId db := SyncService.summarise host db none workflowId
  alike := SyncService.sameHashes
  view_eq := by
    intro workflowId db db' hsame
    rw [SyncService.summarise_none, SyncService.summarise_none]
    refine summariseHashes_congr (fun hash => ?_)
    simp only [SyncService.sameHashes, Bool.and_eq_true, List.all_eq_true,
      decide_eq_true_eq] at hsame
    exact ⟨hsame.1 hash, hsame.2 hash⟩

/-- A node with its summary cache. -/
abbrev Node := Memo.State Db (Option UUID) MerkleSummary

/-- A writer of the store, or a part of a call of `summarise`. -/
abbrev Event := Memo.Step (Option UUID) StoreOp

/-- The node after the events, from an empty cache. -/
abbrev afterEvents (start : Db) (events : List Event) : Node :=
  Transition.after (system host).step (Memo.State.start start) events

/-- Each event with the node that it meets. -/
abbrev eventSteps (start : Db) (events : List Event) : List (Node × Event) :=
  Transition.steps (system host).step (Memo.State.start start) events

/-- Every summary that was returned is that of the hashes which were active at
that moment. -/
def ReturnsCurrent (node : Node) : Prop :=
  ∀ workflowId summary db, (workflowId, summary, db) ∈ node.returned →
    summary = summariseHashes host (SyncService.iterHashes db workflowId)

/-- As long as `summarise` finds no summary that a writer has outdated, by a
change of the active hashes of its scope since the summary was computed, every
summary it returns is the current one. -/
theorem returnsCurrent_of_readsFresh (start : Db) (events : List Event)
    (hfresh : ∀ step ∈ eventSteps host start events, Memo.ReadsFresh step) :
    ReturnsCurrent host (afterEvents host start events) := by
  intro workflowId summary db hreturned
  have hview := Memo.System.returned_eq_view hfresh (workflowId, summary, db) hreturned
  rw [← SyncService.summarise_none]
  exact hview

/-! ## A write between two calls -/

namespace Example

open CRDTStore.ContractExample

/-- The node writes a signed fact. -/
def writes : Event := .write (.put 0 write (some pair) none none)

/-- A summary is computed, cached, and found again. -/
def quiet : List Event := [.compute none, .fill 0, .read none]

/-- The fact is written before the summary is found again. -/
def outdated : List Event := [.compute none, .fill 0, writes, .read none]

end Example

open CRDTStore.ContractExample Example in
/-- Without a write in between, the cached summary is the current one. -/
theorem returnsCurrent_quiet :
    (afterEvents oneDigest start quiet).returned.length = 2 ∧
      ReturnsCurrent oneDigest (afterEvents oneDigest start quiet) := by
  refine ⟨rfl, returnsCurrent_of_readsFresh oneDigest start quiet (fun step hstep => ?_)⟩
  rcases List.mem_cons.1 hstep with rfl | hstep
  · trivial
  · rcases List.mem_cons.1 hstep with rfl | hstep
    · trivial
    · rw [List.mem_singleton.1 hstep]
      intro entry hentry
      cases hentry
      rfl

open CRDTStore.ContractExample Example in
/-- The write leaves the cached summary, and the next call returns it: a
summary of no record, while one is active. -/
theorem returnsCurrent_fails :
    ¬∀ (host : Host) (start : Db) (events : List Event),
      ReturnsCurrent host (afterEvents host start events) := by
  intro h
  have hcurrent := h oneDigest start outdated
  have hreturned : ((afterEvents oneDigest start outdated).returned.map (·.2.1.recordCount),
      (afterEvents oneDigest start outdated).returned.map (fun answer =>
        (summariseHashes oneDigest
          (SyncService.iterHashes answer.2.2 answer.1)).recordCount)) = ([0, 0], [0, 1]) := by
    decide +kernel
  have hsame : (afterEvents oneDigest start outdated).returned.map (·.2.1.recordCount) =
      (afterEvents oneDigest start outdated).returned.map (fun answer =>
        (summariseHashes oneDigest
          (SyncService.iterHashes answer.2.2 answer.1)).recordCount) :=
    List.map_congr_left (fun answer hanswer => by
      rw [hcurrent answer.1 answer.2.1 answer.2.2 hanswer])
  rw [Prod.mk.injEq] at hreturned
  rw [hreturned.1, hreturned.2] at hsame
  cases hsame

end SummaryCache

end MassClaw
