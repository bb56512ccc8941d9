import MassClaw.Crdt.Counted
import MassClaw.Crdt.Import

/-!
# Gossip rounds that overlap, `app/workers/crdt_gossip.py`

Workers of one node may run their rounds at the same time.  Each has a session
of its own, and commits it when the round has ended.  Whatever the order of
their operations, what a round has counted since its last rollback is in the
database from its commit on.
-/

namespace MassClaw

namespace GossipService

/-- A round of one worker, and the moment of each of its operations in the
history of the database. -/
structure WorkerRound where
  host : Host
  now : Time
  peer : Peer
  cached : Option MerkleSummary
  workflowId : Option UUID
  moment : Nat → Nat
  inOrder : Monotone moment

section Workers

variable (history : Nat → Db)

/-- The round at its end. -/
def WorkerRound.ended (worker : WorkerRound) : RoundIn :=
  reconcileIn worker.host worker.now (history ∘ worker.moment) worker.peer worker.cached
    worker.workflowId

/-- The change after this moment is the commit of the round. -/
structure WorkerRound.CommitsAt (worker : WorkerRound) (n : Nat) : Prop where
  afterRound : worker.moment (worker.ended history).clock ≤ n
  stores : (worker.ended history).commit? (history n) = some (history (n + 1))

/-- Every change is the commit of a round, or of a session that takes nothing
away. -/
def Overlap (workers : Set WorkerRound) : Prop :=
  ∀ n, history n ≤ history (n + 1) ∨ ∃ worker ∈ workers, worker.CommitsAt history n

variable {history} {workers : Set WorkerRound}

theorem WorkerRound.ended_ended (worker : WorkerRound) :
    Ended (history ∘ worker.moment) (worker.ended history) :=
  reconcileIn_ended worker.peer worker.cached worker.workflowId

/-- Nothing is ever taken away. -/
theorem Overlap.monotone (h : Overlap history workers) : Monotone history := by
  refine monotone_nat_of_le_succ (fun n => ?_)
  rcases h n with hle | ⟨worker, -, hcommits⟩
  · exact hle
  · exact worker.ended_ended.le_commit hcommits.stores

end Workers

/-! ## One round -/

namespace OverlapExample

open ImportExample (peer)
open CRDTStore.ContractExample (oneDigest)

/-- A round in which a fact without a signature is fetched. -/
def alone : RoundIn :=
  reconcileIn oneDigest 0 (fun _ => ImportExample.start) (peer oneDigest .null) none none

/-- The database before and after its commit. -/
def history : Nat → Db
  | 0 => ImportExample.start
  | _ + 1 => (alone.commit? ImportExample.start).getD ImportExample.start

/-- All its operations come before the commit. -/
def worker : WorkerRound where
  host := oneDigest
  now := 0
  peer := peer oneDigest .null
  cached := none
  workflowId := none
  moment := fun _ => 0
  inOrder := monotone_const

theorem alone_commits : (alone.commit? ImportExample.start).isSome = true ∧
    alone.kept.length = 1 := by decide +kernel

theorem ended_worker : worker.ended history = alone := by
  unfold WorkerRound.ended alone
  rfl

theorem commitsAt : worker.CommitsAt history 0 := by
  refine ⟨Nat.le_refl 0, ?_⟩
  obtain ⟨db, hdb⟩ := Option.isSome_iff_exists.1 alone_commits.1
  rw [ended_worker]
  unfold history
  rw [hdb]
  rfl

theorem overlap : Overlap history {worker} := by
  intro n
  cases n with
  | zero => exact Or.inr ⟨worker, rfl, commitsAt⟩
  | succ n =>
    have hsame : history (n + 1) = history (n + 1 + 1) := rfl
    exact Or.inl (le_of_eq hsame)

end OverlapExample

end GossipService

end MassClaw
