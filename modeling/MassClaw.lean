import MassClaw.Core.Basic
import MassClaw.Core.Json
import MassClaw.Core.Money
import MassClaw.Lib.Outcome
import MassClaw.Lib.Worklist
import MassClaw.Lib.Prefixwise
import MassClaw.Lib.Kahn
import MassClaw.Lib.Transition
import MassClaw.Dag.Basic
import MassClaw.Dag.Lookup
import MassClaw.Dag.Cascade
import MassClaw.Dag.Acyclic
import MassClaw.Lib.Escrow
import MassClaw.Lib.Table
import MassClaw.Core.Models
import MassClaw.Wallet.Service
import MassClaw.Wallet.Ledger
import MassClaw.Wallet.Operations
import MassClaw.Wallet.History
import MassClaw.Wallet.Interleaving
import MassClaw.Wallet.Bound
import MassClaw.Lib.Assoc
import MassClaw.Identity.Did
import MassClaw.Identity.Multibase
import MassClaw.Identity.Canonicalize
import MassClaw.Lib.Buckets
import MassClaw.Crdt.Hashing
import MassClaw.Crdt.Store
import MassClaw.Crdt.Write
import MassClaw.Crdt.Contract
import MassClaw.Crdt.Sync
import MassClaw.Crdt.Merkle
import MassClaw.Crdt.PeerClient
import MassClaw.Crdt.Gossip
import MassClaw.Crdt.Import
import MassClaw.Crdt.Serving
import MassClaw.Crdt.RoundTrip
import MassClaw.Crdt.Delivery
import MassClaw.Crdt.Reconcile
import MassClaw.Memory.Service
import MassClaw.Crdt.WireForm
import MassClaw.Crdt.Union
import MassClaw.Lib.Spreading
import MassClaw.Crdt.Network
import MassClaw.Dag.Snapshot
import MassClaw.Scheduler.Checkpoint
import MassClaw.Safety.Approval
import MassClaw.Scheduler.State
import MassClaw.Scheduler.Prepare
import MassClaw.Scheduler.Gate
import MassClaw.Scheduler.Settle
import MassClaw.Scheduler.Loop
import MassClaw.Scheduler.Batch
import MassClaw.Scheduler.Runs
import MassClaw.Dag.Progress
import MassClaw.Dag.Operations
import MassClaw.Scheduler.Progress
import MassClaw.Scheduler.Completion
import MassClaw.Scheduler.Resume
import MassClaw.Scheduler.Reservations
import MassClaw.Scheduler.Charges
import MassClaw.Dag.Completed
import MassClaw.Scheduler.Results
import MassClaw.Scheduler.Approvals
import MassClaw.Tools.Registry
import MassClaw.Scheduler.ToolLoop
import MassClaw.Scheduler.Abort
import MassClaw.Lib.Selection
import MassClaw.Safety.Federated
import MassClaw.Safety.Convergence
import MassClaw.Memory.Lifecycle
import MassClaw.Memory.History
import MassClaw.Memory.Tombstones
import MassClaw.Memory.Addressing
import MassClaw.Memory.Readmission
import MassClaw.Memory.Grace
import MassClaw.Memory.Propagation
import MassClaw.Lib.Memo
import MassClaw.Memory.SummaryCache
import MassClaw.Memory.QueryCache
import MassClaw.Scheduler.CheckpointStore
import MassClaw.Safety.Provenance
import MassClaw.Lib.Interleave
import MassClaw.Safety.Manager
import MassClaw.Safety.LateDecisions
import MassClaw.Safety.Races
import MassClaw.Safety.PendingSet
import MassClaw.Safety.Janitor
import MassClaw.Workflows.Restore
import MassClaw.Workflows.Resume
import MassClaw.Scheduler.Retries
import MassClaw.Scheduler.Termination
import MassClaw.Scheduler.Rounds
import MassClaw.Scheduler.SemanticCache
import MassClaw.Scheduler.Feedback
import MassClaw.Dag.TopologicalSort
import MassClaw.Lib.LongestPath
import MassClaw.Dag.CriticalPath
import MassClaw.Dag.Revalidation
import MassClaw.Scheduler.CheckpointRoundTrip
import MassClaw.Scheduler.Selector
import MassClaw.Scheduler.Alternatives
import MassClaw.Workflows.TaskRows
import MassClaw.Agents.HealthCheck
import MassClaw.Safety.Decision
import MassClaw.Safety.Registry
import MassClaw.Lib.SlidingWindow
import MassClaw.Lib.Keyed
import MassClaw.Safety.RateLimits
import MassClaw.Api.WebSocket
import MassClaw.Identity.AgentFacts
import MassClaw.Identity.Resolver
import MassClaw.Wallet.Balance
import MassClaw.Lib.IpNetwork
import MassClaw.Core.Url
import MassClaw.Tools.ApiCaller
import MassClaw.Core.Operators
import MassClaw.Safety.Conditions
import MassClaw.Safety.PolicyRules
import MassClaw.Safety.RuleCache
import MassClaw.Core.CircuitBreaker
import MassClaw.Lib.Delimited
import MassClaw.Identity.CanonicalForm
import MassClaw.Crdt.BodyIdentity
import MassClaw.Crdt.Divergence
import MassClaw.Scheduler.ToolCosts
import MassClaw.Dag.Engaged
import MassClaw.Scheduler.EmptyAnswers
import MassClaw.Scheduler.CacheHits
import MassClaw.Lib.FileTree
import MassClaw.Tools.FileIo
import MassClaw.Memory.FactResolver
import MassClaw.Memory.Versions
import MassClaw.Safety.PendingView
import MassClaw.Safety.NodeDecision
import MassClaw.Safety.RuleEvaluation
import MassClaw.Safety.Redaction
import MassClaw.Safety.Audit
import MassClaw.Agents.Trust
import MassClaw.Scheduler.SelectionBudget
import MassClaw.Agents.Evolution
import MassClaw.Lib.Codec
import MassClaw.Identity.DidKey
import MassClaw.Identity.DidWeb
import MassClaw.Crdt.PeerAuth
import MassClaw.Dag.Descendants
import MassClaw.Scheduler.Descents
import MassClaw.Lib.UnitOfWork
import MassClaw.Core.Session
import MassClaw.Crdt.LostRaces
import MassClaw.Crdt.Rounds
import MassClaw.Crdt.Counted
import MassClaw.Crdt.Overlap
import MassClaw.Crdt.Quiet
import MassClaw.Safety.Spread
import MassClaw.Scheduler.CheckpointTravel
import MassClaw.Wallet.LostRaces
import MassClaw.Lib.AtomicReplace
import MassClaw.Identity.KeyStore
import MassClaw.Lib.TableHistory
import MassClaw.Memory.Aging
import MassClaw.Wallet.ExactlyOnce
import MassClaw.Identity.Dump
import MassClaw.Identity.Signing
import MassClaw.Identity.Publication
import MassClaw.Lib.Retry
import MassClaw.Workflows.Decomposer
import MassClaw.Workflows.Pipeline
import MassClaw.Lib.PubSub
import MassClaw.Protocols.MessageBus
import MassClaw.Protocols.Replies
