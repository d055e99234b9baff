import ClusterNode.Bench.Probe
import ClusterNode.Bench.ScriptedStore
import ClusterNode.Bench.Trial
import ClusterNode.Counter.Basic
import ClusterNode.Gossip.State
import ClusterNode.Main
import ClusterNode.Proofs.Node.Frame
import ClusterNode.Proofs.Node.Run
import ClusterNode.Proofs.Node.History
import ClusterNode.Proofs.Node.Correlation
import ClusterNode.Proofs.Node.Duty
import ClusterNode.Proofs.Node.Ledger
import ClusterNode.Proofs.Node.Answers
import ClusterNode.Proofs.Workload.Answers
import ClusterNode.Proofs.Json.Number
import ClusterNode.Proofs.Json.RoundTrip
import ClusterNode.Proofs.Message.RoundTrip
import ClusterNode.Proofs.Message.Stream
import ClusterNode.Proofs.Gossip.Cluster
import ClusterNode.Proofs.Gossip.Convergence
import ClusterNode.Proofs.Counter.Exactness
import ClusterNode.Proofs.Counter.LockFree
import ClusterNode.Proofs.Store.Remote
import ClusterNode.Proofs.Gossip.Telling
import ClusterNode.Proofs.Counter.Sampling
import ClusterNode.Proofs.Node.Verdict
import ClusterNode.Proofs.Node.Turn
import ClusterNode.Proofs.Node.Books
import ClusterNode.Proofs.Node.Balance
import ClusterNode.Proofs.Node.Identity
import ClusterNode.Proofs.Node.Decisions
import ClusterNode.Proofs.Node.Notices
import ClusterNode.Proofs.Workload.Identity
import ClusterNode.Proofs.Counter.Totals
import ClusterNode.Proofs.Gossip.Sessions
import ClusterNode.Proofs.Workload.Failures
import ClusterNode.Proofs.Workload.Fleet
import ClusterNode.Proofs.Counter.Attempts
import ClusterNode.Proofs.Gossip.Value
import ClusterNode.Proofs.Gossip.Log
import ClusterNode.Proofs.Pending.Log
import ClusterNode.Proofs.Message.Typed
import ClusterNode.Proofs.Counter.Backoff
import ClusterNode.Proofs.Message.Header
import ClusterNode.Proofs.Counter.Relaying
import ClusterNode.Proofs.Gossip.Rest
