import NetworkEnforcer.Lib.GoMap
import NetworkEnforcer.Lib.Strconv
import NetworkEnforcer.Lib.Bytes
import NetworkEnforcer.Lib.LuaPattern
import NetworkEnforcer.Lib.KeyedList
import NetworkEnforcer.Lib.StableSort
import NetworkEnforcer.Lib.Recency
import NetworkEnforcer.Lib.CoarseRecency
import NetworkEnforcer.Lib.Constraint
import NetworkEnforcer.Lib.Groups
import NetworkEnforcer.Lib.Matching
import NetworkEnforcer.Lib.Store
import NetworkEnforcer.Lib.Event
import NetworkEnforcer.Api.Objects
import NetworkEnforcer.Api.Errors
import NetworkEnforcer.Api.PolicyHelpers
import NetworkEnforcer.Api.ViolationRecord
import NetworkEnforcer.Semantics.NetworkPolicy
import NetworkEnforcer.Semantics.AuthorizationPolicy
import NetworkEnforcer.Status.Merge
import NetworkEnforcer.Status.Recompute
import NetworkEnforcer.Status.Invariant
import NetworkEnforcer.Status.Union
import NetworkEnforcer.Status.Rounds
import NetworkEnforcer.Status.Clearing
import NetworkEnforcer.Status.Acknowledge
import NetworkEnforcer.Status.IstioClearing
import NetworkEnforcer.Status.KubernetesClearing
import NetworkEnforcer.Workload.TargetIndex
import NetworkEnforcer.Workload.Extract
import NetworkEnforcer.Attribution.Attribute
import NetworkEnforcer.Attribution.Soundness
import NetworkEnforcer.Reconcile.Client
import NetworkEnforcer.Reconcile.SelectorScope
import NetworkEnforcer.Reconcile.Controller
import NetworkEnforcer.Reconcile.Election
import NetworkEnforcer.Reconcile.Scope
import NetworkEnforcer.Reconcile.Outcome
import NetworkEnforcer.Reconcile.Direct
import NetworkEnforcer.Reconcile.Safety
import NetworkEnforcer.Reconcile.Ready
import NetworkEnforcer.Reconcile.Duplicates
import NetworkEnforcer.Reconcile.Watches
import NetworkEnforcer.Reconcile.Freshness
import NetworkEnforcer.Reconcile.OwnerAgreement
import NetworkEnforcer.Reconcile.Locality
import NetworkEnforcer.Reconcile.Queue
import NetworkEnforcer.Reconcile.Quiescence
import NetworkEnforcer.Reconcile.Writes
import NetworkEnforcer.Admission.Webhook
import NetworkEnforcer.Lib.Program
import NetworkEnforcer.Lib.MergePatch
import NetworkEnforcer.Ringbuf.Buffer
import NetworkEnforcer.Ringbuf.Refinement
import NetworkEnforcer.Sync.Patch
import NetworkEnforcer.Sync.ThreeWay
import NetworkEnforcer.Sync.Program
import NetworkEnforcer.Sync.Invariant
import NetworkEnforcer.Sync.Cycle
import NetworkEnforcer.Sync.Guarantees
import NetworkEnforcer.Sync.Annotations
import NetworkEnforcer.Sync.TwoWriters
import NetworkEnforcer.Sync.Correlation
import NetworkEnforcer.Sync.Provenance
import NetworkEnforcer.Learning.Proposal
import NetworkEnforcer.Learning.Kubernetes
import NetworkEnforcer.Learning.Istio
import NetworkEnforcer.Learning.Reconciler
import NetworkEnforcer.Learning.ProposalNames
import NetworkEnforcer.Learning.Promotion
import NetworkEnforcer.Learning.Ownership
import NetworkEnforcer.Learning.Admitted
import NetworkEnforcer.Learning.KubernetesFlows
import NetworkEnforcer.Learning.IstioFlows
import NetworkEnforcer.Learner.Rules
import NetworkEnforcer.Learner.Program
import NetworkEnforcer.Learner.Accounting
import NetworkEnforcer.Learner.Delivery
import NetworkEnforcer.Learner.Provenance
import NetworkEnforcer.Learner.Refinement
import NetworkEnforcer.Learner.Composition
import NetworkEnforcer.Enforcement.Kubernetes
import NetworkEnforcer.Enforcement.Istio
import NetworkEnforcer.Ztunnel.Parser
import NetworkEnforcer.Ztunnel.LuaFilter
import NetworkEnforcer.Scraper.Flow
import NetworkEnforcer.Scraper.Cilium
import NetworkEnforcer.Scraper.Calico
import NetworkEnforcer.Scraper.CalicoNames
import NetworkEnforcer.Scraper.Outcomes
import NetworkEnforcer.Istio.Enrich
import NetworkEnforcer.Scraper.Istio
import NetworkEnforcer.Scraper.Ztunnel
import NetworkEnforcer.Scraper.Reconnect
import NetworkEnforcer.Scraper.Stream
import NetworkEnforcer.Tailer.Persister
import NetworkEnforcer.Enforcement.Violations
import NetworkEnforcer.Enforcement.IstioLogs
