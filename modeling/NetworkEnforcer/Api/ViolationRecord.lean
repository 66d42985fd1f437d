import Mathlib.Data.List.Sort
import NetworkEnforcer.Lib.Strconv
import NetworkEnforcer.Api.PolicyHelpers

/-!
# Violation records (`api/v1alpha1/violation_record.go`)

`recomputeStatus` runs merge, clear and acknowledge on the status of a policy.  The result is `none`
where the program would dereference a nil pointer: a policy of the kubernetes backend without its
`spec.kubernetes`, which the validation rules of the resource exclude.
-/

namespace NetworkEnforcer.Api

open NetworkEnforcer.Lib

def maxViolationRecords : Nat := 100

def violationAcknowledgePrefix : String := "networkenforcer.kubewarden.io/acknowledge-"

def labelMetadataName : String := "kubernetes.io/metadata.name"

structure ViolationRecordKey where
  srcNamespace : String
  srcOwnerKind : String
  srcOwnerName : String
  srcIdentity : String
  dstNamespace : String
  dstOwnerKind : String
  dstOwnerName : String
  dstIdentity : String
  protocol : String
  dstPort : Int
  action : WorkloadNetworkPolicyMode
  denyingPolicyNamespace : String
  denyingPolicyName : String
  deriving DecidableEq, Repr

def ViolationRecord.key (v : ViolationRecord) : ViolationRecordKey where
  srcNamespace := v.source.ns
  srcOwnerKind := v.source.ownerKind
  srcOwnerName := v.source.ownerName
  srcIdentity := v.source.identity
  dstNamespace := v.dest.ns
  dstOwnerKind := v.dest.ownerKind
  dstOwnerName := v.dest.ownerName
  dstIdentity := v.dest.identity
  protocol := v.protocol
  dstPort := v.dstPort
  action := v.action
  denyingPolicyNamespace := v.denyingPolicyNamespace
  denyingPolicyName := v.denyingPolicyName

/-- `slices.SortStableFunc` with the comparison `f(b).Compare(f(a))`: newest first, ties in order. -/
def newestFirst {α : Type} (f : α → Time) (l : List α) : List α :=
  l.insertionSort fun a b => f b ≤ f a

/-- Newest first, and at most `maxViolationRecords` of them. -/
def sortAndTrim {α : Type} (f : α → Time) (l : List α) : List α :=
  (newestFirst f l).take maxViolationRecords

/-! ## Merging -/

/-- The loop that fills `indexByKey`; a later record with the same key overwrites an earlier one. -/
def indexByKey (violations : List ViolationRecord) : GoMap ViolationRecordKey Nat :=
  violations.zipIdx.foldl (fun m p => m.insert p.1.key p.2) ∅

/-- "Refresh timestamp only if newer." -/
def ViolationRecord.refresh (r v : ViolationRecord) : ViolationRecord :=
  if r.timestamp < v.timestamp then { r with timestamp := v.timestamp } else r

/-- One turn of the merge loop, on the status and `indexByKey`. -/
def mergeStep (st : WorkloadNetworkPolicyStatus × GoMap ViolationRecordKey Nat)
    (v : ViolationRecord) : WorkloadNetworkPolicyStatus × GoMap ViolationRecordKey Nat :=
  let s := st.1
  match st.2.lookup v.key with
  | some idx =>
    ({ s with
        violations := s.violations.modify idx (·.refresh v)
        violationCount := wrap64 (s.violationCount + 1) }, st.2)
  | none =>
    ({ s with
        violations := s.violations ++ [{ v with id := s.violationCount }]
        violationCount := wrap64 (s.violationCount + 1) },
      st.2.insert v.key s.violations.length)

/-- The whole merge loop, before the sort. -/
def mergeLoop (s : WorkloadNetworkPolicyStatus) (scraped : List ViolationRecord) :
    WorkloadNetworkPolicyStatus :=
  (scraped.foldl mergeStep (s, indexByKey s.violations)).1

def mergeScrapedViolations (s : WorkloadNetworkPolicyStatus) (scraped : List ViolationRecord) :
    WorkloadNetworkPolicyStatus :=
  let s := mergeLoop s scraped
  { s with violations := sortAndTrim (·.timestamp) s.violations }

/-! ## Clearing -/

/-- The peer both rules name: every pod of a namespace. -/
def namespacePeer (ns : String) : NetworkPolicyPeer where
  namespaceSelector := some { matchLabels := AList.singleton labelMetadataName ns }

def ViolationRecord.toEgressRule (v : ViolationRecord) : NetworkPolicyEgressRule where
  to_ := [namespacePeer v.dest.ns]
  ports := [{ protocol := some v.protocol, port := some (.int v.dstPort) }]

def ViolationRecord.toIngressRule (v : ViolationRecord) : NetworkPolicyIngressRule where
  from_ := [namespacePeer v.source.ns]
  ports := [{ protocol := some v.protocol, port := some (.int v.dstPort) }]

/-- The test of `clearAllowedKubernetesViolations`: a rule of the template equals the flow. -/
def kubernetesAllows (lib : Apimachinery) (template : NetworkPolicySpec) (v : ViolationRecord) :
    Bool :=
  template.ingress.any (ingressRuleEqual lib v.toIngressRule) ||
    template.egress.any (egressRuleEqual lib v.toEgressRule)

def istioRuleAllowsSource (rule : IstioAuthorizationPolicyRule) (src : WorkloadRef) : Bool :=
  rule.from_.isEmpty || rule.from_.any fun f =>
    f.source.principals.isEmpty || f.source.principals.any fun p => p = "*" || p = src.identity

/-- `parseIstioPortRange`.  The separator is the first `-`; nothing after it means a single port. -/
def parseIstioPortRange (portSpec : String) : Option (Int × Int) :=
  let lo := String.ofList (portSpec.toList.takeWhile (· ≠ '-'))
  let hi := String.ofList ((portSpec.toList.dropWhile (· ≠ '-')).drop 1)
  match parseInt 32 lo with
  | none => none
  | some l =>
    if hi = "" then some (l, l)
    else
      match parseInt 32 hi with
      | none => none
      | some h => some (l, h)

def istioPortMatches (portSpec : String) (dstPort : Int) : Bool :=
  match parseIstioPortRange portSpec with
  | none => false
  | some (lo, hi) => lo ≤ dstPort && dstPort ≤ hi

def istioRuleAllowsPort (rule : IstioAuthorizationPolicyRule) (dstPort : Int) : Bool :=
  rule.to_.isEmpty || rule.to_.any fun t =>
    t.operation.ports.isEmpty || t.operation.ports.any (istioPortMatches · dstPort)

/-- The test of `clearAllowedIstioViolations`. -/
def istioAllows (spec : IstioAuthorizationPolicySpec) (v : ViolationRecord) : Bool :=
  spec.rules.any fun rule => istioRuleAllowsSource rule v.source && istioRuleAllowsPort rule v.dstPort

/-- The violations that stay: `slices.DeleteFunc`. -/
def WorkloadNetworkPolicyStatus.deleteViolations (s : WorkloadNetworkPolicyStatus)
    (del : ViolationRecord → Bool) : WorkloadNetworkPolicyStatus :=
  { s with violations := s.violations.filter fun v => !del v }

/-- `clearAllowedKubernetesViolations`.  The template is dereferenced once per violation. -/
def WorkloadNetworkPolicy.clearAllowedKubernetesViolations (lib : Apimachinery)
    (w : WorkloadNetworkPolicy) : Option WorkloadNetworkPolicy :=
  match w.spec.kubernetes with
  | some template =>
    some { w with status := w.status.deleteViolations (kubernetesAllows lib template) }
  | none => if w.status.violations = [] then some w else none

def WorkloadNetworkPolicy.clearAllowedIstioViolations (w : WorkloadNetworkPolicy) :
    WorkloadNetworkPolicy :=
  match w.spec.istio with
  | some spec => { w with status := w.status.deleteViolations (istioAllows spec) }
  | none => w

def WorkloadNetworkPolicy.clearAllowedViolations (lib : Apimachinery) (w : WorkloadNetworkPolicy) :
    Option WorkloadNetworkPolicy :=
  match w.spec.backend with
  | .kubernetes => w.clearAllowedKubernetesViolations lib
  | .istio => some w.clearAllowedIstioViolations
  | .other _ => some w

/-! ## Acknowledging -/

/-- The violation an acknowledge key names, if it is one. -/
def acknowledgedID (key : String) : Option Int :=
  match cutPrefix key violationAcknowledgePrefix with
  | some idStr => parseInt 64 idStr
  | none => none

/-- The loop that fills `acknowledges`: the last annotation of an ID wins.  An entry is
`annotationInfo`, the annotation's key and the reason it gives. -/
def acknowledges (annotations : GoMap String String) : GoMap Int (String × String) :=
  annotations.entries.foldl
    (fun m e =>
      match acknowledgedID e.1 with
      | some id => m.insert id (e.1, e.2)
      | none => m)
    ∅

/-- `acknowledgeViolationsFromAnnotations`, with the records it returns. -/
def WorkloadNetworkPolicy.acknowledgeViolationsFromAnnotations (w : WorkloadNetworkPolicy)
    (now : Time) : WorkloadNetworkPolicy × List AcknowledgedViolationRecord :=
  let acks := acknowledges w.annotations
  -- both early returns: no annotation at all, or none that acknowledges
  if acks.entries = [] then (w, [])
  else
    let moved := w.status.violations.filterMap fun v =>
      (acks.lookup v.id).map fun info => (info.1, ⟨v, info.2, now⟩)
    let ackToReturn := moved.map Prod.snd
    let status := w.status.deleteViolations fun v => (acks.lookup v.id).isSome
    let acknowledged := status.acknowledgedViolations ++ ackToReturn
    ({ w with
        annotations := moved.foldl (fun a m => a.erase m.1) w.annotations
        status := { status with
          acknowledgedViolations := sortAndTrim (·.acknowledgedAt) acknowledged } },
      ackToReturn)

/-! ## The whole update -/

def WorkloadNetworkPolicy.recomputeStatus (lib : Apimachinery) (w : WorkloadNetworkPolicy)
    (scraped : List ViolationRecord) (now : Time) :
    Option (WorkloadNetworkPolicy × List AcknowledgedViolationRecord) :=
  let merged := { w with status := mergeScrapedViolations w.status scraped }
  match merged.clearAllowedViolations lib with
  | none => none
  | some cleared =>
    let (w, acknowledged) := cleared.acknowledgeViolationsFromAnnotations now
    some ({ w with status := { w.status with
      activeViolationCount := wrap64 w.status.violations.length
      observedGeneration := w.generation } }, acknowledged)

end NetworkEnforcer.Api
