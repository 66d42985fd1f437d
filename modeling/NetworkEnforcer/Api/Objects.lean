import NetworkEnforcer.Lib.GoMap

/-!
# The API objects

The Kubernetes types the controller reads (`metav1`, `networkingv1`, the Istio security API) and the
types of `api/v1alpha1`, with the fields that some function of the program uses.

Closed string enumerations are inductive types.  A workload kind stays a string: the kind of a pod's
owner can be any word.  Slices are lists, `nil` and the empty slice being the same list; pointers to
optional data are `Option`s.
-/

namespace NetworkEnforcer.Api

open NetworkEnforcer.Lib

/-! ## Metadata -/

/-- `metav1.Time`, as nanoseconds since the zero time. -/
abbrev Time : Type := Int

/-- A set of labels. -/
abbrev Labels : Type := GoMap String String

structure NamespacedName where
  ns : String := ""
  name : String := ""
  deriving DecidableEq, Repr

/-- `NamespacedName.String`. -/
def NamespacedName.text (k : NamespacedName) : String := k.ns ++ "/" ++ k.name

structure OwnerReference where
  apiVersion : String
  kind : String
  name : String
  uid : String
  controller : Option Bool := none
  deriving DecidableEq, Repr

/-- The part of `metav1.ObjectMeta` the program reads. -/
structure ObjectMeta where
  ns : String := ""
  name : String := ""
  uid : String := ""
  resourceVersion : Nat := 0
  generation : Int := 0
  creationTimestamp : Time := 0
  labels : Labels := ∅
  annotations : GoMap String String := ∅
  ownerReferences : List OwnerReference := []
  /-- `none` until the object is marked for deletion. -/
  deletionTimestamp : Option Time := none
  generateName : String := ""
  deriving DecidableEq

/-- `client.ObjectKeyFromObject`. -/
def ObjectMeta.namespacedName (m : ObjectMeta) : NamespacedName := ⟨m.ns, m.name⟩

/-- `metav1.GetControllerOf`: the owner reference marked as the controller. -/
def getControllerOf (refs : List OwnerReference) : Option OwnerReference :=
  refs.find? fun r => r.controller = some true

/-- `metav1.IsControlledBy`: the controller reference carries the owner's UID. -/
def isControlledBy (refs : List OwnerReference) (uid : String) : Bool :=
  match getControllerOf refs with
  | some r => r.uid = uid
  | none => false

structure LabelSelectorRequirement where
  key : String
  operator : String
  values : List String
  deriving DecidableEq, Repr

structure LabelSelector where
  matchLabels : Labels := ∅
  matchExpressions : List LabelSelectorRequirement := []
  deriving DecidableEq

/-- `metav1.ConditionStatus`; `unset` is the status of the zero condition. -/
inductive ConditionStatus where
  | unset | conditionTrue | conditionFalse | conditionUnknown
  deriving DecidableEq, Repr

structure Condition where
  type : String := ""
  status : ConditionStatus := .unset
  observedGeneration : Int := 0
  lastTransitionTime : Time := 0
  reason : String := ""
  message : String := ""
  deriving DecidableEq, Repr

/-! ## Network policies -/

/-- `networkingv1.PolicyType`; `unset` is the empty string. -/
inductive PolicyType where
  | ingress | egress | unset
  deriving DecidableEq, Repr

/-- The string a policy type stands for. -/
def PolicyType.text : PolicyType → String
  | .ingress => "Ingress"
  | .egress => "Egress"
  | .unset => ""

inductive IntOrString where
  | int (n : Int)
  | str (s : String)
  deriving DecidableEq, Repr

structure IPBlock where
  cidr : String
  except : List String := []
  deriving DecidableEq, Repr

structure NetworkPolicyPeer where
  podSelector : Option LabelSelector := none
  namespaceSelector : Option LabelSelector := none
  ipBlock : Option IPBlock := none
  deriving DecidableEq

structure NetworkPolicyPort where
  protocol : Option String := none
  port : Option IntOrString := none
  endPort : Option Int := none
  deriving DecidableEq, Repr

structure NetworkPolicyIngressRule where
  from_ : List NetworkPolicyPeer := []
  ports : List NetworkPolicyPort := []
  deriving DecidableEq

structure NetworkPolicyEgressRule where
  to_ : List NetworkPolicyPeer := []
  ports : List NetworkPolicyPort := []
  deriving DecidableEq

structure NetworkPolicySpec where
  podSelector : LabelSelector := {}
  ingress : List NetworkPolicyIngressRule := []
  egress : List NetworkPolicyEgressRule := []
  policyTypes : List PolicyType := []
  deriving DecidableEq

structure NetworkPolicy extends ObjectMeta where
  spec : NetworkPolicySpec := {}
  deriving DecidableEq

def NetworkPolicy.key (np : NetworkPolicy) : NamespacedName := np.namespacedName

/-! ## The Istio backend -/

structure IstioSource where
  principals : List String := []
  deriving DecidableEq, Repr

structure IstioFrom where
  source : IstioSource := {}
  deriving DecidableEq, Repr

structure IstioOperation where
  ports : List String := []
  deriving DecidableEq, Repr

structure IstioTo where
  operation : IstioOperation := {}
  deriving DecidableEq, Repr

structure IstioAuthorizationPolicyRule where
  from_ : List IstioFrom := []
  to_ : List IstioTo := []
  deriving DecidableEq, Repr

structure IstioAuthorizationPolicySpec where
  selector : LabelSelector := {}
  rules : List IstioAuthorizationPolicyRule := []
  deriving DecidableEq

/-! ## The Istio security API -/

structure Source where
  principals : List String := []
  deriving DecidableEq, Repr

/-- `Rule_From`. -/
structure RuleFrom where
  source : Source
  deriving DecidableEq, Repr

structure Operation where
  ports : List String := []
  deriving DecidableEq, Repr

/-- `Rule_To`. -/
structure RuleTo where
  operation : Operation
  deriving DecidableEq, Repr

/-- `Rule` of an authorization policy. -/
structure AuthorizationRule where
  from_ : List RuleFrom := []
  to_ : List RuleTo := []
  deriving DecidableEq, Repr

/-- `AuthorizationPolicy_Action`; the zero value is `ALLOW`. -/
inductive AuthorizationAction where
  | allow | deny | audit | custom
  deriving DecidableEq, Repr

structure WorkloadSelector where
  matchLabels : Labels := ∅
  deriving DecidableEq

structure AuthorizationPolicySpec where
  selector : Option WorkloadSelector := none
  action : AuthorizationAction := .allow
  rules : List AuthorizationRule := []
  deriving DecidableEq

structure AuthorizationPolicy extends ObjectMeta where
  spec : AuthorizationPolicySpec := {}
  deriving DecidableEq

def AuthorizationPolicy.key (ap : AuthorizationPolicy) : NamespacedName := ap.namespacedName

/-! ## Workloads -/

/-- A `Deployment`, `StatefulSet` or `DaemonSet`, with the labels of its pod template and its pod selector. -/
structure Workload extends ObjectMeta where
  templateLabels : Labels := ∅
  /-- `Spec.Selector`. -/
  selector : Option LabelSelector := none
  deriving DecidableEq

/-- A `ReplicaSet`. -/
structure ReplicaSet extends ObjectMeta
  deriving DecidableEq

/-- A `Pod`. -/
structure Pod extends ObjectMeta where
  serviceAccountName : String := ""
  podIP : String := ""
  deriving DecidableEq

def Workload.key (w : Workload) : NamespacedName := w.namespacedName
def ReplicaSet.key (rs : ReplicaSet) : NamespacedName := rs.namespacedName
def Pod.key (p : Pod) : NamespacedName := p.namespacedName

/-! ## Workload network policies -/

/-- `PolicyBackend`; `other` holds any unsupported value. -/
inductive PolicyBackend where
  | kubernetes | istio
  | other (name : String)
  deriving DecidableEq, Repr

inductive WorkloadNetworkPolicyMode where
  | monitor | protect
  deriving DecidableEq, Repr

abbrev WorkloadKind : Type := String

def workloadKindDeployment : WorkloadKind := "Deployment"
def workloadKindStatefulSet : WorkloadKind := "StatefulSet"
def workloadKindDaemonSet : WorkloadKind := "DaemonSet"
def workloadKindReplicaSet : WorkloadKind := "ReplicaSet"
def workloadKindPod : WorkloadKind := "Pod"

structure WorkloadRef where
  ns : String := ""
  ownerKind : WorkloadKind := ""
  ownerName : String := ""
  identity : String := ""
  selector : LabelSelector := {}
  deriving DecidableEq

def WorkloadRef.isSupported (r : WorkloadRef) : Bool :=
  r.ownerKind = workloadKindDeployment || r.ownerKind = workloadKindStatefulSet ||
    r.ownerKind = workloadKindDaemonSet

/-- `spiffeIdentity`, in the default trust domain. -/
def spiffeIdentity (ns serviceAccount : String) : String :=
  "cluster.local/ns/" ++ ns ++ "/sa/" ++ if serviceAccount = "" then "default" else serviceAccount

def WorkloadRef.setIdentity (r : WorkloadRef) (serviceAccountName : String) : WorkloadRef :=
  { r with identity := spiffeIdentity r.ns serviceAccountName }

structure WorkloadTargetRef where
  kind : WorkloadKind
  name : String
  deriving DecidableEq, Repr

structure PolicyBackendSpec where
  backend : PolicyBackend
  kubernetes : Option NetworkPolicySpec := none
  istio : Option IstioAuthorizationPolicySpec := none
  deriving DecidableEq

structure WorkloadTargetingSpec where
  targetRef : WorkloadTargetRef
  direction : PolicyType
  deriving DecidableEq, Repr

structure WorkloadNetworkPolicySpec extends PolicyBackendSpec, WorkloadTargetingSpec where
  mode : WorkloadNetworkPolicyMode := .monitor
  deriving DecidableEq

/-- `WorkloadNetworkPolicyProposalSpec`: what promotion copies into a policy. -/
structure WorkloadNetworkPolicyProposalSpec extends PolicyBackendSpec, WorkloadTargetingSpec
  deriving DecidableEq

structure WorkloadNetworkPolicyProposal extends ObjectMeta where
  spec : WorkloadNetworkPolicyProposalSpec
  deriving DecidableEq

structure ViolationInfo where
  timestamp : Time := 0
  source : WorkloadRef := {}
  dest : WorkloadRef := {}
  protocol : String := ""
  dstPort : Int := 0
  action : WorkloadNetworkPolicyMode := .monitor
  denyingPolicyNamespace : String := ""
  denyingPolicyName : String := ""
  deriving DecidableEq

structure ViolationRecord extends ViolationInfo where
  id : Int := 0
  deriving DecidableEq

structure AcknowledgedViolationRecord where
  violation : ViolationRecord
  reason : String
  acknowledgedAt : Time
  deriving DecidableEq

/-- `WorkloadNetworkPolicyStatus`; the default is the zero status. -/
structure WorkloadNetworkPolicyStatus where
  conditions : List Condition := []
  observedGeneration : Int := 0
  violationCount : Int := 0
  activeViolationCount : Int := 0
  violations : List ViolationRecord := []
  acknowledgedViolations : List AcknowledgedViolationRecord := []
  deriving DecidableEq

structure WorkloadNetworkPolicy extends ObjectMeta where
  spec : WorkloadNetworkPolicySpec
  status : WorkloadNetworkPolicyStatus := {}
  deriving DecidableEq

/-- `NamespacedName`. -/
def WorkloadNetworkPolicy.key (w : WorkloadNetworkPolicy) : NamespacedName := ⟨w.ns, w.name⟩

structure Observation extends ViolationInfo where
  provider : PolicyBackend
  direction : PolicyType
  deriving DecidableEq

/-- `types.LearningEvent`; a nil endpoint is `none`. -/
structure LearningEvent where
  source : Option WorkloadRef
  dest : Option WorkloadRef
  dstPort : Int
  protocol : String
  backend : PolicyBackend
  deriving DecidableEq

end NetworkEnforcer.Api
