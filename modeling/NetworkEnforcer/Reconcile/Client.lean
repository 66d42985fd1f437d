import NetworkEnforcer.Api.PolicyHelpers
import NetworkEnforcer.Attribution.Attribute

/-!
# The cluster, and what the reconciler assumes of its libraries

The reconciler reads and writes a `Cluster` through the controller-runtime client.  The libraries are
parameters here, with the laws their documentation gives as fields:

* `Reader` — `Get` and `List` answer with what the cluster holds, or fail;
* `ObjectWriter` — `Delete`, `CreateOrUpdate` and `CreateOrPatch` change one object;
* `StatusWriter` — a status patch changes one policy;
* `ControllerLib` — `SetControllerReference` and `SetStatusCondition`.

Any call may fail at any time.  Nothing is assumed about a failed write except that it touched no
other object.
-/

namespace NetworkEnforcer.Reconcile

open NetworkEnforcer.Lib NetworkEnforcer.Api NetworkEnforcer.Workload

/-! ## The cluster -/

structure Cluster where
  wnps : Store WorkloadNetworkPolicy.key := .ofList []
  deployments : Store Workload.key := .ofList []
  statefulSets : Store Workload.key := .ofList []
  daemonSets : Store Workload.key := .ofList []
  replicaSets : Store ReplicaSet.key := .ofList []
  pods : Store Pod.key := .ofList []
  networkPolicies : Store NetworkPolicy.key := .ofList []
  authorizationPolicies : Store AuthorizationPolicy.key := .ofList []

/-- The cluster and the two counters of the reconciler. -/
structure World extends Cluster where
  selectorOverlaps : Nat := 0
  duplicateTargets : Nat := 0

/-! ## Reading -/

section Laws

variable {V : Type} {key : V → NamespacedName}

/-- `Get` returns the stored object, and `NotFound` only when there is none. -/
structure Gets (s : Store key) (get : NamespacedName → Except Err V) : Prop where
  ok {k : NamespacedName} {v : V} : get k = .ok v → s.lookup k = some v
  notFound {k : NamespacedName} {e : Err} : get k = .error e → e.isNotFound = true → s.lookup k = none

/-- `List` returns the stored objects that satisfy the options, in some order. -/
def Lists (s : Store key) (p : V → Bool) (res : Except Err (List V)) : Prop :=
  ∀ items, res = .ok items → items.Perm (s.values.filter p)

end Laws

/-- The reading half of the client. -/
structure Reader (cl : Cluster) where
  getWNP : NamespacedName → Except Err WorkloadNetworkPolicy
  getReplicaSet : NamespacedName → Except Err ReplicaSet
  getNetworkPolicy : NamespacedName → Except Err NetworkPolicy
  getAuthorizationPolicy : NamespacedName → Except Err AuthorizationPolicy
  /-- In a namespace, by `WNPTargetIndexField`. -/
  listWNPsByTarget (ns key : String) : Except Err (List WorkloadNetworkPolicy)
  /-- In a namespace. -/
  listDeployments (ns : String) : Except Err (List Workload)
  listStatefulSets (ns : String) : Except Err (List Workload)
  listDaemonSets (ns : String) : Except Err (List Workload)
  /-- In a namespace, by `MatchingLabelsSelector`. -/
  listPods (ns : String) (selector : Labels → Bool) : Except Err (List Pod)
  getWNP_gets : Gets cl.wnps getWNP
  getReplicaSet_gets : Gets cl.replicaSets getReplicaSet
  getNetworkPolicy_gets : Gets cl.networkPolicies getNetworkPolicy
  getAuthorizationPolicy_gets : Gets cl.authorizationPolicies getAuthorizationPolicy
  listWNPsByTarget_lists (ns key : String) :
    Lists cl.wnps (fun w => w.ns = ns && key ∈ indexWNPByTarget w) (listWNPsByTarget ns key)
  listDeployments_lists (ns : String) : Lists cl.deployments (·.ns = ns) (listDeployments ns)
  listStatefulSets_lists (ns : String) : Lists cl.statefulSets (·.ns = ns) (listStatefulSets ns)
  listDaemonSets_lists (ns : String) : Lists cl.daemonSets (·.ns = ns) (listDaemonSets ns)
  listPods_lists (ns : String) (selector : Labels → Bool) :
    Lists cl.pods (fun p => p.ns = ns && selector p.labels) (listPods ns selector)

/-- No read fails: a `Get` finds the object or says that there is none, and every `List` returns. -/
structure Reader.Answers {cl : Cluster} (r : Reader cl) : Prop where
  getReplicaSet {k : NamespacedName} {e : Err} : r.getReplicaSet k = .error e → e.isNotFound = true
  getNetworkPolicy {k : NamespacedName} {e : Err} : r.getNetworkPolicy k = .error e → e.isNotFound = true
  getAuthorizationPolicy {k : NamespacedName} {e : Err} :
    r.getAuthorizationPolicy k = .error e → e.isNotFound = true
  listWNPsByTarget (ns key : String) : ∃ items, r.listWNPsByTarget ns key = .ok items
  listDeployments (ns : String) : ∃ items, r.listDeployments ns = .ok items
  listStatefulSets (ns : String) : ∃ items, r.listStatefulSets ns = .ok items
  listDaemonSets (ns : String) : ∃ items, r.listDaemonSets ns = .ok items
  listPods (ns : String) (selector : Labels → Bool) : ∃ items, r.listPods ns selector = .ok items

/-! ## Writing -/

/-- The writing half of the client for one kind of object.  `content` is what the program sets: the
specification, labels, annotations and owner references, not what the server fills in beside them.

The laws are those of objects that the server neither completes nor holds back.  A port without a protocol
is stored with the default one, so that the specification of a NetworkPolicy is stored as it was sent if
each of its ports names a protocol; and an object to which somebody has added a finalizer is only marked
when it is deleted, and stays until the finalizer is taken away. -/
structure ObjectWriter {V C : Type} (key : V → NamespacedName) (content : V → C) where
  delete (s : Store key) (k : NamespacedName) : Option Err × Store key
  -- without finalizers
  delete_ok {s : Store key} {k : NamespacedName} :
    (delete s k).1 = none → (delete s k).2.lookup k = none
  delete_frame {s : Store key} {k k' : NamespacedName} :
    k' ≠ k → (delete s k).2.lookup k' = s.lookup k'
  /-- `CreateOrUpdate` or `CreateOrPatch`: the object as stored, or as given, is mutated and written. -/
  createOrUpdate (s : Store key) (obj : V) (mutate : V → Except Err V) : Option Err × Store key
  -- without defaults in what `content` looks at
  createOrUpdate_ok {s : Store key} {obj : V} {mutate : V → Except Err V} :
    (createOrUpdate s obj mutate).1 = none →
      ∃ new stored, mutate ((s.lookup (key obj)).getD obj) = .ok new ∧
        (createOrUpdate s obj mutate).2.lookup (key obj) = some stored ∧ content stored = content new
  createOrUpdate_frame {s : Store key} {obj : V} {mutate : V → Except Err V} {k' : NamespacedName} :
    k' ≠ key obj → (createOrUpdate s obj mutate).2.lookup k' = s.lookup k'

/-- The metadata a rendered object is compared by. -/
def metaContent (m : ObjectMeta) : Labels × GoMap String String × List OwnerReference :=
  (m.labels, m.annotations, m.ownerReferences)

def networkPolicyContent (np : NetworkPolicy) := (np.spec, metaContent np.toObjectMeta)

def authorizationPolicyContent (ap : AuthorizationPolicy) := (ap.spec, metaContent ap.toObjectMeta)

/-- `apiMeta.FindStatusCondition`. -/
def findStatusCondition (conditions : List Condition) (type : String) : Option Condition :=
  conditions.find? (·.type = type)

/-- `Status().Patch` with `MergeFromWithOptimisticLock`, from `base` to `new`.  The conditions are stored
as they are sent, but for their times, which are cut to whole seconds. -/
structure StatusWriter where
  patch (s : Store WorkloadNetworkPolicy.key) (base new : WorkloadNetworkPolicy) :
    Option Err × Store WorkloadNetworkPolicy.key
  patch_ok {s : Store WorkloadNetworkPolicy.key} {base new : WorkloadNetworkPolicy} :
    (patch s base new).1 = none →
      ∃ stored, (patch s base new).2.lookup new.key = some stored ∧
        ∀ type, (findStatusCondition stored.status.conditions type).map (·.status) =
          (findStatusCondition new.status.conditions type).map (·.status)

/-! ## Helpers of the libraries -/

structure ControllerLib where
  /-- `SetControllerReference`, on the owner references of the object. -/
  setControllerReference (owner : ObjectMeta) (refs : List OwnerReference) :
    Except Err (List OwnerReference)
  setControllerReference_ok {owner : ObjectMeta} {refs refs' : List OwnerReference} :
    setControllerReference owner refs = .ok refs' → isControlledBy refs' owner.uid = true
  /-- `SetStatusCondition`, with the answer whether anything changed. -/
  setStatusCondition (conditions : List Condition) (new : Condition) : List Condition × Bool
  setStatusCondition_find (conditions : List Condition) (new : Condition) :
    ∃ c, findStatusCondition (setStatusCondition conditions new).1 new.type = some c ∧
      c.status = new.status
  setStatusCondition_unchanged {conditions : List Condition} {new : Condition} :
    (setStatusCondition conditions new).2 = false → (setStatusCondition conditions new).1 = conditions

/-- The parts of a call that read: each one may find other reads failing. -/
inductive Phase where
  | fetch | duplicates | scope | retained | render
  deriving DecidableEq, Repr

/-- Everything a call of `Reconcile` uses. -/
structure Env (cl : Cluster) where
  lib : Apimachinery
  ctrl : ControllerLib
  reads : Phase → Reader cl
  networkPolicies : ObjectWriter NetworkPolicy.key networkPolicyContent
  authorizationPolicies : ObjectWriter AuthorizationPolicy.key authorizationPolicyContent
  status : StatusWriter

end NetworkEnforcer.Reconcile
