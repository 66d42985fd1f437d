import NetworkEnforcer.Lib.Store
import NetworkEnforcer.Workload.TargetIndex

/-!
# Attributing violations (`internal/controller/workloadnetworkpolicystatus_sync.go`)

The part of a sync cycle that decides which policy an observation belongs to.  It reads two views of
the cluster that need not agree: the `Snapshot` listed at the start of the cycle, together with what is
derived from it (`buildOwnershipIndex`, `duplicateTargets`), and the client's `IndexedCache`.

`attributeViolation` also says whether the disagreement counter was incremented.
-/

namespace NetworkEnforcer.Attribution

open NetworkEnforcer.Lib NetworkEnforcer.Api NetworkEnforcer.Workload

/-- The reasons of `network_enforcer_violations_unattributed_total`. -/
inductive UnattributedReason where
  | unknownSubject | noTargetPolicy | duplicateTargetPolicy | lookupFailed
  deriving DecidableEq, Repr

def UnattributedReason.text : UnattributedReason → String
  | .unknownSubject => "unknown_subject"
  | .noTargetPolicy => "no_target_policy"
  | .duplicateTargetPolicy => "duplicate_target_policy"
  | .lookupFailed => "lookup_failed"

/-! ## The two views -/

/-- `wnpByKey`: the policies listed at the start of a cycle, each under its own key. -/
abbrev Snapshot : Type := Store WorkloadNetworkPolicy.key

/-- The loop that fills `wnpByKey`. -/
def wnpByKey (items : List WorkloadNetworkPolicy) : Snapshot := Store.ofList items

/-- The client of the sync: the indexed cache of policies, and `Get` on authorization policies,
`none` for any error. -/
structure IndexedCache extends TargetReader where
  getAuthorizationPolicy (key : NamespacedName) : Option AuthorizationPolicy

/-! ## The ownership index -/

/-- `GroupVersion` of the API. -/
def groupVersion : String := "networkenforcer.kubewarden.io/v1alpha1"

def workloadNetworkPolicyKind : String := "WorkloadNetworkPolicy"

def findWNPOwnerRef (refs : List OwnerReference) (ns : String) (snap : Snapshot) : Option NamespacedName :=
  refs.findSome? fun ref =>
    if ref.controller = some true && ref.apiVersion = groupVersion &&
        ref.kind = workloadNetworkPolicyKind && (snap.lookup ⟨ns, ref.name⟩).isSome
    then some ⟨ns, ref.name⟩
    else none

/-- `buildOwnershipIndex` on the listed network policies; `none` is the nil pointer of a policy
without a known owner. -/
def buildOwnershipIndex (nps : List NetworkPolicy) (snap : Snapshot) :
    GoMap NamespacedName (Option NamespacedName) :=
  nps.foldl (fun m np => m.insert np.namespacedName (findWNPOwnerRef np.ownerReferences np.ns snap)) ∅

/-! ## Targets -/

/-- A `(namespace, targetRef, direction)` tuple. -/
structure WnpTarget where
  ns : String
  target : String
  deriving DecidableEq, Repr

def wnpTargetKey (wnp : WorkloadNetworkPolicy) : Option WnpTarget :=
  let ref := wnp.spec.targetRef
  if ref.kind = "" || ref.name = "" || wnp.spec.direction = .unset then none
  else some ⟨wnp.ns, wnpTargetIndexKey ref.kind ref.name wnp.spec.direction⟩

/-- The tuples targeted by more than one policy of the snapshot. -/
def duplicateTargets (snap : Snapshot) : List WnpTarget :=
  let counts := GoMap.tally (snap.values.filterMap wnpTargetKey)
  (counts.entries.filter fun e => 1 < e.2).map Sigma.fst

/-- The source for egress, the destination for ingress; `none` when the direction is unknown or the
subject is not a supported workload. -/
def violationSubject (obs : Observation) : Option WorkloadRef :=
  let subject :=
    match obs.direction with
    | .egress => some obs.source
    | .ingress => some obs.dest
    | .unset => none
  subject.filter fun s => !(s.ns = "" || s.ownerName = "" || !s.isSupported)

/-- The workload a reference names. -/
def targetRefOf (subject : WorkloadRef) : WorkloadTargetRef := ⟨subject.ownerKind, subject.ownerName⟩

/-! ## The reported policy -/

def reportedOwningWNP (c : IndexedCache) (obs : Observation)
    (ownedIndex : GoMap NamespacedName (Option NamespacedName)) (snap : Snapshot) :
    Option WorkloadNetworkPolicy :=
  if obs.denyingPolicyName = "" then none
  else
    let reported : NamespacedName := ⟨obs.denyingPolicyNamespace, obs.denyingPolicyName⟩
    if obs.provider = .istio then
      -- the authorization policy has the name of its policy, which must control it
      match snap.lookup reported, c.getAuthorizationPolicy reported with
      | some wnp, some ap => if isControlledBy ap.ownerReferences wnp.uid then some wnp else none
      | _, _ => none
    else
      match ownedIndex.lookup reported with
      | some none => none
      | some (some owner) => snap.lookup owner
      | none => snap.lookup reported

/-- `targetDuplicated`: the cache holds more than one policy for the subject. -/
def targetDuplicated (c : IndexedCache) (subject : WorkloadRef) (direction : PolicyType) :
    Except LookupError Bool :=
  match lookupWNPByTarget c.toTargetReader subject.ns subject.ownerKind subject.ownerName direction with
  | .error (.duplicateTarget ..) => .ok true
  | .error (.targetNotFound ..) => .ok false
  | .error (.listing ns err) => .error (.listing ns err)
  | .ok _ => .ok false

/-- `attributeReportedPolicy`.  The first component is `none` when attribution falls back to the
lookup, the second tells whether `recordDisagreement` was called. -/
def attributeReportedPolicy (c : IndexedCache) (obs : Observation) (reportedWNP : WorkloadNetworkPolicy)
    (subject : WorkloadRef) : Option (Except UnattributedReason NamespacedName) × Bool :=
  let targetsSubject := reportedWNP.ns = subject.ns &&
    reportedWNP.spec.targetRef.kind = subject.ownerKind && reportedWNP.spec.targetRef.name = subject.ownerName
  if !targetsSubject then (none, true)
  else if reportedWNP.spec.direction ≠ obs.direction then (none, false)
  else
    match targetDuplicated c subject obs.direction with
    | .error _ => (some (.error .lookupFailed), false)
    | .ok true => (some (.error .duplicateTargetPolicy), false)
    | .ok false => (some (.ok reportedWNP.key), false)

/-! ## The chain -/

/-- The last step of `attributeViolation`: the policy whose target matches the subject. -/
def attributeByTarget (c : IndexedCache) (snap : Snapshot) (subject : WorkloadRef)
    (direction : PolicyType) : Except UnattributedReason NamespacedName :=
  match lookupWNPByTarget c.toTargetReader subject.ns subject.ownerKind subject.ownerName direction with
  | .error (.targetNotFound ..) => .error .noTargetPolicy
  | .error (.duplicateTarget ..) => .error .duplicateTargetPolicy
  | .error (.listing ..) => .error .lookupFailed
  | .ok wnp =>
    -- the cache may already hold a policy that is not in the snapshot
    if (snap.lookup wnp.key).isSome then .ok wnp.key
    else .error .noTargetPolicy

/-- `attributeViolation`.  Without a subject the reported policy is looked up and not used. -/
def attributeViolation (c : IndexedCache) (obs : Observation)
    (ownedIndex : GoMap NamespacedName (Option NamespacedName)) (snap : Snapshot)
    (duplicates : List WnpTarget) : Except UnattributedReason NamespacedName × Bool :=
  match violationSubject obs with
  | none => (.error .unknownSubject, false)
  | some subject =>
    if ⟨subject.ns, wnpTargetIndexKey subject.ownerKind subject.ownerName obs.direction⟩ ∈ duplicates then
      (.error .duplicateTargetPolicy, false)
    else
      match reportedOwningWNP c obs ownedIndex snap with
      | none => (attributeByTarget c snap subject obs.direction, false)
      | some reportedWNP =>
        match attributeReportedPolicy c obs reportedWNP subject with
        | (some outcome, disagreement) => (outcome, disagreement)
        | (none, disagreement) => (attributeByTarget c snap subject obs.direction, disagreement)

end NetworkEnforcer.Attribution
