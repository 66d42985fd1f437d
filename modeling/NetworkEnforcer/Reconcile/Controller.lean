import NetworkEnforcer.Reconcile.SelectorScope

/-!
# `Reconcile` of a workload network policy

`workloadnetworkpolicy_controller.go` with the duplicate-target election
(`workloadnetworkpolicy_duplicate_target.go`) and the rendering of the data-plane object on either
backend (`workloadnetworkpolicy_reconcile_k8s.go`, `workloadnetworkpolicy_reconcile_istio.go`).
-/

namespace NetworkEnforcer.Reconcile

open NetworkEnforcer.Lib NetworkEnforcer.Api NetworkEnforcer.Workload
open NetworkEnforcer.Attribution (wnpTargetKey)

def reasonPolicyOwnershipConflict : String := "PolicyOwnershipConflict"
def reasonPolicyReconciliationFailed : String := "PolicyReconciliationFailed"
def reasonDuplicateTarget : String := "DuplicateTarget"
def maxDuplicateTargetNamesInMessage : Nat := 16

/-! ## The duplicate-target election -/

structure DuplicateTargetConflict where
  condition : Condition
  /-- The reconciled policy is the oldest one, the only one that renders. -/
  winner : Bool
  deriving DecidableEq, Repr

/-- The comparison of `oldestWorkloadNetworkPolicy` is negative: older, or as old with a smaller name. -/
def older (a b : WorkloadNetworkPolicy) : Bool :=
  if a.creationTimestamp < b.creationTimestamp then true
  else if b.creationTimestamp < a.creationTimestamp then false
  else a.name < b.name

/-- `slices.MinFunc` on a list that is not empty: the first of the least policies. -/
def oldestWorkloadNetworkPolicy (first : WorkloadNetworkPolicy) (rest : List WorkloadNetworkPolicy) :
    WorkloadNetworkPolicy :=
  rest.foldl (fun m x => if older x m then x else m) first

/-- The names as the message lists them. -/
def listedNames (names : List String) : String :=
  let sorted := names.insertionSort (· ≤ ·)
  let omitted := sorted.length - maxDuplicateTargetNamesInMessage
  let listed := ", ".intercalate (sorted.take maxDuplicateTargetNamesInMessage)
  if 0 < omitted then listed ++ ", and " ++ toString omitted ++ " more" else listed

def duplicateTargetCondition (wnp oldest : WorkloadNetworkPolicy) (items : List WorkloadNetworkPolicy) :
    Condition :=
  let ref := wnp.spec.targetRef
  readyCondition wnp .conditionFalse reasonDuplicateTarget
    (workloadText ref.kind wnp.ns ref.name ++ " " ++ wnp.spec.direction.text ++ " is targeted by " ++
      toString items.length ++ " WorkloadNetworkPolicies (" ++ listedNames (items.map (·.name)) ++
      "); only the oldest, " ++ oldest.name ++ ", renders a policy")

/-- `checkDuplicateTarget`; `none` when there is no conflict. -/
def checkDuplicateTarget {cl : Cluster} (r : Reader cl) (wnp : WorkloadNetworkPolicy) :
    Except Err (Option DuplicateTargetConflict) :=
  match wnpTargetKey wnp with
  | none => .ok none
  | some target =>
    match r.listWNPsByTarget wnp.ns target.target with
    | .error err =>
      let ref := wnp.spec.targetRef
      .error (.wrap ("failed to list WorkloadNetworkPolicies targeting " ++
        workloadText ref.kind wnp.ns ref.name ++ " " ++ wnp.spec.direction.text) err)
    | .ok (first :: second :: rest) =>
      let oldest := oldestWorkloadNetworkPolicy first (second :: rest)
      .ok (some ⟨duplicateTargetCondition wnp oldest (first :: second :: rest), oldest.name = wnp.name⟩)
    | .ok _ => .ok none

/-! ## Rendering -/

def managedByLabelKey : String := "app.kubernetes.io/managed-by"
def managedByLabelValue : String := "network-enforcer"

def setManagedByLabel (labels : Labels) : Labels := labels.insert managedByLabelKey managedByLabelValue

/-- What a nil specification would do; `checkSelectorScope` has refused it before. -/
def nilDereference : Err := .other "invalid memory address or nil pointer dereference"

/-- The error of an operation, wrapped. -/
def wrapped {S : Type} (context : String) (res : Option Err × S) : Option Err × S :=
  (res.1.map (.wrap context), res.2)

/-- The mutation of `reconcileProtect`. -/
def mutateNetworkPolicy (ctrl : ControllerLib) (wnp : WorkloadNetworkPolicy) (spec : NetworkPolicySpec)
    (np : NetworkPolicy) : Except Err NetworkPolicy :=
  match ctrl.setControllerReference wnp.toObjectMeta np.ownerReferences with
  | .error err => .error err
  | .ok refs =>
    .ok { np with spec := spec, labels := setManagedByLabel np.labels, ownerReferences := refs }

def reconcileProtect {cl : Cluster} (env : Env cl) (wnp : WorkloadNetworkPolicy) (np : NetworkPolicy) :
    Option Err × Store NetworkPolicy.key :=
  match wnp.spec.kubernetes with
  | none => (some nilDereference, cl.networkPolicies)
  | some spec =>
    wrapped "failed to reconcile NetworkPolicy"
      (env.networkPolicies.createOrUpdate cl.networkPolicies np (mutateNetworkPolicy env.ctrl wnp spec))

def reconcileK8sPolicy {cl : Cluster} (env : Env cl) (wnp : WorkloadNetworkPolicy) :
    Option Err × Store NetworkPolicy.key :=
  match (env.reads .render).getNetworkPolicy wnp.key with
  | .error err =>
    if !err.isNotFound then (some (.wrap "failed to get NetworkPolicy" err), cl.networkPolicies)
    else if wnp.spec.mode = .monitor then (none, cl.networkPolicies)
    else reconcileProtect env wnp { ns := wnp.ns, name := wnp.name }
  | .ok np =>
    if !isControlledBy np.ownerReferences wnp.uid then
      (some (.policyOwnershipConflict "NetworkPolicy" wnp.key), cl.networkPolicies)
    else if wnp.spec.mode = .monitor then env.networkPolicies.delete cl.networkPolicies np.key
    else reconcileProtect env wnp np

def istioDryRunAnnotationKey : String := "istio.io/dry-run"

def populateIstioAuthorizationPolicySpec (backendSpec : IstioAuthorizationPolicySpec) :
    AuthorizationPolicySpec where
  action := .allow
  selector := some { matchLabels := backendSpec.selector.matchLabels }
  rules := backendSpec.rules.map fun rule =>
    { from_ := rule.from_.map fun f => ⟨⟨f.source.principals⟩⟩
      to_ := rule.to_.map fun t => ⟨⟨t.operation.ports⟩⟩ }

/-- The mutation of `reconcileIstioPolicy`. -/
def mutateAuthorizationPolicy (ctrl : ControllerLib) (wnp : WorkloadNetworkPolicy)
    (spec : IstioAuthorizationPolicySpec) (ap : AuthorizationPolicy) : Except Err AuthorizationPolicy :=
  let annotations :=
    if wnp.spec.mode = .monitor then ap.annotations.insert istioDryRunAnnotationKey "true"
    else ap.annotations.erase istioDryRunAnnotationKey
  match ctrl.setControllerReference wnp.toObjectMeta ap.ownerReferences with
  | .error err => .error err
  | .ok refs =>
    .ok { ap with spec := populateIstioAuthorizationPolicySpec spec, labels := setManagedByLabel ap.labels
                  annotations := annotations, ownerReferences := refs }

/-- The second half of `reconcileIstioPolicy`. -/
def renderAuthorizationPolicy {cl : Cluster} (env : Env cl) (wnp : WorkloadNetworkPolicy)
    (ap : AuthorizationPolicy) : Option Err × Store AuthorizationPolicy.key :=
  match wnp.spec.istio with
  | none => (some nilDereference, cl.authorizationPolicies)
  | some spec =>
    wrapped "failed to reconcile AuthorizationPolicy"
      (env.authorizationPolicies.createOrUpdate cl.authorizationPolicies ap
        (mutateAuthorizationPolicy env.ctrl wnp spec))

def reconcileIstioPolicy {cl : Cluster} (env : Env cl) (wnp : WorkloadNetworkPolicy) :
    Option Err × Store AuthorizationPolicy.key :=
  match (env.reads .render).getAuthorizationPolicy wnp.key with
  | .error err =>
    if !err.isNotFound then (some (.wrap "failed to get AuthorizationPolicy" err), cl.authorizationPolicies)
    else renderAuthorizationPolicy env wnp { ns := wnp.ns, name := wnp.name }
  | .ok ap =>
    if !isControlledBy ap.ownerReferences wnp.uid then
      (some (.policyOwnershipConflict "AuthorizationPolicy" wnp.key), cl.authorizationPolicies)
    else renderAuthorizationPolicy env wnp ap

/-- The backend switch of `reconcilePolicy`. -/
def renderPolicy {cl : Cluster} (env : Env cl) (wnp : WorkloadNetworkPolicy) : Option Err × Cluster :=
  if wnp.spec.backend = .kubernetes then
    let (err, nps) := reconcileK8sPolicy env wnp
    (err, { cl with networkPolicies := nps })
  else
    let (err, aps) := reconcileIstioPolicy env wnp
    (err, { cl with authorizationPolicies := aps })

/-! ## One policy -/

/-- The condition of a failed rendering. -/
def renderFailedCondition (wnp : WorkloadNetworkPolicy) (err : Err) : Condition :=
  readyCondition wnp .conditionFalse
    (if err.isPolicyOwnershipConflict then reasonPolicyOwnershipConflict
      else reasonPolicyReconciliationFailed)
    err.text

/-- `reconcilePolicy`.  The zero condition is returned when the state could not be evaluated. -/
def reconcilePolicy {cl : Cluster} (env : Env cl) (wnp : WorkloadNetworkPolicy) :
    Condition × Option Err × Cluster :=
  match checkSelectorScope env.lib (env.reads .scope) wnp with
  | .error err => ({}, some err, cl)
  | .ok condition =>
    if condition.reason = reasonSelectorDoesNotMatchTarget && wnp.spec.mode ≠ .monitor then
      match checkRetainedPolicyScope env.lib (env.reads .retained) wnp condition with
      | .error err => (condition, some err, cl)
      | .ok retainedCondition => (retainedCondition, none, cl)
    else
      match renderPolicy env wnp with
      | (some err, cl') => (renderFailedCondition wnp err, some err, cl')
      | (none, cl') => (condition, none, cl')

/-! ## The condition on the policy -/

/-- The new condition has the reason, and the stored one does not. -/
def becomes (previous : Option Condition) (condition : Condition) (reason : String) : Bool :=
  condition.reason = reason && previous.all (·.reason ≠ reason)

def updateReadyCondition {cl : Cluster} (env : Env cl) (wnp : WorkloadNetworkPolicy)
    (condition : Condition) (w : World) : Option Err × World :=
  let previous := findStatusCondition wnp.status.conditions conditionReady
  match env.ctrl.setStatusCondition wnp.status.conditions condition with
  | (_, false) => (none, w)
  | (conditions, true) =>
    let new := { wnp with status := { wnp.status with conditions := conditions } }
    match env.status.patch w.wnps wnp new with
    | (some err, wnps) =>
      (some (.wrap "failed to patch WorkloadNetworkPolicy Ready condition" err), { w with wnps := wnps })
    | (none, wnps) =>
      (none, { w with
        wnps := wnps
        selectorOverlaps := w.selectorOverlaps +
          if becomes previous condition reasonSelectorOverlapsWorkload then 1 else 0
        duplicateTargets := w.duplicateTargets +
          if becomes previous condition reasonDuplicateTarget then 1 else 0 })

/-- `Reconcile`, with the error it returns. -/
def reconcile (w : World) (env : Env w.toCluster) (req : NamespacedName) : Option Err × World :=
  match (env.reads .fetch).getWNP req with
  | .error err => (ignoreNotFound err, w)
  | .ok wnp =>
    match checkDuplicateTarget (env.reads .duplicates) wnp with
    | .error err => (some err, w)
    | .ok (some conflict) =>
      if !conflict.winner then updateReadyCondition env wnp conflict.condition w
      else
        let (_, err, cl) := reconcilePolicy env wnp
        let (err', w') := updateReadyCondition env wnp conflict.condition { w with toCluster := cl }
        (joinErrors err err', w')
    | .ok none =>
      let (condition, err, cl) := reconcilePolicy env wnp
      if condition.type = "" then (err, { w with toCluster := cl })
      else
        let (err', w') := updateReadyCondition env wnp condition { w with toCluster := cl }
        (joinErrors err err', w')

end NetworkEnforcer.Reconcile
