import NetworkEnforcer.Reconcile.Client

/-!
# The scope of a policy's selector

`workloadnetworkpolicy_selector_scope.go`, `workloadnetworkpolicy_pod_scope.go` and
`workloadnetworkpolicy_retained_policy.go`: which workloads and pods the rendered selector selects,
and the `Ready` condition that follows.
-/

namespace NetworkEnforcer.Reconcile

open NetworkEnforcer.Lib NetworkEnforcer.Api NetworkEnforcer.Workload

/-! ## Reasons -/

def conditionReady : String := "Ready"
def reasonSelectorScopeValid : String := "SelectorScopeValid"
def reasonSelectorOverlapsWorkload : String := "SelectorOverlapsWorkload"
def reasonTargetNotFound : String := "TargetNotFound"
def reasonSelectorDoesNotMatchTarget : String := "SelectorDoesNotMatchTarget"

/-- `appsv1.SchemeGroupVersion`. -/
def appsGroupVersion : String := "apps/v1"

/-- A `Ready` condition for the current generation; its transition time is set on storing. -/
def readyCondition (wnp : WorkloadNetworkPolicy) (status : ConditionStatus) (reason message : String) :
    Condition where
  type := conditionReady
  status := status
  observedGeneration := wnp.generation
  reason := reason
  message := message

/-- `kind namespace/name`, as the messages name a workload. -/
def workloadText (kind : WorkloadKind) (ns name : String) : String := kind ++ " " ++ ns ++ "/" ++ name

/-- The least of some texts: `slices.Min`, or the first after `slices.Sort`. -/
def leastText (texts : List String) : Option String := (texts.insertionSort (· ≤ ·)).head?

/-- Sorting forgets the order in which a list was returned. -/
lemma insertionSort_eq_of_perm {texts texts' : List String} (h : texts.Perm texts') :
    texts.insertionSort (· ≤ ·) = texts'.insertionSort (· ≤ ·) :=
  ((List.perm_insertionSort (· ≤ ·) texts).trans
    (h.trans (List.perm_insertionSort (· ≤ ·) texts').symm)).eq_of_pairwise'
    (List.pairwise_insertionSort (· ≤ ·) texts) (List.pairwise_insertionSort (· ≤ ·) texts')

/-! ## Workload templates -/

structure WorkloadTemplate where
  target : WorkloadTargetRef
  labels : Labels
  uid : String
  deriving DecidableEq

def templateOf (kind : WorkloadKind) (w : Workload) : WorkloadTemplate :=
  ⟨⟨kind, w.name⟩, w.templateLabels, w.uid⟩

def workloadTemplates {cl : Cluster} (r : Reader cl) (ns : String) : Except Err (List WorkloadTemplate) :=
  match r.listDeployments ns with
  | .error err => .error (.wrap "failed to list Deployments" err)
  | .ok deployments =>
    match r.listStatefulSets ns with
    | .error err => .error (.wrap "failed to list StatefulSets" err)
    | .ok statefulSets =>
      match r.listDaemonSets ns with
      | .error err => .error (.wrap "failed to list DaemonSets" err)
      | .ok daemonSets =>
        .ok (deployments.map (templateOf workloadKindDeployment) ++
          statefulSets.map (templateOf workloadKindStatefulSet) ++
          daemonSets.map (templateOf workloadKindDaemonSet))

/-- The results of `matchWorkloadTemplates`. -/
structure TemplateMatch where
  targetFound : Bool := false
  targetMatches : Bool := false
  overlaps : List String := []
  deriving DecidableEq, Repr

/-- One turn of its loop. -/
def matchTemplate (wnp : WorkloadNetworkPolicy) (selector : Labels → Bool) (m : TemplateMatch)
    (t : WorkloadTemplate) : TemplateMatch :=
  if t.target = wnp.spec.targetRef then { m with targetFound := true, targetMatches := selector t.labels }
  else if selector t.labels then
    { m with overlaps := m.overlaps ++ ["workload " ++ workloadText t.target.kind wnp.ns t.target.name] }
  else m

def matchWorkloadTemplates (wnp : WorkloadNetworkPolicy) (selector : Labels → Bool)
    (templates : List WorkloadTemplate) : TemplateMatch :=
  templates.foldl (matchTemplate wnp selector) {}

/-! ## Pods -/

/-- The workload owner of a pod: its controller, or the deployment behind its replica set. -/
def podWorkloadOwner {cl : Cluster} (r : Reader cl) (pod : Pod) : Except Err (Option OwnerReference) :=
  match getControllerOf pod.ownerReferences with
  | none => .ok none
  | some owner =>
    if owner.apiVersion ≠ appsGroupVersion || owner.kind ≠ "ReplicaSet" then .ok (some owner)
    else
      let key : NamespacedName := ⟨pod.ns, owner.name⟩
      match r.getReplicaSet key with
      | .error err =>
        -- a dangling reference cannot establish membership in the target
        if err.isNotFound then .ok (some owner)
        else .error (.wrap
          ("failed to get ReplicaSet " ++ key.text ++ " for Pod " ++ pod.ns ++ "/" ++ pod.name) err)
      | .ok rs =>
        if rs.uid ≠ owner.uid then .ok (some owner)
        else
          match getControllerOf rs.ownerReferences with
          | some controller =>
            if controller.apiVersion = appsGroupVersion && controller.kind = "Deployment" then
              .ok (some controller)
            else .ok (some owner)
          | none => .ok (some owner)

def podOwnerMatchesTarget (owner : Option OwnerReference) (target : WorkloadTargetRef)
    (templates : List WorkloadTemplate) : Bool :=
  match owner with
  | none => false
  | some owner =>
    if owner.apiVersion ≠ appsGroupVersion || owner.kind ≠ target.kind || owner.name ≠ target.name then false
    else
      match templates.find? (·.target = target) with
      | some t => owner.uid = t.uid
      -- leftover pods of a missing target are reported as TargetNotFound
      | none => true

/-- How an overlap names a pod. -/
def podText (pod : Pod) (owner : Option OwnerReference) : String :=
  "Pod " ++ pod.ns ++ "/" ++ pod.name ++
    match owner with
    | some o => " (owner: " ++ workloadText o.kind pod.ns o.name ++ ")"
    | none => ""

/-- The loop of `podSelectorOverlaps`. -/
def podOverlaps {cl : Cluster} (r : Reader cl) (target : WorkloadTargetRef)
    (templates : List WorkloadTemplate) : List Pod → Except Err (List String)
  | [] => .ok []
  | pod :: pods =>
    match podWorkloadOwner r pod with
    | .error err => .error err
    | .ok owner =>
      match podOverlaps r target templates pods with
      | .error err => .error err
      | .ok overlaps =>
        if podOwnerMatchesTarget owner target templates then .ok overlaps
        else .ok (podText pod owner :: overlaps)

def podSelectorOverlaps {cl : Cluster} (r : Reader cl) (wnp : WorkloadNetworkPolicy)
    (selector : Labels → Bool) (templates : List WorkloadTemplate) : Except Err (List String) :=
  match r.listPods wnp.ns selector with
  | .error err => .error (.wrap "failed to list Pods for selector scope" err)
  | .ok pods => podOverlaps r wnp.spec.targetRef templates pods

/-! ## The verdict -/

/-- The condition of the switch in `selectorScopeCondition`, case by case. -/
def selectorScopeCondition (wnp : WorkloadNetworkPolicy) (targetFound targetMatches : Bool)
    (overlaps : List String) : Condition :=
  let target := workloadText wnp.spec.targetRef.kind wnp.ns wnp.spec.targetRef.name
  if targetFound && !targetMatches then
    readyCondition wnp .conditionFalse reasonSelectorDoesNotMatchTarget
      ("Policy selector does not match pod template labels of target workload " ++ target)
  else
    match leastText overlaps with
    | some first =>
      readyCondition wnp .conditionFalse reasonSelectorOverlapsWorkload
        ("Policy selector also selects " ++ first)
    | none =>
      if !targetFound then
        readyCondition wnp .conditionFalse reasonTargetNotFound
          ("Target workload " ++ target ++ " does not exist yet")
      else
        readyCondition wnp .conditionTrue reasonSelectorScopeValid
          "Policy selector matches only the target workload"

/-- `GetSelector`. -/
def getSelector (spec : WorkloadNetworkPolicySpec) : Except Err LabelSelector :=
  match spec.backend with
  | .kubernetes =>
    match spec.kubernetes with
    | none => .error (.other "WorkloadNetworkPolicy kubernetes backend is nil")
    | some k => .ok k.podSelector
  | .istio =>
    match spec.istio with
    | none => .error (.other "WorkloadNetworkPolicy istio backend is nil")
    | some i => .ok i.selector
  | .other name => .error (.other ("unsupported WorkloadNetworkPolicy backend: " ++ name))

/-- The selector that is checked: Istio renders label equalities only. -/
def scopeSelector (wnp : WorkloadNetworkPolicy) : Except Err LabelSelector :=
  match getSelector wnp.spec with
  | .error err => .error err
  | .ok s => .ok (if wnp.spec.backend = .istio then { s with matchExpressions := [] } else s)

/-- Whom else the selector selects: workloads, or else pods; a mismatch with the target skips pods. -/
def scopeOverlaps {cl : Cluster} (r : Reader cl) (wnp : WorkloadNetworkPolicy) (selector : Labels → Bool)
    (templates : List WorkloadTemplate) : Except Err (List String) :=
  let m := matchWorkloadTemplates wnp selector templates
  if m.overlaps = [] && (!m.targetFound || m.targetMatches) then podSelectorOverlaps r wnp selector templates
  else .ok m.overlaps

def checkSelectorScope {cl : Cluster} (lib : Apimachinery) (r : Reader cl) (wnp : WorkloadNetworkPolicy) :
    Except Err Condition :=
  match scopeSelector wnp with
  | .error err => .error err
  | .ok selectorSpec =>
    match lib.labelSelectorAsSelector selectorSpec with
    | .error err => .error (.wrap "invalid policy selector" (.other err))
    | .ok selector =>
      match workloadTemplates r wnp.ns with
      | .error err => .error err
      | .ok templates =>
        match scopeOverlaps r wnp selector templates with
        | .error err => .error err
        | .ok overlaps =>
          let m := matchWorkloadTemplates wnp selector templates
          .ok (selectorScopeCondition wnp m.targetFound m.targetMatches overlaps)

/-! ## The retained policy -/

/-- `retainedPolicySelector`: the selector of the rendered object, if this policy controls it. -/
def retainedPolicySelector {cl : Cluster} (r : Reader cl) (wnp : WorkloadNetworkPolicy) :
    Except Err (Option LabelSelector) :=
  if wnp.spec.backend = .kubernetes then
    match r.getNetworkPolicy wnp.key with
    | .error err => if err.isNotFound then .ok none else .error err
    | .ok np => .ok (if isControlledBy np.ownerReferences wnp.uid then some np.spec.podSelector else none)
  else
    match r.getAuthorizationPolicy wnp.key with
    | .error err => if err.isNotFound then .ok none else .error err
    | .ok ap =>
      let matchLabels := (ap.spec.selector.map (·.matchLabels)).getD ∅
      .ok (if isControlledBy ap.ownerReferences wnp.uid then some { matchLabels := matchLabels } else none)

/-- Whom the retained selector selects: workloads, or else pods. -/
def retainedOverlaps {cl : Cluster} (r : Reader cl) (wnp : WorkloadNetworkPolicy)
    (selector : Labels → Bool) (templates : List WorkloadTemplate) : Except Err (List String) :=
  let m := matchWorkloadTemplates wnp selector templates
  if m.overlaps = [] then podSelectorOverlaps r wnp selector templates else .ok m.overlaps

def checkRetainedPolicyScope {cl : Cluster} (lib : Apimachinery) (r : Reader cl)
    (wnp : WorkloadNetworkPolicy) (mismatch : Condition) : Except Err Condition :=
  match retainedPolicySelector r wnp with
  | .error err => .error (.wrap "failed to get retained policy selector" err)
  | .ok none => .ok mismatch
  | .ok (some selectorSpec) =>
    match lib.labelSelectorAsSelector selectorSpec with
    | .error err => .error (.wrap "invalid retained policy selector" (.other err))
    | .ok selector =>
      match workloadTemplates r wnp.ns with
      | .error err => .error err
      | .ok templates =>
        match retainedOverlaps r wnp selector templates with
        | .error err => .error err
        | .ok overlaps =>
          let message := mismatch.message ++
            "; retained policy selector and rules remain unchanged until the selector is corrected"
          match leastText overlaps with
          | some first =>
            .ok (readyCondition wnp .conditionFalse reasonSelectorOverlapsWorkload
              ("Retained policy selector also selects " ++ first ++ "; " ++ message))
          | none => .ok (readyCondition wnp .conditionFalse reasonSelectorDoesNotMatchTarget message)

end NetworkEnforcer.Reconcile
