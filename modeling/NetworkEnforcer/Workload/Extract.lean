import NetworkEnforcer.Api.PolicyHelpers
import NetworkEnforcer.Workload.TargetIndex

/-!
# From pods to workloads (`internal/workload/extract.go`)

`getNameAndKind` names the workload a pod belongs to from the pod alone: its controller, and for a replica
set the deployment that its name and the hash label of the pod suggest.  `get` also looks up the pod
selector of the workload.  A reference that comes back from there with a supported kind is `Resolved`
(`get_resolved`).
-/

namespace NetworkEnforcer.Workload

open NetworkEnforcer.Lib NetworkEnforcer.Api

/-- `appsv1.DefaultDeploymentUniqueLabelKey`. -/
def defaultDeploymentUniqueLabelKey : String := "pod-template-hash"

def getNameAndKind (pod : Pod) : WorkloadRef :=
  match getControllerOf pod.ownerReferences with
  | none => { ns := pod.ns, ownerKind := workloadKindPod, ownerName := pod.name }
  | some ref =>
    if ref.kind = workloadKindReplicaSet then
      let hash := (pod.labels.lookup defaultDeploymentUniqueLabelKey).getD ""
      if hash = "" || !hasSuffix ref.name hash then
        { ns := pod.ns, ownerKind := workloadKindReplicaSet, ownerName := ref.name }
      else
        { ns := pod.ns, ownerKind := workloadKindDeployment, ownerName := trimSuffix ref.name ("-" ++ hash) }
    else { ns := pod.ns, ownerKind := ref.kind, ownerName := ref.name }

/-! ## Pod selectors -/

/-- A `Get` with an empty namespace or name fails. -/
def Named {V : Type} (get : NamespacedName → Except Err V) : Prop :=
  ∀ {k : NamespacedName} {v : V}, get k = .ok v → k.ns ≠ "" ∧ k.name ≠ ""

lemma Named.error {V : Type} (err : Err) : Named (fun _ => .error err : NamespacedName → Except Err V) := nofun

/-- The answer of a cluster that has no workload of the kind. -/
def noSuchWorkload : Err := .notFound "workload not found"

/-- The part of the client that looks for pods and workloads.  Any call may fail at any time. -/
structure WorkloadClient where
  getPod : NamespacedName → Except Err Pod
  getDeployment : NamespacedName → Except Err Workload
  getStatefulSet : NamespacedName → Except Err Workload
  getDaemonSet : NamespacedName → Except Err Workload
  /-- In a namespace. -/
  listPods : String → Except Err (List Pod)
  getDeployment_named : Named getDeployment
  getStatefulSet_named : Named getStatefulSet
  getDaemonSet_named : Named getDaemonSet

/-- `Empty` of the converted selector: no label equality and no requirement. -/
def selectorEmpty (s : LabelSelector) : Bool := s.matchLabels.entries = [] && s.matchExpressions = []

/-- The workload a reference names, by the switch over the supported kinds. -/
def getOwner (c : WorkloadClient) (wk : WorkloadRef) : Except Err Workload :=
  let key : NamespacedName := ⟨wk.ns, wk.ownerName⟩
  if wk.ownerKind = workloadKindDeployment then c.getDeployment key
  else if wk.ownerKind = workloadKindStatefulSet then c.getStatefulSet key
  else if wk.ownerKind = workloadKindDaemonSet then c.getDaemonSet key
  else .error (.other ("unsupported workload kind: " ++ wk.ownerKind))

/-- `LookupPodSelectorForWorkload`: the reference with its selector. -/
def lookupPodSelectorForWorkload (lib : Apimachinery) (c : WorkloadClient) (wk : WorkloadRef) :
    Except Err WorkloadRef :=
  match getOwner c wk with
  | .error err => .error err
  | .ok owner =>
    match owner.selector with
    | none => .error (.other "nil label selector not allowed")
    | some selector =>
      match lib.labelSelectorAsSelector selector with
      | .error err => .error (.wrap "failed to convert label selector" (.other err))
      | .ok _ =>
        if selectorEmpty selector then .error (.other "empty selector not allowed")
        else .ok { wk with selector := selector }

/-- `Get`: the workload of a stored pod, with its selector if the kind is supported. -/
def get (lib : Apimachinery) (c : WorkloadClient) (podNamespacedName : NamespacedName) :
    Except Err WorkloadRef :=
  match c.getPod podNamespacedName with
  | .error err => .error (.wrap ("getting Pod \"" ++ podNamespacedName.text ++ "\"") err)
  | .ok pod =>
    let ref := getNameAndKind pod
    if !ref.isSupported then .ok ref
    else
      match lookupPodSelectorForWorkload lib c ref with
      | .error err =>
        .error (.wrap ("failed to lookup " ++ ref.ownerKind ++ " " ++ ref.ns ++ "/" ++ ref.ownerName ++
          " label selector") err)
      | .ok ref => .ok ref

/-- `ResolveDenyingPolicy`. -/
def resolveDenyingPolicy (c : TargetReader) (wk : WorkloadRef) (direction : PolicyType) :
    Except LookupError NamespacedName :=
  (lookupWNPByTarget c wk.ns wk.ownerKind wk.ownerName direction).map (·.key)

/-- A named workload of a supported kind, with a valid selector that is not empty. -/
structure Resolved (lib : Apimachinery) (ref : WorkloadRef) : Prop where
  ns : ref.ns ≠ ""
  name : ref.ownerName ≠ ""
  supported : ref.isSupported = true
  valid : ∃ selector, lib.labelSelectorAsSelector ref.selector = .ok selector
  nonempty : selectorEmpty ref.selector = false

lemma getOwner_ok {c : WorkloadClient} {wk : WorkloadRef} {owner : Workload} (h : getOwner c wk = .ok owner) :
    wk.ns ≠ "" ∧ wk.ownerName ≠ "" ∧ wk.isSupported = true := by
  unfold getOwner at h
  simp only at h
  split at h
  · rename_i hk
    obtain ⟨hns, hname⟩ := c.getDeployment_named h
    exact ⟨hns, hname, by simp [WorkloadRef.isSupported, hk]⟩
  split at h
  · rename_i hk
    obtain ⟨hns, hname⟩ := c.getStatefulSet_named h
    exact ⟨hns, hname, by simp [WorkloadRef.isSupported, hk]⟩
  split at h
  · rename_i hk
    obtain ⟨hns, hname⟩ := c.getDaemonSet_named h
    exact ⟨hns, hname, by simp [WorkloadRef.isSupported, hk]⟩
  · cases h

/-- **A selector that was looked up is valid**, and its workload is named and of a supported kind. -/
theorem lookupPodSelectorForWorkload_resolved {lib : Apimachinery} {c : WorkloadClient} {wk ref : WorkloadRef}
    (h : lookupPodSelectorForWorkload lib c wk = .ok ref) : Resolved lib ref := by
  unfold lookupPodSelectorForWorkload at h
  split at h
  · cases h
  rename_i owner howner
  split at h
  · cases h
  rename_i selector _
  split at h
  · cases h
  rename_i matches_ hvalid
  split at h
  · cases h
  rename_i hempty
  obtain ⟨hns, hname, hsupported⟩ := getOwner_ok howner
  obtain rfl := Except.ok.inj h
  exact ⟨hns, hname, hsupported, ⟨matches_, hvalid⟩, Bool.eq_false_of_not_eq_true hempty⟩

lemma get_resolved {lib : Apimachinery} {c : WorkloadClient} {key : NamespacedName} {ref : WorkloadRef}
    (h : get lib c key = .ok ref) (hs : ref.isSupported = true) : Resolved lib ref := by
  unfold get at h
  split at h
  · cases h
  rename_i pod _
  simp only at h
  split at h
  · rename_i hno
    obtain rfl := Except.ok.inj h
    rw [hs] at hno
    cases hno
  split at h
  · cases h
  · rename_i ref' hlookup
    obtain rfl := Except.ok.inj h
    exact lookupPodSelectorForWorkload_resolved hlookup

end NetworkEnforcer.Workload
