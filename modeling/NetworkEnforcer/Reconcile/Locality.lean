import NetworkEnforcer.Reconcile.Freshness

/-!
# What a policy can see

The scope checks of a policy look at the workloads, replica sets and pods of its own namespace, and of the
data-plane objects at the one of its backend under its name, if the policy controls it.  `Cluster.visibleTo` is
that part of the cluster, and a reader of the cluster is one of the part as well (`Reader.localize`), with which the
checks go the same way.  So `scopeIn` and `retainedScopeIn`, the verdicts on the visible part, are what any call
reads off the cluster (`checkSelectorScope_eq_scopeIn`, `checkRetainedPolicyScope_eq_retainedScopeIn`), and
they depend on the view of that part alone (`scopeIn_congr`, `retainedScopeIn_congr`).
-/

namespace NetworkEnforcer.Reconcile

open NetworkEnforcer.Lib NetworkEnforcer.Api NetworkEnforcer.Workload

/-! ## The visible part of a cluster -/

/-- The policy controls the object. -/
def controls (wnp : WorkloadNetworkPolicy) (refs : List OwnerReference) : Bool := isControlledBy refs wnp.uid

/-- The network policy is the object of the policy. -/
def controlsNetworkPolicy (wnp : WorkloadNetworkPolicy) (np : NetworkPolicy) : Bool :=
  wnp.spec.backend = .kubernetes && controls wnp np.ownerReferences

/-- The authorization policy is the object of the policy. -/
def controlsAuthorizationPolicy (wnp : WorkloadNetworkPolicy) (ap : AuthorizationPolicy) : Bool :=
  wnp.spec.backend ≠ .kubernetes && controls wnp ap.ownerReferences

def Cluster.visibleTo (cl : Cluster) (wnp : WorkloadNetworkPolicy) : Cluster where
  deployments := cl.deployments.filter (·.ns = wnp.ns)
  statefulSets := cl.statefulSets.filter (·.ns = wnp.ns)
  daemonSets := cl.daemonSets.filter (·.ns = wnp.ns)
  replicaSets := cl.replicaSets.filter (·.ns = wnp.ns)
  pods := cl.pods.filter (·.ns = wnp.ns)
  networkPolicies := cl.networkPolicies.only wnp.key (controlsNetworkPolicy wnp)
  authorizationPolicies := cl.authorizationPolicies.only wnp.key (controlsAuthorizationPolicy wnp)

/-! ## Readers of the visible part -/

section Parts

variable {V : Type} {key : V → NamespacedName} {s : Store key}

def absent : Err := .notFound "not found"

@[simp] lemma isNotFound_absent : absent.isNotFound = true := rfl

/-- A list of objects that all belong to the part. -/
lemma Lists.filter {p q : V → Bool} {res : Except Err (List V)} (h : Lists s p res)
    (hpq : ∀ v, p v = true → q v = true) : Lists (s.filter q) p res := by
  intro items hitems
  refine (h items hitems).trans ?_
  have hboth : s.values.filter p = (s.values.filter q).filter p := by
    rw [List.filter_filter]
    refine List.filter_congr fun v _ => ?_
    cases hp : p v with
    | false => rfl
    | true => rw [hpq v hp]; rfl
  rw [hboth]
  exact ((s.values_filter_perm q).filter p).symm

/-- A list of objects of which none belongs to the part. -/
lemma lists_filter_nil {p q : V → Bool} (hpq : ∀ v, q v = true → p v = false) : Lists (s.filter q) p (.ok []) := by
  intro items hitems
  obtain rfl := Except.ok.inj hitems
  rw [List.nil_perm, List.filter_eq_nil_iff]
  intro v hv
  have hq := (List.mem_filter.1 ((s.values_filter_perm q).mem_iff.1 hv)).2
  rw [hpq v hq]
  exact Bool.false_ne_true

/-- `Get` in the part of a namespace. -/
def getIn (ns : String) (get : NamespacedName → Except Err V) (k : NamespacedName) : Except Err V :=
  if k.ns = ns then get k else .error absent

lemma gets_getIn {ns : String} {nsOf : V → String} (hns : ∀ v, (key v).ns = nsOf v)
    {get : NamespacedName → Except Err V} (h : Gets s get) :
    Gets (s.filter fun v => nsOf v = ns) (getIn ns get) where
  ok {k v} hget := by
    unfold getIn at hget
    split at hget
    · rename_i hk
      have hv := h.ok hget
      have hmine : nsOf v = ns := by rw [← hns, Store.key_of_lookup hv, hk]
      rw [Store.lookup_filter, hv]
      simp [hmine]
    · cases hget
  notFound {k e} hget hnf := by
    unfold getIn at hget
    rw [Store.lookup_filter]
    split at hget
    · rw [h.notFound hget hnf]
      rfl
    · rename_i hk
      cases hl : s.lookup k with
      | none => rfl
      | some v =>
        have hother : nsOf v ≠ ns := by
          rw [← hns, Store.key_of_lookup hl]
          exact hk
        simp [hother]

/-- `Get` in the part of one object, that has to satisfy a condition. -/
def getOnly (k : NamespacedName) (p : V → Bool) (get : NamespacedName → Except Err V) (k' : NamespacedName) :
    Except Err V :=
  if k' = k then
    match get k with
    | .ok v => if p v then .ok v else .error absent
    | .error e => .error e
  else .error absent

lemma gets_getOnly {k : NamespacedName} {p : V → Bool} {get : NamespacedName → Except Err V} (h : Gets s get) :
    Gets (s.only k p) (getOnly k p get) where
  ok {k' v} hget := by
    unfold getOnly at hget
    split at hget
    · rename_i hk
      split at hget
      · rename_i v' hv'
        split at hget
        · rename_i hp
          obtain rfl := Except.ok.inj hget
          rw [Store.lookup_only, if_pos hk, h.ok hv']
          simp [hp]
        · cases hget
      · cases hget
    · cases hget
  notFound {k' e} hget hnf := by
    unfold getOnly at hget
    rw [Store.lookup_only]
    split at hget
    · rename_i hk
      rw [if_pos hk]
      split at hget
      · rename_i v' hv'
        split at hget
        · cases hget
        · rename_i hp
          rw [h.ok hv']
          simp [hp]
      · rename_i e' he'
        obtain rfl := Except.error.inj hget
        rw [h.notFound he' hnf]
        rfl
    · rename_i hk
      rw [if_neg hk]

end Parts

/-- `List` in the part of a namespace. -/
def listIn {V : Type} (ns : String) (list : String → Except Err (List V)) (ns' : String) : Except Err (List V) :=
  if ns' = ns then list ns' else .ok []

lemma lists_listIn {V : Type} {key : V → NamespacedName} {s : Store key} {ns : String} {nsOf : V → String}
    {list : String → Except Err (List V)} {ns' : String} (h : Lists s (fun v => nsOf v = ns') (list ns')) :
    Lists (s.filter fun v => nsOf v = ns) (fun v => nsOf v = ns') (listIn ns list ns') := by
  unfold listIn
  split
  · rename_i hns
    subst hns
    exact h.filter fun v hv => hv
  · rename_i hns
    refine lists_filter_nil fun v hv => ?_
    rw [decide_eq_true_eq] at hv
    rw [hv, decide_eq_false_iff_not]
    exact fun h => hns h.symm

/-- A reader of the cluster, on the visible part. -/
def Reader.localize {cl : Cluster} (r : Reader cl) (wnp : WorkloadNetworkPolicy) : Reader (cl.visibleTo wnp) where
  getWNP _ := .error absent
  getReplicaSet := getIn wnp.ns r.getReplicaSet
  getNetworkPolicy := getOnly wnp.key (controlsNetworkPolicy wnp) r.getNetworkPolicy
  getAuthorizationPolicy := getOnly wnp.key (controlsAuthorizationPolicy wnp) r.getAuthorizationPolicy
  listWNPsByTarget _ _ := .ok []
  listDeployments := listIn wnp.ns r.listDeployments
  listStatefulSets := listIn wnp.ns r.listStatefulSets
  listDaemonSets := listIn wnp.ns r.listDaemonSets
  listPods ns selector := listIn wnp.ns (r.listPods · selector) ns
  getWNP_gets := ⟨fun h => (by cases h), fun _ _ => rfl⟩
  getReplicaSet_gets := gets_getIn (fun _ => rfl) r.getReplicaSet_gets
  getNetworkPolicy_gets := gets_getOnly r.getNetworkPolicy_gets
  getAuthorizationPolicy_gets := gets_getOnly r.getAuthorizationPolicy_gets
  listWNPsByTarget_lists ns key := fun items h => by
    obtain rfl := Except.ok.inj h
    exact List.Perm.refl []
  listDeployments_lists ns := lists_listIn (r.listDeployments_lists ns)
  listStatefulSets_lists ns := lists_listIn (r.listStatefulSets_lists ns)
  listDaemonSets_lists ns := lists_listIn (r.listDaemonSets_lists ns)
  listPods_lists ns selector := by
    unfold listIn
    split
    · rename_i hns
      subst hns
      refine (r.listPods_lists wnp.ns selector).filter fun p hp => ?_
      exact (Bool.and_eq_true _ _ ▸ hp).1
    · rename_i hns
      refine lists_filter_nil fun p hp => ?_
      rw [decide_eq_true_eq] at hp
      rw [hp, Bool.and_eq_false_iff]
      exact .inl (decide_eq_false fun h => hns h.symm)

/-! ## The checks go the same way -/

section Local

variable {cl : Cluster} {r : Reader cl} {lib : Apimachinery} {wnp : WorkloadNetworkPolicy}

lemma workloadTemplates_localize : workloadTemplates (r.localize wnp) wnp.ns = workloadTemplates r wnp.ns := by
  simp only [workloadTemplates, Reader.localize, listIn, if_true]

lemma podWorkloadOwner_localize {pod : Pod} (hns : pod.ns = wnp.ns) :
    podWorkloadOwner (r.localize wnp) pod = podWorkloadOwner r pod := by
  simp only [podWorkloadOwner, Reader.localize, getIn, hns, if_true]

lemma podOverlaps_localize {ref : WorkloadTargetRef} {ts : List WorkloadTemplate} {pods : List Pod}
    (hns : ∀ pod ∈ pods, pod.ns = wnp.ns) :
    podOverlaps (r.localize wnp) ref ts pods = podOverlaps r ref ts pods := by
  induction pods with
  | nil => rfl
  | cons pod pods ih =>
    obtain ⟨hpod, hpods⟩ := List.forall_mem_cons.1 hns
    simp only [podOverlaps, podWorkloadOwner_localize hpod, ih hpods]

lemma podSelectorOverlaps_localize {selector : Labels → Bool} {ts : List WorkloadTemplate} :
    podSelectorOverlaps (r.localize wnp) wnp selector ts = podSelectorOverlaps r wnp selector ts := by
  have hlist : (r.localize wnp).listPods wnp.ns selector = r.listPods wnp.ns selector := if_pos rfl
  unfold podSelectorOverlaps
  rw [hlist]
  cases hpods : r.listPods wnp.ns selector with
  | error err => rfl
  | ok pods =>
    refine podOverlaps_localize fun pod hpod => ?_
    have hmem := ((r.listPods_lists _ _ _ hpods).mem_iff).1 hpod
    simp only [List.mem_filter, Bool.and_eq_true, decide_eq_true_eq] at hmem
    exact hmem.2.1

lemma checkSelectorScope_localize : checkSelectorScope lib (r.localize wnp) wnp = checkSelectorScope lib r wnp := by
  simp only [checkSelectorScope, scopeOverlaps, workloadTemplates_localize, podSelectorOverlaps_localize]

lemma retainedPolicySelector_localize :
    retainedPolicySelector (r.localize wnp) wnp = retainedPolicySelector r wnp := by
  unfold retainedPolicySelector
  split
  · rename_i hb
    have hget : (r.localize wnp).getNetworkPolicy wnp.key =
        getOnly wnp.key (controlsNetworkPolicy wnp) r.getNetworkPolicy wnp.key := rfl
    rw [hget, getOnly, if_pos rfl]
    cases hnp : r.getNetworkPolicy wnp.key with
    | error e => rfl
    | ok np =>
      by_cases hc : isControlledBy np.ownerReferences wnp.uid = true <;>
        simp [controlsNetworkPolicy, controls, hb, hc]
  · rename_i hb
    have hget : (r.localize wnp).getAuthorizationPolicy wnp.key =
        getOnly wnp.key (controlsAuthorizationPolicy wnp) r.getAuthorizationPolicy wnp.key := rfl
    rw [hget, getOnly, if_pos rfl]
    cases hap : r.getAuthorizationPolicy wnp.key with
    | error e => rfl
    | ok ap =>
      by_cases hc : isControlledBy ap.ownerReferences wnp.uid = true <;>
        simp [controlsAuthorizationPolicy, controls, hb, hc]

lemma checkRetainedPolicyScope_localize (mismatch : Condition) :
    checkRetainedPolicyScope lib (r.localize wnp) wnp mismatch =
      checkRetainedPolicyScope lib r wnp mismatch := by
  simp only [checkRetainedPolicyScope, retainedOverlaps, retainedPolicySelector_localize,
    workloadTemplates_localize, podSelectorOverlaps_localize]

end Local

/-! ## Verdicts on the visible part -/

/-- The verdict of the scope check, as a function of the cluster. -/
def scopeIn (lib : Apimachinery) (cl : Cluster) (wnp : WorkloadNetworkPolicy) : Except Err Condition :=
  checkSelectorScope lib (Reader.direct (cl.visibleTo wnp)) wnp

/-- The verdict on the retained object. -/
def retainedScopeIn (lib : Apimachinery) (cl : Cluster) (wnp : WorkloadNetworkPolicy) (mismatch : Condition) :
    Except Err Condition :=
  checkRetainedPolicyScope lib (Reader.direct (cl.visibleTo wnp)) wnp mismatch

lemma SameView.refl (cl : Cluster) : SameView cl cl where
  deployments := .refl _ _
  statefulSets := .refl _ _
  daemonSets := .refl _ _
  replicaSets := .refl _ _
  pods := .refl _ _
  networkPolicies := rfl
  authorizationPolicies := rfl

section Verdicts

variable {lib : Apimachinery} (hlib : LooksUpLabels lib) {cl cl' : Cluster} {wnp : WorkloadNetworkPolicy}
include hlib

/-- A verdict that some reader gives is the verdict on the visible part. -/
lemma checkSelectorScope_eq_scopeIn {r : Reader cl} {c : Condition}
    (h : checkSelectorScope lib r wnp = .ok c) : scopeIn lib cl wnp = .ok c := by
  rw [← checkSelectorScope_localize] at h
  rcases (Reader.direct_answers (cl.visibleTo wnp)).checkSelectorScope_cases lib wnp with ⟨c', hc'⟩ | ⟨err, herr⟩
  · rw [scopeIn, hc', checkSelectorScope_congr hlib (.refl _) hc' h]
  · rw [herr] at h
    cases h

@[inherit_doc checkSelectorScope_eq_scopeIn]
lemma checkRetainedPolicyScope_eq_retainedScopeIn {r : Reader cl} {mismatch c : Condition}
    (h : checkRetainedPolicyScope lib r wnp mismatch = .ok c) : retainedScopeIn lib cl wnp mismatch = .ok c := by
  rw [← checkRetainedPolicyScope_localize] at h
  have hret : ∀ {o o' : Option LabelSelector}, retainedPolicySelector (Reader.direct (cl.visibleTo wnp)) wnp = .ok o →
      retainedPolicySelector (r.localize wnp) wnp = .ok o' → o' = o := by
    intro o o' ho ho'
    rw [retainedPolicySelector_eq ho, retainedPolicySelector_eq ho']
  rcases (Reader.direct_answers (cl.visibleTo wnp)).checkRetainedPolicyScope_cases lib wnp mismatch with
    ⟨c', hc'⟩ | ⟨spec, err, hspec, herr⟩
  · rw [retainedScopeIn, hc', checkRetainedPolicyScope_congr hlib (.refl _) hc' h]
  · cases ho : retainedPolicySelector (r.localize wnp) wnp with
    | error e =>
      unfold checkRetainedPolicyScope at h
      rw [ho] at h
      cases h
    | ok o =>
      rw [hret hspec ho] at ho
      rw [herr _ _ ho] at h
      cases h

/-- **The scope verdict depends on what the policy can see.** -/
theorem scopeIn_congr (h : SameView (cl.visibleTo wnp) (cl'.visibleTo wnp)) :
    scopeIn lib cl wnp = scopeIn lib cl' wnp :=
  checkSelectorScope_eq hlib h (Reader.direct_answers _) (Reader.direct_answers _)

@[inherit_doc scopeIn_congr]
theorem retainedScopeIn_congr (h : SameView (cl.visibleTo wnp) (cl'.visibleTo wnp)) (mismatch : Condition) :
    retainedScopeIn lib cl wnp mismatch = retainedScopeIn lib cl' wnp mismatch :=
  checkRetainedPolicyScope_eq hlib h (Reader.direct_answers _) (Reader.direct_answers _) mismatch

end Verdicts

end NetworkEnforcer.Reconcile
