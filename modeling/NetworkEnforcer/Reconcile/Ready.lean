import NetworkEnforcer.Reconcile.Safety

/-!
# `Ready = True` is sound

`reconcile_ready`: if a call returns no error and leaves the `Ready` condition `True`, then the policy
has no rival, the selector that was checked is in scope, and the rendered object carries that very
selector and the rules of the policy, in the policy's mode.
-/

namespace NetworkEnforcer.Reconcile

open NetworkEnforcer.Lib NetworkEnforcer.Api NetworkEnforcer.Workload

/-- The status of the stored `Ready` condition. -/
def readyStatus (w : World) (key : NamespacedName) : Option ConditionStatus :=
  match w.wnps.lookup key with
  | some wnp => (findStatusCondition wnp.status.conditions conditionReady).map (·.status)
  | none => none

/-- What `Ready = True` guarantees about the cluster before the call and the objects after it.
`spec` is the selector that was checked, `selector` what it matches, `d` the target. -/
structure ReadyGuarantee (w out : World) (wnp : WorkloadNetworkPolicy) (spec : LabelSelector)
    (selector : Labels → Bool) (d : Workload) : Prop where
  /-- No other policy has the target and the direction. -/
  unique : ∀ v ∈ w.wnps.values,
    targets wnp.ns wnp.spec.targetRef wnp.spec.direction v = true → v = wnp
  /-- The selector selects the target and nothing else. -/
  scope : InScope w.toCluster wnp selector d
  kubernetesProtect : wnp.spec.backend = .kubernetes → wnp.spec.mode = .protect →
    ∃ np, out.networkPolicies.lookup wnp.key = some np ∧
      isControlledBy np.ownerReferences wnp.uid = true ∧ wnp.spec.kubernetes = some np.spec ∧
      np.spec.podSelector = spec
  kubernetesMonitor : wnp.spec.backend = .kubernetes → wnp.spec.mode = .monitor →
    out.networkPolicies.lookup wnp.key = none
  /-- On Istio the object is rendered in both modes; in monitor mode it is a dry run. -/
  istio : wnp.spec.backend = .istio →
    ∃ ap, out.authorizationPolicies.lookup wnp.key = some ap ∧
      isControlledBy ap.ownerReferences wnp.uid = true ∧
      wnp.spec.istio.map populateIstioAuthorizationPolicySpec = some ap.spec ∧
      ap.spec.selector = some ⟨spec.matchLabels⟩ ∧ spec.matchExpressions = [] ∧
      ap.annotations.lookup istioDryRunAnnotationKey =
        if wnp.spec.mode = .monitor then some "true" else none

/-! ## The checked selector is the rendered one -/

lemma scopeSelector_kubernetes {wnp : WorkloadNetworkPolicy} {spec : LabelSelector} {k : NetworkPolicySpec}
    (hb : wnp.spec.backend = .kubernetes) (hk : wnp.spec.kubernetes = some k)
    (h : scopeSelector wnp = .ok spec) : k.podSelector = spec := by
  simp only [scopeSelector, getSelector, hb, hk] at h
  exact Except.ok.inj h

lemma scopeSelector_istio {wnp : WorkloadNetworkPolicy} {spec : LabelSelector}
    (hb : wnp.spec.backend = .istio) (h : scopeSelector wnp = .ok spec) :
    spec.matchExpressions = [] ∧ ∀ i, wnp.spec.istio = some i → spec.matchLabels = i.selector.matchLabels := by
  unfold scopeSelector getSelector at h
  cases hi : wnp.spec.istio with
  | none => simp [hb, hi] at h
  | some i =>
    simp only [hb, hi, if_true] at h
    rw [← Except.ok.inj h]
    exact ⟨rfl, fun i' hi' => by rw [Option.some.inj hi']⟩

/-! ## Rendering without an error -/

lemma reconcilePolicy_wnps {cl : Cluster} (env : Env cl) (wnp : WorkloadNetworkPolicy) :
    (reconcilePolicy env wnp).2.2.wnps = cl.wnps := by
  rcases reconcilePolicy_cases env wnp with ⟨e, he⟩ | ⟨c, -, -, ⟨-, -, hsame, -⟩ | ⟨-, heq, -⟩⟩
  · rw [he]
  · rw [hsame]
  · rw [heq, renderPolicy]
    split <;> rfl

lemma renderPolicy_protect {cl : Cluster} (env : Env cl) {wnp : WorkloadNetworkPolicy}
    (hb : wnp.spec.backend = .kubernetes) (hmode : wnp.spec.mode = .protect)
    (hok : (renderPolicy env wnp).1 = none) :
    ∃ np, (renderPolicy env wnp).2.networkPolicies.lookup wnp.key = some np ∧ RendersNetworkPolicy wnp np := by
  rw [renderPolicy_of_kubernetes env hb] at hok ⊢
  rcases reconcileK8sPolicy_cases env wnp with ⟨e, he⟩ | ⟨hm, -, -⟩ | ⟨-, hdone⟩
  · rw [he] at hok; cases hok
  · rw [hmode] at hm; cases hm
  · simpa [hmode] using hdone hok

/-! ## The verdict -/

/-- A stored `True` comes from a verdict `True` without a conflict, and from a rendering without an error. -/
lemma ready_inversion (w : World) (env : Env w.toCluster) {wnp : WorkloadNetworkPolicy}
    (hw : w.wnps.lookup wnp.key = some wnp) (hok : (reconcile w env wnp.key).1 = none)
    (hready : readyStatus (reconcile w env wnp.key).2 wnp.key = some .conditionTrue) :
    checkDuplicateTarget (env.reads .duplicates) wnp = .ok none ∧
      (∃ c, checkSelectorScope env.lib (env.reads .scope) wnp = .ok c ∧ c.status = .conditionTrue) ∧
      (renderPolicy env wnp).1 = none ∧
      SamePolicies (renderPolicy env wnp).2 (reconcile w env wnp.key).2.toCluster := by
  -- the stored status is the one of the condition the call ended with
  have hstatus : ∀ {c : Condition} {w' : World}, w'.wnps.lookup wnp.key = some wnp →
      c.type = conditionReady → reconcile w env wnp.key = updateReadyCondition env wnp c w' →
      c.status = .conditionTrue := by
    intro c w' hw' htype hres
    rw [hres] at hok hready
    obtain ⟨stored, ready, hstored, hfind, hs⟩ := updateReadyCondition_ok hw' htype hok
    rw [readyStatus, hstored] at hready
    simp only [hfind, Option.map_some, Option.some.injEq] at hready
    rw [← hs, hready]
  -- a conflict is never `True`
  have hconflict : ∀ {c : DuplicateTargetConflict} {w' : World}, w'.wnps.lookup wnp.key = some wnp →
      checkDuplicateTarget (env.reads .duplicates) wnp = .ok (some c) →
      reconcile w env wnp.key ≠ updateReadyCondition env wnp c.condition w' := by
    intro c w' hw' hdup hres
    obtain ⟨hfalse, htype, -⟩ := conflictIn_eq_some (checkDuplicateTarget_eq hdup).symm
    have htrue := hstatus hw' htype hres
    rw [hfalse] at htrue
    cases htrue
  rcases reconcile_ok env hw hok with ⟨c, hdup, -, hres⟩ | ⟨c, hdup, -, hpol, hres⟩
  · exact absurd hres (hconflict hw hdup)
  have hw' : ({ w with toCluster := (reconcilePolicy env wnp).2.2 } : World).wnps.lookup wnp.key = some wnp := by
    rw [← hw]
    exact congrArg (fun s => Store.lookup s wnp.key) (reconcilePolicy_wnps env wnp)
  cases c with
  | some c => exact absurd hres (hconflict hw' hdup)
  | none =>
    refine ⟨hdup, ?_⟩
    rcases reconcilePolicy_cases env wnp with ⟨e, he⟩ | ⟨c, hscope, htype, hout⟩
    · rw [he] at hpol; cases hpol
    have htrue : (reconcilePolicy env wnp).1.status = .conditionTrue := hstatus hw' htype hres
    rcases hout with ⟨-, -, -, hfalse⟩ | ⟨-, heq, hc⟩
    · rw [hfalse] at htrue; cases htrue
    rw [heq] at hpol
    refine ⟨⟨c, hscope, hc hpol ▸ htrue⟩, hpol, ?_⟩
    obtain ⟨hnp, hap⟩ := updateReadyCondition_frame env wnp (finalCondition env wnp none)
      { w with toCluster := (reconcilePolicy env wnp).2.2 }
    rw [hres]
    exact ⟨hnp.trans (by rw [heq]), hap.trans (by rw [heq])⟩

/-- **`Ready = True` is sound.**  Every pod the selector selects belongs to the target: its controller is
the target itself or, for a deployment, a replica set with the referenced UID that the target controls. -/
theorem reconcile_ready (w : World) (env : Env w.toCluster) (wnp : WorkloadNetworkPolicy)
    (hw : w.wnps.lookup wnp.key = some wnp) (hc : Complete wnp.spec.targetRef wnp.spec.direction)
    (hok : (reconcile w env wnp.key).1 = none)
    (hready : readyStatus (reconcile w env wnp.key).2 wnp.key = some .conditionTrue) :
    ∃ spec selector d, scopeSelector wnp = .ok spec ∧ env.lib.labelSelectorAsSelector spec = .ok selector ∧
      ReadyGuarantee w (reconcile w env wnp.key).2 wnp spec selector d := by
  obtain ⟨hdup, ⟨c, hscope, htrue⟩, hrender, hsame⟩ := ready_inversion w env hw hok hready
  obtain ⟨spec, selector, d, hspec, hsel, hin⟩ := checkSelectorScope_true hscope htrue
  refine ⟨spec, selector, d, hspec, hsel, ?_, hin, ?_, ?_, ?_⟩
  · intro v hv ht
    by_contra hne
    exact conflictIn_ne_none hw hc hv ht hne (checkDuplicateTarget_eq hdup).symm
  · intro hb hmode
    obtain ⟨np, hlook, hr⟩ := renderPolicy_protect env hb hmode hrender
    exact ⟨np, by rw [hsame.networkPolicies]; exact hlook, hr.controlled, hr.spec,
      scopeSelector_kubernetes hb hr.spec hspec⟩
  · intro hb hmode
    rw [hsame.networkPolicies]
    exact (renderPolicy_monitor env hmode hrender).1 hb
  · intro hb
    obtain ⟨ap, hlook, hr⟩ := renderPolicy_istio env hb hrender
    obtain ⟨hexpr, hlabels⟩ := scopeSelector_istio hb hspec
    refine ⟨ap, by rw [hsame.authorizationPolicies]; exact hlook, hr.controlled, hr.spec, ?_, hexpr, hr.dryRun⟩
    obtain ⟨i, hi, hap⟩ := Option.map_eq_some_iff.1 hr.spec
    rw [← hap, hlabels i hi]
    rfl

/-- One policy, its deployment, and a pod that the deployment controls without a replica set. -/
def directPodWorld : World where
  wnps := .ofList [shopPolicy "web-a" "u1" 1 .protect]
  deployments := .ofList [{ ns := "shop", name := "web", uid := "d1"
                            templateLabels := AList.singleton "app" "web" }]
  pods := .ofList [{ ns := "shop", name := "web-0", labels := AList.singleton "app" "web"
                     ownerReferences := [⟨appsGroupVersion, "Deployment", "web", "d1", some true⟩] }]

/-- The same with a second pod, which the deployment controls through a replica set. -/
def bothPodsWorld : World :=
  { directPodWorld with
    replicaSets := .ofList [{ ns := "shop", name := "web-5d4f7", uid := "r1"
                              ownerReferences := [⟨appsGroupVersion, "Deployment", "web", "d1", some true⟩] }]
    pods := directPodWorld.pods.put
      { ns := "shop", name := "web-5d4f7-x2x9k", labels := AList.singleton "app" "web"
        ownerReferences := [⟨appsGroupVersion, "ReplicaSet", "web-5d4f7", "r1", some true⟩] } }

/-- The guarantee on that world. -/
theorem reconcile_ready_direct :
    let wnp := shopPolicy "web-a" "u1" 1 .protect
    let env := Env.direct bothPodsWorld.toCluster 5
    ∃ spec selector d, scopeSelector wnp = .ok spec ∧ env.lib.labelSelectorAsSelector spec = .ok selector ∧
      ReadyGuarantee bothPodsWorld (reconcile bothPodsWorld env wnp.key).2 wnp spec selector d := by
  intro wnp env
  exact reconcile_ready bothPodsWorld env wnp rfl ⟨by decide, by decide, by decide⟩ (by decide) (by decide)

/-- **The controller of a pod need not be a replica set**: the verdict is `True`, the target is a
deployment, and the selected pod is controlled by the deployment directly, with no replica set at all. -/
theorem reconcile_ready_without_replicaSet :
    let wnp := shopPolicy "web-a" "u1" 1 .protect
    let out := reconcile directPodWorld (.direct _ 5) wnp.key
    out.1 = none ∧ readyStatus out.2 wnp.key = some .conditionTrue ∧
      wnp.spec.targetRef.kind = workloadKindDeployment ∧ directPodWorld.replicaSets.values = [] ∧
      ∃ pod ∈ directPodWorld.pods.values, pod.ns = wnp.ns ∧ pod.labels.lookup "app" = some "web" ∧
        (getControllerOf pod.ownerReferences).map (·.kind) = some "Deployment" := by
  intro wnp out
  refine ⟨by decide, by decide, rfl, rfl, _, List.mem_singleton_self _, rfl, by decide, by decide⟩

end NetworkEnforcer.Reconcile
