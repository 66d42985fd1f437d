import NetworkEnforcer.Reconcile.Direct
import NetworkEnforcer.Reconcile.Outcome

/-!
# What `Reconcile` leaves alone, and what monitor mode leaves behind

* `reconcile_frame` — no object is touched but the policy's own one on its own backend, and that one
  only if it was absent or controlled by the policy; a loser of the election and a policy in protect
  mode whose selector misses its target touch nothing.
* `reconcile_monitor` — a policy in monitor mode that does not lose the election leaves no object that
  enforces.  A loser does not get that far: what it rendered before it lost stays
  (`reconcile_monitor_loser_keeps`).
-/

namespace NetworkEnforcer.Reconcile

open NetworkEnforcer.Lib NetworkEnforcer.Api NetworkEnforcer.Workload
open NetworkEnforcer.Attribution (groupVersion workloadNetworkPolicyKind)

/-- Neither kind of data-plane object changed. -/
structure SamePolicies (cl cl' : Cluster) : Prop where
  networkPolicies : cl'.networkPolicies = cl.networkPolicies
  authorizationPolicies : cl'.authorizationPolicies = cl.authorizationPolicies

/-- Only the policy's own object changed, and it was the policy's to change. -/
structure OwnPolicyOnly (wnp : WorkloadNetworkPolicy) (cl cl' : Cluster) : Prop where
  /-- A network policy of another name, or of a policy of another backend, is as before. -/
  networkPolicies {k : NamespacedName} : k ≠ wnp.key ∨ wnp.spec.backend ≠ .kubernetes →
    cl'.networkPolicies.lookup k = cl.networkPolicies.lookup k
  authorizationPolicies {k : NamespacedName} : k ≠ wnp.key ∨ wnp.spec.backend ≠ .istio →
    cl'.authorizationPolicies.lookup k = cl.authorizationPolicies.lookup k
  /-- If the own object changed, it was absent or controlled by the policy. -/
  ownNetworkPolicy : cl'.networkPolicies.lookup wnp.key ≠ cl.networkPolicies.lookup wnp.key →
    Own (·.ownerReferences) cl.networkPolicies wnp
  ownAuthorizationPolicy :
    cl'.authorizationPolicies.lookup wnp.key ≠ cl.authorizationPolicies.lookup wnp.key →
      Own (·.ownerReferences) cl.authorizationPolicies wnp

lemma SamePolicies.ownPolicyOnly {cl cl' : Cluster} (h : SamePolicies cl cl')
    (wnp : WorkloadNetworkPolicy) : OwnPolicyOnly wnp cl cl' where
  networkPolicies _ := by rw [h.networkPolicies]
  authorizationPolicies _ := by rw [h.authorizationPolicies]
  ownNetworkPolicy hne := absurd (by rw [h.networkPolicies]) hne
  ownAuthorizationPolicy hne := absurd (by rw [h.authorizationPolicies]) hne

section Cluster

variable {cl : Cluster} (env : Env cl) {wnp : WorkloadNetworkPolicy}

/-- A selector is only ever found on a supported backend. -/
lemma backend_of_checkSelectorScope {lib : Apimachinery} {r : Reader cl} {c : Condition}
    (h : checkSelectorScope lib r wnp = .ok c) :
    wnp.spec.backend = .kubernetes ∨ wnp.spec.backend = .istio := by
  obtain ⟨spec, -, -, -, hspec, -⟩ := checkSelectorScope_ok h
  unfold scopeSelector getSelector at hspec
  cases hb : wnp.spec.backend with
  | kubernetes => exact .inl rfl
  | istio => exact .inr rfl
  | other name => simp [hb] at hspec

/-- Rendering touches the own object only. -/
lemma renderPolicy_ownPolicyOnly (hb : wnp.spec.backend = .kubernetes ∨ wnp.spec.backend = .istio) :
    OwnPolicyOnly wnp cl (renderPolicy env wnp).2 := by
  rcases hb with hb | hb
  · rw [renderPolicy_of_kubernetes env hb]
    rcases reconcileK8sPolicy_cases env wnp with ⟨e, he⟩ | ⟨-, -, he⟩ | ⟨honly, -⟩
    · rw [he]; exact SamePolicies.ownPolicyOnly ⟨rfl, rfl⟩ wnp
    · rw [he]; exact SamePolicies.ownPolicyOnly ⟨rfl, rfl⟩ wnp
    · exact ⟨fun h => honly.others (h.resolve_right (absurd hb)), fun _ => rfl, fun _ => honly.own,
        fun h => absurd rfl h⟩
  · rw [renderPolicy_of_istio env hb]
    rcases reconcileIstioPolicy_cases env wnp with ⟨e, he⟩ | ⟨honly, -⟩
    · rw [he]; exact SamePolicies.ownPolicyOnly ⟨rfl, rfl⟩ wnp
    · exact ⟨fun _ => rfl, fun h => honly.others (h.resolve_right (absurd hb)), fun h => absurd rfl h,
        fun _ => honly.own⟩

lemma reconcilePolicy_ownPolicyOnly (wnp : WorkloadNetworkPolicy) : OwnPolicyOnly wnp cl (reconcilePolicy env wnp).2.2 := by
  rcases reconcilePolicy_cases env wnp with ⟨e, he⟩ | ⟨c, hscope, -, hout⟩
  · rw [he]; exact SamePolicies.ownPolicyOnly ⟨rfl, rfl⟩ wnp
  · rcases hout with ⟨-, -, hsame, -⟩ | ⟨-, heq, -⟩
    · rw [hsame]; exact SamePolicies.ownPolicyOnly ⟨rfl, rfl⟩ wnp
    · rw [heq]; exact renderPolicy_ownPolicyOnly env (backend_of_checkSelectorScope hscope)

/-- In protect mode a selector that misses its target renders nothing. -/
lemma reconcilePolicy_mismatch {spec : LabelSelector} {selector : Labels → Bool} {d : Workload}
    (hmode : wnp.spec.mode = .protect) (hspec : scopeSelector wnp = .ok spec)
    (hsel : env.lib.labelSelectorAsSelector spec = .ok selector)
    (hd : HasWorkload cl wnp.ns wnp.spec.targetRef.kind d) (hname : d.name = wnp.spec.targetRef.name)
    (hmis : selector d.templateLabels = false) : (reconcilePolicy env wnp).2.2 = cl := by
  rcases reconcilePolicy_cases env wnp with ⟨e, he⟩ | ⟨c, hscope, -, hout⟩
  · rw [he]
  · rcases hout with ⟨-, -, hsame, -⟩ | ⟨hnot, -, -⟩
    · exact hsame
    · refine absurd ⟨checkSelectorScope_mismatch hscope hspec hsel hd hname hmis, ?_⟩ hnot
      rw [hmode]
      decide

end Cluster

/-! ## The whole call -/

section Call

variable {w : World} (env : Env w.toCluster) {wnp : WorkloadNetworkPolicy}

/-- A stored policy is what `Get` returns, if it returns anything. -/
lemma getWNP_eq (hw : w.wnps.lookup wnp.key = some wnp) :
    (env.reads .fetch).getWNP wnp.key = .ok wnp ∨
      ∃ e, e.isNotFound = false ∧ (env.reads .fetch).getWNP wnp.key = .error e := by
  cases hg : (env.reads .fetch).getWNP wnp.key with
  | ok v =>
    have := (env.reads .fetch).getWNP_gets.ok hg
    rw [hw] at this
    rw [Option.some.inj this]
    exact .inl rfl
  | error e =>
    refine .inr ⟨e, ?_, rfl⟩
    by_contra hnf
    have := (env.reads .fetch).getWNP_gets.notFound hg (by simpa using hnf)
    rw [hw] at this
    cases this

/-- The data-plane objects after a call: as before, or as `reconcilePolicy` left them. -/
lemma reconcile_policies (hw : w.wnps.lookup wnp.key = some wnp) :
    SamePolicies w.toCluster (reconcile w env wnp.key).2.toCluster ∨
      (¬ Loses w.toCluster wnp ∧
        SamePolicies (reconcilePolicy env wnp).2.2 (reconcile w env wnp.key).2.toCluster) := by
  rcases getWNP_eq env hw with hget | ⟨e, hnf, he⟩
  · rcases reconcile_cases w env hget with ⟨e, hres⟩ | ⟨c, -, -, hres⟩ | ⟨e, -, hres⟩ | ⟨c, out, hdup, hwin, hout, hres⟩
    · rw [hres]; exact .inl ⟨rfl, rfl⟩
    · rw [hres]
      obtain ⟨h1, h2⟩ := updateReadyCondition_frame env wnp c.condition w
      exact .inl ⟨h1, h2⟩
    · rw [hres]; exact .inl ⟨rfl, rfl⟩
    · rw [hres, hout]
      obtain ⟨h1, h2⟩ := updateReadyCondition_frame env wnp (finalCondition env wnp c)
        { w with toCluster := (reconcilePolicy env wnp).2.2 }
      refine .inr ⟨fun hl => ?_, h1, h2⟩
      obtain ⟨x, hx, hfalse⟩ := winner_eq_false_of_loses hw hl hdup
      rw [hwin x hx] at hfalse
      cases hfalse
  · have : reconcile w env wnp.key = (some e, w) := by simp [reconcile, he, ignoreNotFound, hnf]
    rw [this]
    exact .inl ⟨rfl, rfl⟩

/-- A call without an error stopped at the election, or evaluated the policy without one. -/
lemma reconcile_ok (hw : w.wnps.lookup wnp.key = some wnp) (hok : (reconcile w env wnp.key).1 = none) :
    (∃ c, checkDuplicateTarget (env.reads .duplicates) wnp = .ok (some c) ∧ c.winner = false ∧
      reconcile w env wnp.key = updateReadyCondition env wnp c.condition w) ∨
    (∃ c, checkDuplicateTarget (env.reads .duplicates) wnp = .ok c ∧ (∀ x, c = some x → x.winner = true) ∧
      (reconcilePolicy env wnp).2.1 = none ∧
      reconcile w env wnp.key = updateReadyCondition env wnp (finalCondition env wnp c)
        { w with toCluster := (reconcilePolicy env wnp).2.2 }) := by
  rcases getWNP_eq env hw with hget | ⟨e, hnf, he⟩
  · rcases reconcile_cases w env hget with
      ⟨e, hres⟩ | ⟨c, hdup, hwin, hres⟩ | ⟨e, -, hres⟩ | ⟨c, out, hdup, hwin, hout, hres⟩
    · rw [hres] at hok; cases hok
    · exact .inl ⟨c, hdup, hwin, hres⟩
    · rw [hres] at hok; cases hok
    · rw [hres, joinErrors_eq_none] at hok
      refine .inr ⟨c, hdup, hwin, hok.1, ?_⟩
      rw [hres, ← hout, hok.1]
      rfl
  · simp [reconcile, he, ignoreNotFound, hnf] at hok

/-- What rendering leaves behind in monitor mode. -/
lemma renderPolicy_monitor {cl : Cluster} (env : Env cl) {wnp : WorkloadNetworkPolicy}
    (hmode : wnp.spec.mode = .monitor) (hok : (renderPolicy env wnp).1 = none) :
    (wnp.spec.backend = .kubernetes → (renderPolicy env wnp).2.networkPolicies.lookup wnp.key = none) ∧
      (wnp.spec.backend = .istio → ∃ ap,
        (renderPolicy env wnp).2.authorizationPolicies.lookup wnp.key = some ap ∧
          ap.annotations.lookup istioDryRunAnnotationKey = some "true") := by
  constructor
  · intro hb
    rw [renderPolicy_of_kubernetes env hb] at hok ⊢
    rcases reconcileK8sPolicy_cases env wnp with ⟨e, he⟩ | ⟨-, habs, he⟩ | ⟨-, hdone⟩
    · rw [he] at hok; cases hok
    · rw [he]; exact habs
    · simpa [hmode] using hdone hok
  · intro hb
    obtain ⟨ap, hap, hr⟩ := renderPolicy_istio env hb hok
    exact ⟨ap, hap, by rw [hr.dryRun, if_pos hmode]⟩

end Call

/-- A policy of the deployment `web`, on the kubernetes backend. -/
def shopPolicy (name uid : String) (created : Time) (mode : WorkloadNetworkPolicyMode) :
    WorkloadNetworkPolicy where
  ns := "shop"
  name := name
  uid := uid
  creationTimestamp := created
  spec := { backend := .kubernetes
            kubernetes := some { podSelector := { matchLabels := AList.singleton "app" "web" }
                                 policyTypes := [.ingress] }
            targetRef := ⟨workloadKindDeployment, "web"⟩
            direction := .ingress
            mode := mode }

/-- A network policy that `wnp` has rendered. -/
def shopNetworkPolicy (wnp : WorkloadNetworkPolicy) : NetworkPolicy where
  ns := wnp.ns
  name := wnp.name
  ownerReferences := [⟨groupVersion, workloadNetworkPolicyKind, wnp.name, wnp.uid, some true⟩]
  spec := wnp.spec.kubernetes.getD {}

/-- Two policies of one deployment; the younger one is in monitor mode and has rendered before. -/
def contestedWorld : World where
  wnps := .ofList [shopPolicy "web-a" "u1" 1 .protect, shopPolicy "web-b" "u2" 2 .monitor]
  deployments := .ofList [{ ns := "shop", name := "web", uid := "d1"
                            templateLabels := AList.singleton "app" "web" }]
  networkPolicies := .ofList [shopNetworkPolicy (shopPolicy "web-b" "u2" 2 .monitor)]

/-- **Foreign policies are never touched.**  Whatever the cluster holds and whichever calls fail,
`Reconcile` of a stored policy changes no data-plane object but the policy's own, and that only if it was
absent or controlled by the policy; it changes none when the policy loses the election, and none in
protect mode when the selector does not match the target. -/
theorem reconcile_frame (w : World) (env : Env w.toCluster) (wnp : WorkloadNetworkPolicy)
    (hw : w.wnps.lookup wnp.key = some wnp) :
    OwnPolicyOnly wnp w.toCluster (reconcile w env wnp.key).2.toCluster ∧
      (Loses w.toCluster wnp → SamePolicies w.toCluster (reconcile w env wnp.key).2.toCluster) ∧
      (∀ spec selector d, wnp.spec.mode = .protect → scopeSelector wnp = .ok spec →
        env.lib.labelSelectorAsSelector spec = .ok selector →
        HasWorkload w.toCluster wnp.ns wnp.spec.targetRef.kind d → d.name = wnp.spec.targetRef.name →
        selector d.templateLabels = false →
          SamePolicies w.toCluster (reconcile w env wnp.key).2.toCluster) := by
  rcases reconcile_policies env hw with hsame | ⟨hwin, hsame⟩
  · exact ⟨hsame.ownPolicyOnly wnp, fun _ => hsame, fun _ _ _ _ _ _ _ _ _ => hsame⟩
  · refine ⟨?_, fun hl => absurd hl hwin, ?_⟩
    · have hown := reconcilePolicy_ownPolicyOnly env wnp
      refine ⟨?_, ?_, ?_, ?_⟩
      · rw [hsame.networkPolicies]; exact hown.networkPolicies
      · rw [hsame.authorizationPolicies]; exact hown.authorizationPolicies
      · rw [hsame.networkPolicies]; exact hown.ownNetworkPolicy
      · rw [hsame.authorizationPolicies]; exact hown.ownAuthorizationPolicy
    · intro spec selector d hmode hspec hsel hd hname hmis
      rw [← reconcilePolicy_mismatch env hmode hspec hsel hd hname hmis]
      exact hsame

/-- The younger of two policies touches nothing. -/
theorem reconcile_frame_contested :
    let wnp := shopPolicy "web-b" "u2" 2 .monitor
    let out := (reconcile contestedWorld (.direct _ 5) wnp.key).2
    Loses contestedWorld.toCluster wnp ∧ SamePolicies contestedWorld.toCluster out.toCluster := by
  intro wnp out
  have hl : Loses contestedWorld.toCluster wnp := by
    have hrival : contestedWorld.wnps.lookup ⟨"shop", "web-a"⟩ = some (shopPolicy "web-a" "u1" 1 .protect) := rfl
    exact ⟨⟨by decide, by decide, by decide⟩, _, Store.mem_of_lookup hrival, by decide, by decide⟩
  exact ⟨hl, (reconcile_frame contestedWorld (.direct _ 5) wnp rfl).2.1 hl⟩

/-! ## Monitor mode -/

/-- **Monitor mode does not enforce**, for a policy that does not lose the duplicate-target election
(targets being of the kinds the API admits): after a call without an error its network policy is
absent, and its authorization policy is a dry run. -/
theorem reconcile_monitor (w : World) (env : Env w.toCluster) (wnp : WorkloadNetworkPolicy)
    (hw : w.wnps.lookup wnp.key = some wnp)
    (hkinds : ∀ v ∈ w.wnps.values, v.spec.targetRef.kind ∈ supportedKinds)
    (hmode : wnp.spec.mode = .monitor) (hwin : ¬ Loses w.toCluster wnp)
    (hok : (reconcile w env wnp.key).1 = none) :
    (wnp.spec.backend = .kubernetes →
      (reconcile w env wnp.key).2.networkPolicies.lookup wnp.key = none) ∧
    (wnp.spec.backend = .istio → ∀ ap,
      (reconcile w env wnp.key).2.authorizationPolicies.lookup wnp.key = some ap →
        ap.annotations.lookup istioDryRunAnnotationKey = some "true") := by
  rcases reconcile_ok env hw hok with ⟨c, hdup, hfalse, -⟩ | ⟨c, -, -, hpol, hres⟩
  · have hu := unambiguous_of_supportedKinds wnp.spec.direction
      (hkinds wnp (Store.mem_of_lookup hw)) hkinds
    rw [winner_of_not_loses hw hu hwin hdup] at hfalse
    cases hfalse
  · obtain ⟨hnp, hap⟩ := updateReadyCondition_frame env wnp (finalCondition env wnp c)
      { w with toCluster := (reconcilePolicy env wnp).2.2 }
    rw [hres, hnp, hap]
    rcases reconcilePolicy_cases env wnp with ⟨e, he⟩ | ⟨c, -, -, ⟨-, hprotect, -, -⟩ | ⟨-, heq, -⟩⟩
    · rw [he] at hpol; cases hpol
    · exact absurd hmode hprotect
    · rw [heq] at hpol ⊢
      obtain ⟨hk, hi⟩ := renderPolicy_monitor env hmode hpol
      refine ⟨hk, fun hb ap hlook => ?_⟩
      obtain ⟨ap', hlook', hdry⟩ := hi hb
      rw [hlook'] at hlook
      rw [← Option.some.inj hlook]
      exact hdry

/-- The network policy of a policy that was put into monitor mode is deleted. -/
theorem reconcile_monitor_deletes :
    let wnp := shopPolicy "web-b" "u2" 2 .monitor
    let w : World := { networkPolicies := .ofList [shopNetworkPolicy wnp], wnps := .ofList [wnp] }
    (reconcile w (.direct _ 5) wnp.key).2.networkPolicies.lookup wnp.key = none := by
  intro wnp w
  have hself : ∀ v ∈ w.wnps.values, v = wnp := fun v hv => List.mem_singleton.1 hv
  refine (reconcile_monitor w (.direct _ 5) wnp rfl ?_ rfl ?_ (by decide)).1 rfl
  · intro v hv
    rw [hself v hv]
    decide
  · rintro ⟨-, v, hv, -, hold⟩
    rw [hself v hv] at hold
    exact absurd hold (by decide)

/-- **A loser in monitor mode keeps enforcing**: the call returns no error, and the network policy that
the younger policy controls is still there. -/
theorem reconcile_monitor_loser_keeps :
    let wnp := shopPolicy "web-b" "u2" 2 .monitor
    let out := reconcile contestedWorld (.direct _ 5) wnp.key
    contestedWorld.wnps.lookup wnp.key = some wnp ∧ wnp.spec.mode = .monitor ∧ out.1 = none ∧
      ∃ np, out.2.networkPolicies.lookup wnp.key = some np ∧
        isControlledBy np.ownerReferences wnp.uid = true := by
  intro wnp out
  exact ⟨rfl, rfl, by decide, shopNetworkPolicy wnp, rfl, by decide⟩

end NetworkEnforcer.Reconcile
