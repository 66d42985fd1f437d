import NetworkEnforcer.Reconcile.Election
import NetworkEnforcer.Reconcile.Scope

/-!
# What a call of `Reconcile` can do

One inversion lemma per function of the reconciler; later results cite these and unfold nothing.

* `reconcile_cases` — the exits of `Reconcile`;
* `reconcilePolicy_cases` — the exits of `reconcilePolicy`;
* `reconcileK8sPolicy_cases`, `reconcileIstioPolicy_cases` — what happens to the rendered object.
-/

namespace NetworkEnforcer.Reconcile

open NetworkEnforcer.Lib NetworkEnforcer.Api NetworkEnforcer.Workload

variable {cl : Cluster}

/-! ## The condition -/

section UpdateReadyCondition

variable (env : Env cl) (wnp : WorkloadNetworkPolicy) (c : Condition) (w : World)

/-- A status patch changes policies and counters only. -/
lemma updateReadyCondition_frame :
    (updateReadyCondition env wnp c w).2.networkPolicies = w.networkPolicies ∧
      (updateReadyCondition env wnp c w).2.authorizationPolicies = w.authorizationPolicies := by
  unfold updateReadyCondition
  simp only
  split
  · exact ⟨rfl, rfl⟩
  · split <;> exact ⟨rfl, rfl⟩

variable {env wnp c w}

/-- After an update that succeeds, the stored `Ready` condition has the given status. -/
lemma updateReadyCondition_ok (hw : w.wnps.lookup wnp.key = some wnp) (hc : c.type = conditionReady)
    (h : (updateReadyCondition env wnp c w).1 = none) :
    ∃ stored ready, (updateReadyCondition env wnp c w).2.wnps.lookup wnp.key = some stored ∧
      findStatusCondition stored.status.conditions conditionReady = some ready ∧
      ready.status = c.status := by
  obtain ⟨ready, hfind, hstatus⟩ := env.ctrl.setStatusCondition_find wnp.status.conditions c
  have hsame := @env.ctrl.setStatusCondition_unchanged wnp.status.conditions c
  rw [hc] at hfind
  rcases hset : env.ctrl.setStatusCondition wnp.status.conditions c with ⟨conditions, changed⟩
  rw [hset] at hfind hsame
  cases changed with
  | false =>
    -- nothing was patched: the condition was there before
    have heq : updateReadyCondition env wnp c w = (none, w) := by simp [updateReadyCondition, hset]
    rw [heq]
    exact ⟨wnp, ready, hw, hsame rfl ▸ hfind, hstatus⟩
  | true =>
    rcases hpatch : env.status.patch w.wnps wnp { wnp with status := { wnp.status with
      conditions := conditions } } with ⟨err, wnps⟩
    simp only [updateReadyCondition, hset, hpatch] at h ⊢
    cases err with
    | some e => cases h
    | none =>
      obtain ⟨stored, hstored, hcond⟩ := env.status.patch_ok (congrArg Prod.fst hpatch)
      rw [hpatch] at hstored
      have hready := hcond conditionReady
      rw [hfind] at hready
      obtain ⟨ready', hfind', hstatus'⟩ := Option.map_eq_some_iff.1 hready
      exact ⟨stored, ready', hstored, hfind', hstatus'.trans hstatus⟩

end UpdateReadyCondition

/-! ## Rendering -/

section Render

@[simp] lemma wrapped_fst_eq_none {S : Type} {context : String} {res : Option Err × S} :
    (wrapped context res).1 = none ↔ res.1 = none := by
  simp [wrapped]

/-- The network policy of a policy in protect mode. -/
structure RendersNetworkPolicy (wnp : WorkloadNetworkPolicy) (np : NetworkPolicy) : Prop where
  controlled : isControlledBy np.ownerReferences wnp.uid = true
  spec : wnp.spec.kubernetes = some np.spec

/-- The authorization policy of a policy, in its mode. -/
structure RendersAuthorizationPolicy (wnp : WorkloadNetworkPolicy) (ap : AuthorizationPolicy) : Prop where
  controlled : isControlledBy ap.ownerReferences wnp.uid = true
  spec : wnp.spec.istio.map populateIstioAuthorizationPolicySpec = some ap.spec
  dryRun : ap.annotations.lookup istioDryRunAnnotationKey =
    if wnp.spec.mode = .monitor then some "true" else none

/-- The object of the policy was absent, or the policy controlled it. -/
def Own {V : Type} {key : V → NamespacedName} (refs : V → List OwnerReference)
    (s : Store key) (wnp : WorkloadNetworkPolicy) : Prop :=
  ∀ o, s.lookup wnp.key = some o → isControlledBy (refs o) wnp.uid = true

/-- A change of one kind of object: none, or of the policy's own object. -/
structure OnlyOwn {V : Type} {key : V → NamespacedName} (refs : V → List OwnerReference)
    (wnp : WorkloadNetworkPolicy) (s s' : Store key) : Prop where
  others {k : NamespacedName} : k ≠ wnp.key → s'.lookup k = s.lookup k
  own : Own refs s wnp

section OwnObject

variable {V C : Type} {key : V → NamespacedName} {content : V → C}

lemma own_of_absent {refs : V → List OwnerReference} {s : Store key} {wnp : WorkloadNetworkPolicy}
    (h : s.lookup wnp.key = none) : Own refs s wnp := by
  intro o ho
  rw [h] at ho
  cases ho

lemma own_of_lookup {refs : V → List OwnerReference} {s : Store key} {wnp : WorkloadNetworkPolicy} {o : V}
    (h : s.lookup wnp.key = some o) (hctl : isControlledBy (refs o) wnp.uid = true) : Own refs s wnp := by
  intro o' ho'
  obtain rfl : o = o' := Option.some.inj (h.symm.trans ho')
  exact hctl

/-- What a write leaves, if the mutation sets all that `P` asks for. -/
lemma createOrUpdate_renders (w : ObjectWriter key content) {s : Store key} {obj : V}
    {mutate : V → Except Err V} {context : String} {k : NamespacedName} {P : V → Prop} (hk : key obj = k)
    (hP : ∀ old new stored, mutate old = .ok new → content stored = content new → P stored) :
    (∀ k', k' ≠ k → (wrapped context (w.createOrUpdate s obj mutate)).2.lookup k' = s.lookup k') ∧
      ((wrapped context (w.createOrUpdate s obj mutate)).1 = none → ∃ stored,
        (wrapped context (w.createOrUpdate s obj mutate)).2.lookup k = some stored ∧ P stored) := by
  subst hk
  refine ⟨fun k' hne => w.createOrUpdate_frame hne, fun h => ?_⟩
  obtain ⟨new, stored, hmut, hlook, hcontent⟩ := w.createOrUpdate_ok (wrapped_fst_eq_none.1 h)
  exact ⟨stored, hlook, hP _ new stored hmut hcontent⟩

end OwnObject

lemma reconcileProtect_spec (env : Env cl) {wnp : WorkloadNetworkPolicy} (np : NetworkPolicy)
    (hk : np.key = wnp.key) :
    (∀ k, k ≠ wnp.key → (reconcileProtect env wnp np).2.lookup k = cl.networkPolicies.lookup k) ∧
      ((reconcileProtect env wnp np).1 = none → ∃ stored,
        (reconcileProtect env wnp np).2.lookup wnp.key = some stored ∧ RendersNetworkPolicy wnp stored) := by
  unfold reconcileProtect
  cases hs : wnp.spec.kubernetes with
  | none => exact ⟨fun _ _ => rfl, fun h => by cases h⟩
  | some spec =>
    refine createOrUpdate_renders env.networkPolicies hk fun old new stored hmut hcontent => ?_
    unfold mutateNetworkPolicy at hmut
    split at hmut
    · cases hmut
    · rename_i refs hrefs
      obtain rfl := Except.ok.inj hmut
      simp only [networkPolicyContent, metaContent, Prod.mk.injEq] at hcontent
      refine ⟨?_, ?_⟩
      · rw [hcontent.2.2.2]
        exact env.ctrl.setControllerReference_ok hrefs
      · rw [hcontent.1, hs]

/-- **What happens to the network policy.** -/
theorem reconcileK8sPolicy_cases (env : Env cl) (wnp : WorkloadNetworkPolicy) :
    (∃ e, reconcileK8sPolicy env wnp = (some e, cl.networkPolicies)) ∨
    (wnp.spec.mode = .monitor ∧ cl.networkPolicies.lookup wnp.key = none ∧
      reconcileK8sPolicy env wnp = (none, cl.networkPolicies)) ∨
    (OnlyOwn (·.ownerReferences) wnp cl.networkPolicies (reconcileK8sPolicy env wnp).2 ∧
      ((reconcileK8sPolicy env wnp).1 = none →
        if wnp.spec.mode = .monitor then (reconcileK8sPolicy env wnp).2.lookup wnp.key = none
        else ∃ np, (reconcileK8sPolicy env wnp).2.lookup wnp.key = some np ∧
          RendersNetworkPolicy wnp np)) := by
  cases hg : (env.reads .render).getNetworkPolicy wnp.key with
  | error err =>
    cases hnf : err.isNotFound with
    | false =>
      exact .inl ⟨.wrap "failed to get NetworkPolicy" err, by simp [reconcileK8sPolicy, hg, hnf]⟩
    | true =>
      have habs := (env.reads .render).getNetworkPolicy_gets.notFound hg hnf
      by_cases hm : wnp.spec.mode = .monitor
      · exact .inr (.inl ⟨hm, habs, by simp [reconcileK8sPolicy, hg, hnf, hm]⟩)
      · obtain ⟨hframe, hok⟩ := reconcileProtect_spec env { ns := wnp.ns, name := wnp.name } rfl
        have heq : reconcileK8sPolicy env wnp = reconcileProtect env wnp { ns := wnp.ns, name := wnp.name } := by
          simp [reconcileK8sPolicy, hg, hnf, hm]
        rw [heq, if_neg hm]
        exact .inr (.inr ⟨⟨hframe _, own_of_absent habs⟩, hok⟩)
  | ok np =>
    have hlook := (env.reads .render).getNetworkPolicy_gets.ok hg
    have hkey : np.key = wnp.key := Store.key_of_lookup hlook
    cases hctl : isControlledBy np.ownerReferences wnp.uid with
    | false =>
      exact .inl ⟨.policyOwnershipConflict "NetworkPolicy" wnp.key, by simp [reconcileK8sPolicy, hg, hctl]⟩
    | true =>
      have hown : Own (·.ownerReferences) cl.networkPolicies wnp := own_of_lookup hlook hctl
      by_cases hm : wnp.spec.mode = .monitor
      · have heq : reconcileK8sPolicy env wnp = env.networkPolicies.delete cl.networkPolicies wnp.key := by
          simp [reconcileK8sPolicy, hg, hctl, hm, hkey]
        rw [heq, if_pos hm]
        exact .inr (.inr ⟨⟨env.networkPolicies.delete_frame, hown⟩, env.networkPolicies.delete_ok⟩)
      · obtain ⟨hframe, hok⟩ := reconcileProtect_spec env np hkey
        have heq : reconcileK8sPolicy env wnp = reconcileProtect env wnp np := by
          simp [reconcileK8sPolicy, hg, hctl, hm]
        rw [heq, if_neg hm]
        exact .inr (.inr ⟨⟨hframe _, hown⟩, hok⟩)

lemma renderAuthorizationPolicy_spec (env : Env cl) {wnp : WorkloadNetworkPolicy} (ap : AuthorizationPolicy)
    (hk : ap.key = wnp.key) :
    (∀ k, k ≠ wnp.key →
      (renderAuthorizationPolicy env wnp ap).2.lookup k = cl.authorizationPolicies.lookup k) ∧
      ((renderAuthorizationPolicy env wnp ap).1 = none → ∃ stored,
        (renderAuthorizationPolicy env wnp ap).2.lookup wnp.key = some stored ∧
          RendersAuthorizationPolicy wnp stored) := by
  unfold renderAuthorizationPolicy
  cases hs : wnp.spec.istio with
  | none => exact ⟨fun _ _ => rfl, fun h => by cases h⟩
  | some spec =>
    refine createOrUpdate_renders env.authorizationPolicies hk fun old new stored hmut hcontent => ?_
    unfold mutateAuthorizationPolicy at hmut
    simp only at hmut
    split at hmut
    · cases hmut
    · rename_i refs hrefs
      obtain rfl := Except.ok.inj hmut
      simp only [authorizationPolicyContent, metaContent, Prod.mk.injEq] at hcontent
      obtain ⟨hspec, -, hann, hrefs'⟩ := hcontent
      refine ⟨?_, ?_, ?_⟩
      · rw [hrefs']
        exact env.ctrl.setControllerReference_ok hrefs
      · rw [hspec, hs]
        rfl
      · rw [hann]
        split <;> simp

/-- **What happens to the authorization policy.** -/
theorem reconcileIstioPolicy_cases (env : Env cl) (wnp : WorkloadNetworkPolicy) :
    (∃ e, reconcileIstioPolicy env wnp = (some e, cl.authorizationPolicies)) ∨
    (OnlyOwn (·.ownerReferences) wnp cl.authorizationPolicies (reconcileIstioPolicy env wnp).2 ∧
      ((reconcileIstioPolicy env wnp).1 = none →
        ∃ ap, (reconcileIstioPolicy env wnp).2.lookup wnp.key = some ap ∧
          RendersAuthorizationPolicy wnp ap)) := by
  cases hg : (env.reads .render).getAuthorizationPolicy wnp.key with
  | error err =>
    cases hnf : err.isNotFound with
    | false =>
      exact .inl ⟨.wrap "failed to get AuthorizationPolicy" err, by simp [reconcileIstioPolicy, hg, hnf]⟩
    | true =>
      have habs := (env.reads .render).getAuthorizationPolicy_gets.notFound hg hnf
      obtain ⟨hframe, hok⟩ :=
        renderAuthorizationPolicy_spec env { ns := wnp.ns, name := wnp.name } rfl
      have heq : reconcileIstioPolicy env wnp =
          renderAuthorizationPolicy env wnp { ns := wnp.ns, name := wnp.name } := by
        simp [reconcileIstioPolicy, hg, hnf]
      rw [heq]
      exact .inr ⟨⟨hframe _, own_of_absent habs⟩, hok⟩
  | ok ap =>
    have hlook := (env.reads .render).getAuthorizationPolicy_gets.ok hg
    have hkey : ap.key = wnp.key := Store.key_of_lookup hlook
    cases hctl : isControlledBy ap.ownerReferences wnp.uid with
    | false =>
      exact .inl ⟨.policyOwnershipConflict "AuthorizationPolicy" wnp.key, by
        simp [reconcileIstioPolicy, hg, hctl]⟩
    | true =>
      obtain ⟨hframe, hok⟩ := renderAuthorizationPolicy_spec env ap hkey
      have heq : reconcileIstioPolicy env wnp = renderAuthorizationPolicy env wnp ap := by
        simp [reconcileIstioPolicy, hg, hctl]
      rw [heq]
      exact .inr ⟨⟨hframe _, own_of_lookup hlook hctl⟩, hok⟩

lemma renderPolicy_of_kubernetes (env : Env cl) {wnp : WorkloadNetworkPolicy}
    (hb : wnp.spec.backend = .kubernetes) :
    renderPolicy env wnp =
      ((reconcileK8sPolicy env wnp).1, { cl with networkPolicies := (reconcileK8sPolicy env wnp).2 }) := by
  simp [renderPolicy, hb]

lemma renderPolicy_of_istio (env : Env cl) {wnp : WorkloadNetworkPolicy} (hb : wnp.spec.backend = .istio) :
    renderPolicy env wnp = ((reconcileIstioPolicy env wnp).1,
      { cl with authorizationPolicies := (reconcileIstioPolicy env wnp).2 }) := by
  simp [renderPolicy, hb]

/-- On Istio the rendered object is stored in either mode. -/
lemma renderPolicy_istio (env : Env cl) {wnp : WorkloadNetworkPolicy} (hb : wnp.spec.backend = .istio)
    (hok : (renderPolicy env wnp).1 = none) :
    ∃ ap, (renderPolicy env wnp).2.authorizationPolicies.lookup wnp.key = some ap ∧
      RendersAuthorizationPolicy wnp ap := by
  rw [renderPolicy_of_istio env hb] at hok ⊢
  rcases reconcileIstioPolicy_cases env wnp with ⟨e, he⟩ | ⟨-, hdone⟩
  · rw [he] at hok; cases hok
  · exact hdone hok

end Render

/-! ## One policy -/

/-- A retained policy never makes the verdict better. -/
lemma checkRetainedPolicyScope_ok {lib : Apimachinery} {r : Reader cl} {wnp : WorkloadNetworkPolicy}
    {mismatch c : Condition} (htype : mismatch.type = conditionReady)
    (hstatus : mismatch.status = .conditionFalse)
    (h : checkRetainedPolicyScope lib r wnp mismatch = .ok c) :
    c.type = conditionReady ∧ c.status = .conditionFalse := by
  unfold checkRetainedPolicyScope at h
  split at h
  · cases h
  · obtain rfl := Except.ok.inj h
    exact ⟨htype, hstatus⟩
  split at h
  · cases h
  split at h
  · cases h
  split at h
  · cases h
  simp only at h
  split at h <;> (obtain rfl := Except.ok.inj h; exact ⟨rfl, rfl⟩)

/-- The ways a verdict becomes the result of `reconcilePolicy`. -/
inductive PolicyOutcome (env : Env cl) (wnp : WorkloadNetworkPolicy) (c : Condition) : Prop where
  /-- In protect mode a selector that misses its target stops the rendering. -/
  | retained : c.reason = reasonSelectorDoesNotMatchTarget → wnp.spec.mode ≠ .monitor →
      (reconcilePolicy env wnp).2.2 = cl → (reconcilePolicy env wnp).1.status = .conditionFalse →
      PolicyOutcome env wnp c
  /-- Otherwise the object is rendered, and the verdict stands if that succeeds. -/
  | rendered : ¬ (c.reason = reasonSelectorDoesNotMatchTarget ∧ wnp.spec.mode ≠ .monitor) →
      (reconcilePolicy env wnp).2 = renderPolicy env wnp →
      ((renderPolicy env wnp).1 = none → (reconcilePolicy env wnp).1 = c) → PolicyOutcome env wnp c

/-- **The exits of `reconcilePolicy`.** -/
theorem reconcilePolicy_cases (env : Env cl) (wnp : WorkloadNetworkPolicy) :
    (∃ e, reconcilePolicy env wnp = ({}, some e, cl)) ∨
    (∃ c, checkSelectorScope env.lib (env.reads .scope) wnp = .ok c ∧
      (reconcilePolicy env wnp).1.type = conditionReady ∧ PolicyOutcome env wnp c) := by
  cases hscope : checkSelectorScope env.lib (env.reads .scope) wnp with
  | error e => exact .inl ⟨e, by simp [reconcilePolicy, hscope]⟩
  | ok c =>
    obtain ⟨spec, selector, templates, overlaps, -, -, -, -, hc⟩ := checkSelectorScope_ok hscope
    have htype : c.type = conditionReady := by rw [hc, selectorScopeCondition_type]
    refine .inr ⟨c, rfl, ?_⟩
    by_cases hmis : c.reason = reasonSelectorDoesNotMatchTarget ∧ wnp.spec.mode ≠ .monitor
    · have hstatus : c.status = .conditionFalse := by
        obtain ⟨hf, hm⟩ := selectorScopeCondition_reason.1 (hc ▸ hmis.1)
        simp [hc, selectorScopeCondition, hf, hm, readyCondition]
      have hcond : (c.reason = reasonSelectorDoesNotMatchTarget && wnp.spec.mode ≠ .monitor) = true := by
        simpa using hmis
      cases hret : checkRetainedPolicyScope env.lib (env.reads .retained) wnp c with
      | error e =>
        have heq : reconcilePolicy env wnp = (c, some e, cl) := by
          simp only [reconcilePolicy, hscope, if_pos hcond, hret]
        exact ⟨by rw [heq]; exact htype, .retained hmis.1 hmis.2 (by rw [heq]) (by rw [heq]; exact hstatus)⟩
      | ok c' =>
        have heq : reconcilePolicy env wnp = (c', none, cl) := by
          simp only [reconcilePolicy, hscope, if_pos hcond, hret]
        obtain ⟨ht', hs'⟩ := checkRetainedPolicyScope_ok htype hstatus hret
        exact ⟨by rw [heq]; exact ht', .retained hmis.1 hmis.2 (by rw [heq]) (by rw [heq]; exact hs')⟩
    · have hcond : ¬ (c.reason = reasonSelectorDoesNotMatchTarget && wnp.spec.mode ≠ .monitor) = true := by
        simpa using hmis
      rcases hrender : renderPolicy env wnp with ⟨err, cl'⟩
      cases err with
      | some e =>
        have heq : reconcilePolicy env wnp = (renderFailedCondition wnp e, some e, cl') := by
          simp only [reconcilePolicy, hscope, if_neg hcond, hrender]
        exact ⟨by rw [heq]; rfl, .rendered hmis (by rw [heq, hrender]) (by rw [hrender]; intro h; cases h)⟩
      | none =>
        have heq : reconcilePolicy env wnp = (c, none, cl') := by
          simp only [reconcilePolicy, hscope, if_neg hcond, hrender]
        exact ⟨by rw [heq]; exact htype, .rendered hmis (by rw [heq, hrender]) (by rw [heq]; simp)⟩

/-! ## The call -/

/-- The condition that is stored: a conflict takes precedence. -/
def finalCondition (env : Env cl) (wnp : WorkloadNetworkPolicy) (c : Option DuplicateTargetConflict) :
    Condition :=
  (c.map (·.condition)).getD (reconcilePolicy env wnp).1

/-- The ways a call on a stored policy ends. -/
inductive CallOutcome (w : World) (env : Env w.toCluster) (wnp : WorkloadNetworkPolicy)
    (res : Option Err × World) : Prop where
  /-- The duplicates could not be listed. -/
  | failed (e : Err) : res = (some e, w) → CallOutcome w env wnp res
  /-- The policy lost the election. -/
  | loser (c : DuplicateTargetConflict) : checkDuplicateTarget (env.reads .duplicates) wnp = .ok (some c) →
      c.winner = false → res = updateReadyCondition env wnp c.condition w → CallOutcome w env wnp res
  /-- The scope could not be evaluated. -/
  | unevaluated (e : Err) : (∃ c, checkDuplicateTarget (env.reads .duplicates) wnp = .ok c) →
      res = (some e, w) → CallOutcome w env wnp res
  /-- The policy was evaluated, and the condition updated. -/
  | evaluated (c : Option DuplicateTargetConflict) (out : Option Err × World) :
      checkDuplicateTarget (env.reads .duplicates) wnp = .ok c → (∀ x, c = some x → x.winner = true) →
      out = updateReadyCondition env wnp (finalCondition env wnp c)
        { w with toCluster := (reconcilePolicy env wnp).2.2 } →
      res = (joinErrors (reconcilePolicy env wnp).2.1 out.1, out.2) → CallOutcome w env wnp res

/-- **The exits of `Reconcile`.** -/
theorem reconcile_cases (w : World) (env : Env w.toCluster) {req : NamespacedName}
    {wnp : WorkloadNetworkPolicy} (hget : (env.reads .fetch).getWNP req = .ok wnp) :
    CallOutcome w env wnp (reconcile w env req) := by
  cases hdup : checkDuplicateTarget (env.reads .duplicates) wnp with
  | error e => exact .failed e (by simp [reconcile, hget, hdup])
  | ok c =>
    cases c with
    | some c =>
      cases hwin : c.winner with
      | false => exact .loser c hdup hwin (by simp [reconcile, hget, hdup, hwin])
      | true =>
        refine .evaluated (some c) _ hdup (fun x hx => Option.some.inj hx ▸ hwin) rfl ?_
        simp [reconcile, hget, hdup, hwin, finalCondition]
    | none =>
      rcases reconcilePolicy_cases env wnp with ⟨e, he⟩ | ⟨c, -, htype, -⟩
      · exact .unevaluated e ⟨none, hdup⟩ (by simp [reconcile, hget, hdup, he])
      · refine .evaluated none _ hdup (fun x hx => by cases hx) rfl ?_
        have hne : (reconcilePolicy env wnp).1.type ≠ "" := by rw [htype]; decide
        simp [reconcile, hget, hdup, hne, finalCondition]

end NetworkEnforcer.Reconcile
