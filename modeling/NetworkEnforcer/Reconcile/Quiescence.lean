import NetworkEnforcer.Reconcile.Ready
import NetworkEnforcer.Reconcile.Writes

/-!
# An idle controller has nothing left to do

`Verdict` is what a call of `Reconcile` works towards, as a relation on the cluster alone: the condition that
belongs on the policy, with the data-plane object that belongs to it.  A policy is `Settled` if it carries that
condition and has that object.

The invariant of every run is that each policy is attended: it is settled, or a request for it waits, or the
worker is on it and what it has read so far still holds (`Attended`).  A step keeps it, because a policy for
which a step adds no request is not affected by the step (`unaffected_of_not_requested` for the changes of
others, `unaffected_of_written` for the writes of the worker).  So once the queue is empty and the worker is idle
every policy is settled (`idle_settled`), and no `Ready = True` is stale (`idle_ready`).

All this is for policies whose objects are watched (`Watches.Cover`).  If Istio was not installed when the
controller was set up, the object of an Istio policy can go without a request (`unwatched_deletion`).
-/

namespace NetworkEnforcer.Reconcile

open NetworkEnforcer.Lib NetworkEnforcer.Api NetworkEnforcer.Workload
open NetworkEnforcer.Attribution (wnpTargetKey)

/-! ## What a call works towards -/

/-- The object of a policy is as the mode of the policy demands.  In monitor mode an object under its name may be
there that somebody else controls. -/
structure Rendered (cl : Cluster) (wnp : WorkloadNetworkPolicy) : Prop where
  protect : wnp.spec.backend = .kubernetes → wnp.spec.mode = .protect →
    ∃ np, (cl.visibleTo wnp).networkPolicies.lookup wnp.key = some np ∧ RendersNetworkPolicy wnp np
  monitor : wnp.spec.backend = .kubernetes → wnp.spec.mode = .monitor →
    (cl.visibleTo wnp).networkPolicies.lookup wnp.key = none
  istio : wnp.spec.backend = .istio →
    ∃ ap, (cl.visibleTo wnp).authorizationPolicies.lookup wnp.key = some ap ∧ RendersAuthorizationPolicy wnp ap

/-- The policy may render. -/
def Elected (cl : Cluster) (wnp : WorkloadNetworkPolicy) : Prop := ∀ c, conflictIn cl wnp = some c → c.winner = true

/-- The scope verdict keeps a policy in protect mode from rendering. -/
def misses (wnp : WorkloadNetworkPolicy) (c : Condition) : Bool :=
  c.reason = reasonSelectorDoesNotMatchTarget && wnp.spec.mode ≠ .monitor

/-- A conflict takes the place of the condition. -/
def reported (cl : Cluster) (wnp : WorkloadNetworkPolicy) (c : Condition) : Condition :=
  ((conflictIn cl wnp).map (·.condition)).getD c

/-- The condition that belongs on a policy, where the cluster has what belongs to the policy. -/
inductive Verdict (lib : Apimachinery) (cl : Cluster) (wnp : WorkloadNetworkPolicy) : Condition → Prop
  | loser {c : DuplicateTargetConflict} : conflictIn cl wnp = some c → c.winner = false →
      Verdict lib cl wnp c.condition
  | retained {c c' : Condition} : Elected cl wnp → scopeIn lib cl wnp = .ok c → misses wnp c = true →
      retainedScopeIn lib cl wnp c = .ok c' → Verdict lib cl wnp (reported cl wnp c')
  | rendered {c : Condition} : Elected cl wnp → scopeIn lib cl wnp = .ok c → misses wnp c = false →
      Rendered cl wnp → Verdict lib cl wnp (reported cl wnp c)

/-- The policy carries its condition. -/
def Settled (lib : Apimachinery) (cl : Cluster) (wnp : WorkloadNetworkPolicy) : Prop :=
  ∃ c, Verdict lib cl wnp c ∧
    (findStatusCondition wnp.status.conditions conditionReady).map conditionView = some (conditionView c)

lemma type_of_scopeIn {lib : Apimachinery} {cl : Cluster} {wnp : WorkloadNetworkPolicy} {c : Condition}
    (h : scopeIn lib cl wnp = .ok c) : c.type = conditionReady := by
  obtain ⟨_, _, _, _, -, -, -, -, rfl⟩ := checkSelectorScope_ok h
  exact selectorScopeCondition_type ..

lemma status_of_misses {lib : Apimachinery} {cl : Cluster} {wnp : WorkloadNetworkPolicy} {c : Condition}
    (h : scopeIn lib cl wnp = .ok c) (hm : misses wnp c = true) : c.status = .conditionFalse := by
  obtain ⟨_, _, _, _, -, -, -, -, rfl⟩ := checkSelectorScope_ok h
  rw [misses, Bool.and_eq_true, decide_eq_true_eq] at hm
  obtain ⟨hf, hn⟩ := selectorScopeCondition_reason.1 hm.1
  simp [selectorScopeCondition, hf, hn, readyCondition]

lemma type_reported {cl : Cluster} {wnp : WorkloadNetworkPolicy} {c : Condition} (h : c.type = conditionReady) :
    (reported cl wnp c).type = conditionReady := by
  unfold reported
  cases hc : conflictIn cl wnp with
  | none => exact h
  | some x => exact (conflictIn_eq_some hc).2.1

lemma Verdict.type_eq {lib : Apimachinery} {cl : Cluster} {wnp : WorkloadNetworkPolicy} {c : Condition}
    (h : Verdict lib cl wnp c) : c.type = conditionReady := by
  cases h with
  | loser hc => exact (conflictIn_eq_some hc).2.1
  | retained _ hscope hm hret =>
    refine type_reported (checkRetainedPolicyScope_ok (type_of_scopeIn hscope) ?_ hret).1
    exact status_of_misses hscope hm
  | rendered _ hscope => exact type_reported (type_of_scopeIn hscope)

/-- The controller watches the objects that the policy renders. -/
def Watches.Cover (watches : Watches) (wnp : WorkloadNetworkPolicy) : Prop :=
  watches.authorizationPolicies = true ∨ wnp.spec.backend = .kubernetes

/-! ## What does not affect a policy -/

/-- Between the two clusters nothing changed that a call on the policy looks at. -/
structure Unaffected (cl cl' : Cluster) (wnp : WorkloadNetworkPolicy) : Prop where
  conflict : conflictIn cl wnp = conflictIn cl' wnp
  view : SameView (cl.visibleTo wnp) (cl'.visibleTo wnp)

section Unaffected

variable {lib : Apimachinery} (hlib : LooksUpLabels lib) {cl cl' : Cluster} {wnp : WorkloadNetworkPolicy}

lemma Unaffected.elected (h : Unaffected cl cl' wnp) (he : Elected cl wnp) : Elected cl' wnp := by
  intro c hc
  exact he c (h.conflict.trans hc)

lemma Unaffected.rendered (h : Unaffected cl cl' wnp) (hr : Rendered cl wnp) : Rendered cl' wnp where
  protect := h.view.networkPolicies ▸ hr.protect
  monitor := h.view.networkPolicies ▸ hr.monitor
  istio := h.view.authorizationPolicies ▸ hr.istio

include hlib

/-- **A verdict stands as long as nothing affects the policy.** -/
lemma Verdict.congr (h : Unaffected cl cl' wnp) {c : Condition} (hv : Verdict lib cl wnp c) :
    Verdict lib cl' wnp c := by
  have hreported : ∀ c, reported cl wnp c = reported cl' wnp c := by
    intro c
    rw [reported, reported, h.conflict]
  cases hv with
  | loser hc hwin => exact .loser (h.conflict.symm.trans hc) hwin
  | retained he hscope hm hret =>
    rw [hreported]
    exact .retained (h.elected he) ((scopeIn_congr hlib h.view).symm.trans hscope) hm
      ((retainedScopeIn_congr hlib h.view _).symm.trans hret)
  | rendered he hscope hm hr =>
    rw [hreported]
    exact .rendered (h.elected he) ((scopeIn_congr hlib h.view).symm.trans hscope) hm (h.rendered hr)

lemma Settled.congr (h : Unaffected cl cl' wnp) (hs : Settled lib cl wnp) : Settled lib cl' wnp := by
  obtain ⟨c, hv, hc⟩ := hs
  exact ⟨c, hv.congr hlib h, hc⟩

end Unaffected

/-! ### Changes of others -/

lemma SameView.visibleTo {cl cl' : Cluster} (h : SameView cl cl') (wnp : WorkloadNetworkPolicy) :
    SameView (cl.visibleTo wnp) (cl'.visibleTo wnp) where
  deployments := h.deployments.filter fun _ _ => congrArg fun k : NamespacedName => decide (k.ns = wnp.ns)
  statefulSets := h.statefulSets.filter fun _ _ => congrArg fun k : NamespacedName => decide (k.ns = wnp.ns)
  daemonSets := h.daemonSets.filter fun _ _ => congrArg fun k : NamespacedName => decide (k.ns = wnp.ns)
  replicaSets := h.replicaSets.filter fun _ _ => congrArg fun k : NamespacedName => decide (k.ns = wnp.ns)
  pods := h.pods.filter fun _ _ => congrArg fun k : NamespacedName => decide (k.ns = wnp.ns)
  networkPolicies := by simp only [Cluster.visibleTo, h.networkPolicies]
  authorizationPolicies := by simp only [Cluster.visibleTo, h.authorizationPolicies]

/-- An event of another namespace cannot be seen. -/
lemma WatchedEvent.sameView_of_ns_ne {cl cl' : Cluster} {e : WatchedEvent} (he : e.Between cl cl')
    {wnp : WorkloadNetworkPolicy} (hns : e.ns ≠ wnp.ns) : SameView (cl.visibleTo wnp) (cl'.visibleTo wnp) := by
  have hrefl := SameView.refl (cl.visibleTo wnp)
  have hother : ∀ {O : Type} {key : O → NamespacedName} {s s' : Store key} {ev : Event O} (nsOf : O → String),
      (∀ x, (key x).ns = nsOf x) → ev.Between s s' → nsOf ev.object ≠ wnp.ns → ∀ x ∈ ev.objects,
        decide (nsOf x = wnp.ns) = false := by
    intro O key s s' ev nsOf hkey hb hne x hx
    rw [decide_eq_false_iff_not, ← hkey x, hb.key_eq hx, hkey]
    exact hne
  cases e with
  | deployment e =>
    obtain ⟨he, hcl⟩ := he
    rw [hcl]
    have hobj : e.object.ns ≠ wnp.ns := by cases e <;> exact hns
    exact { hrefl with deployments := he.sameBy_filter (hother (·.ns) (fun _ => rfl) he hobj) }
  | statefulSet e =>
    obtain ⟨he, hcl⟩ := he
    rw [hcl]
    have hobj : e.object.ns ≠ wnp.ns := by cases e <;> exact hns
    exact { hrefl with statefulSets := he.sameBy_filter (hother (·.ns) (fun _ => rfl) he hobj) }
  | daemonSet e =>
    obtain ⟨he, hcl⟩ := he
    rw [hcl]
    have hobj : e.object.ns ≠ wnp.ns := by cases e <;> exact hns
    exact { hrefl with daemonSets := he.sameBy_filter (hother (·.ns) (fun _ => rfl) he hobj) }
  | replicaSet e =>
    obtain ⟨he, hcl⟩ := he
    rw [hcl]
    have hobj : e.object.ns ≠ wnp.ns := by cases e <;> exact hns
    exact { hrefl with replicaSets := he.sameBy_filter (hother (·.ns) (fun _ => rfl) he hobj) }
  | pod e =>
    obtain ⟨he, hcl⟩ := he
    rw [hcl]
    have hobj : e.object.ns ≠ wnp.ns := by cases e <;> exact hns
    exact { hrefl with pods := he.sameBy_filter (hother (·.ns) (fun _ => rfl) he hobj) }

lemma WatchedEvent.Between.wnps_eq {cl cl' : Cluster} {e : WatchedEvent} (he : e.Between cl cl') :
    cl'.wnps = cl.wnps := by
  cases e <;> rw [he.2]

lemma conflictIn_of_wnps_eq {cl cl' : Cluster} (h : cl'.wnps = cl.wnps) (wnp : WorkloadNetworkPolicy) :
    conflictIn cl wnp = conflictIn cl' wnp := by
  unfold conflictIn indexed
  rw [h]

section Owned

variable {V : Type} {key : V → NamespacedName} {s s' : Store key} {wnp : WorkloadNetworkPolicy}

/-- The one object of a policy is the same in two stores if neither holds such an object. -/
lemma only_eq_of_none {p : V → Bool}
    (h : s'.lookup wnp.key = s.lookup wnp.key ∨
      (∀ o, s.lookup wnp.key = some o ∨ s'.lookup wnp.key = some o → p o = false)) :
    s.only wnp.key p = s'.only wnp.key p := by
  have hnone : ∀ o : Option V, (∀ x, o = some x → p x = false) → o.filter p = none := by
    rintro (_ | x) hx
    · rfl
    · simp [hx x rfl]
  unfold Store.only
  rcases h with h | h
  · rw [h]
  · rw [hnone _ fun x hx => h x (.inl hx), hnone _ fun x hx => h x (.inr hx)]

/-- An object that the policy controls has a controller reference with its UID. -/
lemma exists_ref_of_controls {refs : List OwnerReference} (h : controls wnp refs = true) :
    ∃ ref, getControllerOf refs = some ref ∧ ref.uid = wnp.uid := by
  unfold controls isControlledBy at h
  split at h
  · rename_i ref href
    exact ⟨ref, href, of_decide_eq_true h⟩
  · cases h

lemma mem_enqueueRequestForOwner {O : Type} {f : O → ObjectMeta} {e : Event O} {x : O} (hx : x ∈ e.objects)
    {k : NamespacedName} (hk : k ∈ ownerRequests (f x)) : k ∈ enqueueRequestForOwner (e.map f) := by
  refine List.mem_flatMap.2 ⟨f x, ?_, hk⟩
  cases e with
  | create obj =>
    obtain rfl := List.mem_singleton.1 hx
    exact List.mem_singleton_self _
  | update old new =>
    rcases Event.mem_objects.1 hx with h | h
    · obtain rfl := Option.some.inj h
      exact Event.mem_objects.2 (.inl rfl)
    · obtain rfl := Option.some.inj h
      exact Event.mem_objects.2 (.inr rfl)
  | delete obj =>
    obtain rfl := List.mem_singleton.1 hx
    exact List.mem_singleton_self _

/-- An event that is not reported to the policy leaves the object of the policy. -/
lemma only_eq_of_not_requested {p : V → Bool} {f : V → ObjectMeta} {e : Event V} (he : e.Between s s')
    (hreq : ∀ o, o ∈ s.values ∨ o ∈ s'.values → p o = true → wnp.key ∈ ownerRequests (f o))
    (hnot : wnp.key ∉ enqueueRequestForOwner (e.map f)) : s.only wnp.key p = s'.only wnp.key p := by
  refine only_eq_of_none ?_
  by_cases hk : wnp.key = key e.object
  · right
    rintro o (ho | ho)
    · by_contra hc
      refine hnot (mem_enqueueRequestForOwner (he.mem_before (hk ▸ ho)) ?_)
      exact hreq o (.inl (Store.mem_of_lookup ho)) (Bool.eq_true_of_not_eq_false hc)
    · by_contra hc
      refine hnot (mem_enqueueRequestForOwner (he.mem_after (hk ▸ ho)) ?_)
      exact hreq o (.inr (Store.mem_of_lookup ho)) (Bool.eq_true_of_not_eq_false hc)
  · exact .inl (he.frame hk)

end Owned

section NotRequested

variable {policyOf : String → Option NamespacedName} {cl cl' : Cluster} {wnp : WorkloadNetworkPolicy}

/-- Who controls an object is among the requests for it. -/
lemma requested_of_controls_np (ht : Truthful policyOf cl) (hw : wnp ∈ cl.wnps.values) {np : NetworkPolicy}
    (hnp : np ∈ cl.networkPolicies.values) (hc : controlsNetworkPolicy wnp np = true) :
    wnp.key ∈ ownerRequests np.toObjectMeta := by
  obtain ⟨ref, href, huid⟩ := exists_ref_of_controls (Bool.and_eq_true_iff.1 hc).2
  exact ht.networkPolicies hnp href (huid ▸ ht.policies hw)

@[inherit_doc requested_of_controls_np]
lemma requested_of_controls_ap (ht : Truthful policyOf cl) (hw : wnp ∈ cl.wnps.values) {ap : AuthorizationPolicy}
    (hap : ap ∈ cl.authorizationPolicies.values) (hc : controlsAuthorizationPolicy wnp ap = true) :
    wnp.key ∈ ownerRequests ap.toObjectMeta := by
  obtain ⟨ref, href, huid⟩ := exists_ref_of_controls (Bool.and_eq_true_iff.1 hc).2
  exact ht.authorizationPolicies hap href (huid ▸ ht.policies hw)

/-- A policy of the kubernetes backend has no authorization policy. -/
lemma controlsAuthorizationPolicy_of_kubernetes (hb : wnp.spec.backend = .kubernetes) (ap : AuthorizationPolicy) :
    controlsAuthorizationPolicy wnp ap = false := by
  simp [controlsAuthorizationPolicy, hb]

/-- **Who is not requested is not affected**, by the change of another party. -/
theorem unaffected_of_not_requested {e : ClusterEvent} (he : e.Between cl cl') (hserved : e.Served)
    (ht : Truthful policyOf cl) (ht' : Truthful policyOf cl') {inf : Informer cl'} (hw : wnp ∈ cl'.wnps.values)
    {watches : Watches} (hcover : watches.Cover wnp) (hnot : wnp.key ∉ e.requests watches inf) :
    wnp ∈ cl.wnps.values ∧ Unaffected cl cl' wnp := by
  cases e with
  | policy e =>
    obtain ⟨he, hcl⟩ := he
    simp only [ClusterEvent.requests, enqueueRequestForObject, List.mem_append, List.mem_singleton, not_or] at hnot
    obtain ⟨hother, hsiblings⟩ := hnot
    have hold : wnp ∈ cl.wnps.values := (he.mem_values_iff hother).1 hw
    refine ⟨hold, ?_, ?_⟩
    · by_contra hne
      cases hacc : duplicateTargetAccepts e with
      | true =>
        rw [hacc, if_pos rfl] at hsiblings
        exact hsiblings (enqueued_of_conflictIn_ne he hold hother hne inf.answers.listWNPsByTarget)
      | false =>
        obtain ⟨old, new, rfl, -⟩ := Event.exists_of_accepts_map_eq_false hacc
        exact hne (conflictIn_of_rejected he hacc (hserved old new rfl) wnp)
    · rw [hcl]
      exact .refl _
  | watched e =>
    have hwnps : cl'.wnps = cl.wnps := WatchedEvent.Between.wnps_eq he
    refine ⟨hwnps ▸ hw, conflictIn_of_wnps_eq hwnps wnp, ?_⟩
    cases hacc : e.accepted with
    | false => exact (WatchedEvent.sameView_of_rejected he hserved hacc).visibleTo wnp
    | true =>
      apply WatchedEvent.sameView_of_ns_ne he
      rintro hns
      obtain ⟨items, hitems, hperm⟩ := inf.lists e.ns
      refine hnot ?_
      simp only [ClusterEvent.requests, hacc, if_true]
      apply WatchedEvent.mem_requests hitems
      rw [hperm.mem_iff, List.mem_filter]
      exact ⟨hw, decide_eq_true hns.symm⟩
  | networkPolicy e =>
    obtain ⟨he, hcl⟩ := he
    have hwnps : cl'.wnps = cl.wnps := by rw [hcl]
    have hold : wnp ∈ cl.wnps.values := hwnps ▸ hw
    have honly := only_eq_of_not_requested (f := (·.toObjectMeta)) he (fun np hnp hc =>
      hnp.elim (requested_of_controls_np ht hold · hc) (requested_of_controls_np ht' hw · hc)) hnot
    refine ⟨hold, conflictIn_of_wnps_eq hwnps wnp, ?_⟩
    rw [hcl]
    exact { SameView.refl (cl.visibleTo wnp) with networkPolicies := honly }
  | authorizationPolicy e =>
    obtain ⟨he, hcl⟩ := he
    have hwnps : cl'.wnps = cl.wnps := by rw [hcl]
    have hold : wnp ∈ cl.wnps.values := hwnps ▸ hw
    have honly : cl.authorizationPolicies.only wnp.key (controlsAuthorizationPolicy wnp) =
        cl'.authorizationPolicies.only wnp.key (controlsAuthorizationPolicy wnp) := by
      rcases hcover with hwatch | hb
      · simp only [ClusterEvent.requests, hwatch, if_true] at hnot
        exact only_eq_of_not_requested (f := (·.toObjectMeta)) he (fun ap hap hc =>
          hap.elim (requested_of_controls_ap ht hold · hc) (requested_of_controls_ap ht' hw · hc)) hnot
      · exact only_eq_of_none (.inr fun ap _ => controlsAuthorizationPolicy_of_kubernetes hb ap)
    refine ⟨hold, conflictIn_of_wnps_eq hwnps wnp, ?_⟩
    rw [hcl]
    exact { SameView.refl (cl.visibleTo wnp) with authorizationPolicies := honly }

end NotRequested

/-! ### Writes of the worker -/

/-- Policies that are seen alike have the same conflicts. -/
lemma conflictIn_of_sameBy {cl cl' : Cluster} (h : Store.SameBy keptByPatch cl.wnps cl'.wnps)
    (wnp : WorkloadNetworkPolicy) : conflictIn cl wnp = conflictIn cl' wnp := by
  have hsub : ∀ {cl cl' : Cluster}, Store.SameBy keptByPatch cl.wnps cl'.wnps → ∀ (ns target : String) a,
      a ∈ (indexed cl ns target).map age → a ∈ (indexed cl' ns target).map age := by
    intro cl cl' h ns target a ha
    obtain ⟨v, hv, rfl⟩ := List.mem_map.1 ha
    obtain ⟨hv, htarget⟩ := mem_indexed.1 hv
    obtain ⟨v', hv', hkey, hkept⟩ := h.exists_like hv
    simp only [keptByPatch, Prod.mk.injEq] at hkept
    obtain ⟨-, -, htime, hspec⟩ := hkept
    have hns : v'.ns = v.ns := congrArg NamespacedName.ns hkey
    have hname : v'.name = v.name := congrArg NamespacedName.name hkey
    refine List.mem_map.2 ⟨v', mem_indexed.2 ⟨hv', ?_⟩, ?_⟩
    · rw [← htarget, wnpTargetKey, wnpTargetKey, hspec, hns]
    · rw [age, age, htime, hname]
  exact conflictIn_congr fun target _ a => ⟨hsub h _ _ a, hsub h.symm _ _ a⟩

section Writes

variable {policyOf : String → Option NamespacedName} {cl cl' : Cluster} {key : NamespacedName}
  {wnp : WorkloadNetworkPolicy}

/-- A write that is not reported to the policy leaves the object of the policy. -/
lemma only_eq_of_not_written {V : Type} [DecidableEq V] {keyOf : V → NamespacedName} {s s' : Store keyOf}
    {requests : Event V → List NamespacedName} {p : V → Bool} {f : V → ObjectMeta}
    (hrequests : ∀ e, requests e = enqueueRequestForOwner (e.map f))
    (hframe : ∀ {k}, k ≠ key → s'.lookup k = s.lookup k)
    (hreq : ∀ o, o ∈ s.values ∨ o ∈ s'.values → p o = true → wnp.key ∈ ownerRequests (f o))
    (hnot : wnp.key ∉ ((Event.ofChange s s' key).map requests).getD []) :
    s.only wnp.key p = s'.only wnp.key p := by
  cases hc : Event.ofChange s s' key with
  | none =>
    refine only_eq_of_none (.inl ?_)
    by_cases hk : wnp.key = key
    · rw [hk]
      exact Event.lookup_of_ofChange_eq_none hc
    · exact hframe hk
  | some e =>
    rw [hc, Option.map_some, Option.getD_some, hrequests] at hnot
    exact only_eq_of_not_requested (Event.between_of_ofChange hc fun _ => hframe).1 hreq hnot

/-- **Who is not requested is not affected**, by what the worker writes. -/
theorem unaffected_of_written (h : Written key cl cl') (ht : Truthful policyOf cl) (ht' : Truthful policyOf cl')
    {inf : Informer cl'} (hw : wnp ∈ cl'.wnps.values) {watches : Watches} (hcover : watches.Cover wnp)
    (hnot : wnp.key ∉ writeRequests watches cl inf key) : wnp ∈ cl.wnps.values ∧ Unaffected cl cl' wnp := by
  simp only [writeRequests, List.mem_append, not_or] at hnot
  obtain ⟨⟨hpolicy, hnp⟩, hap⟩ := hnot
  -- a change of the policy itself is reported by `For`
  have hold : wnp ∈ cl.wnps.values := by
    rw [Store.mem_values] at hw ⊢
    rw [← hw, eq_comm]
    by_cases hk : wnp.key = key
    · cases hc : Event.ofChange cl.wnps cl'.wnps key with
      | none =>
        rw [hk]
        exact Event.lookup_of_ofChange_eq_none hc
      | some e =>
        have hobj := (Event.between_of_ofChange hc fun _ => h.wnps).2
        rw [hc] at hpolicy
        refine absurd ?_ hpolicy
        simp only [Option.map_some, Option.getD_some, ClusterEvent.requests, enqueueRequestForObject,
          List.mem_append, List.mem_singleton]
        exact .inl (hk.trans hobj.symm)
    · exact h.wnps hk
  refine ⟨hold, conflictIn_of_sameBy h.sameBy wnp, ?_⟩
  have hnps := only_eq_of_not_written (f := NetworkPolicy.toObjectMeta) (fun _ => rfl) h.networkPolicies
    (fun np hmem hc => hmem.elim (requested_of_controls_np ht hold · hc) (requested_of_controls_np ht' hw · hc)) hnp
  have haps : cl.authorizationPolicies.only wnp.key (controlsAuthorizationPolicy wnp) =
      cl'.authorizationPolicies.only wnp.key (controlsAuthorizationPolicy wnp) := by
    rcases hcover with hwatch | hb
    · exact only_eq_of_not_written (f := AuthorizationPolicy.toObjectMeta) (fun _ => if_pos hwatch)
        h.authorizationPolicies (fun ap hmem hc =>
          hmem.elim (requested_of_controls_ap ht hold · hc) (requested_of_controls_ap ht' hw · hc)) hap
    · exact only_eq_of_none (.inr fun ap _ => controlsAuthorizationPolicy_of_kubernetes hb ap)
  rw [h.rest]
  exact { SameView.refl (cl.visibleTo wnp) with networkPolicies := hnps, authorizationPolicies := haps }

end Writes

/-! ## Jobs -/

/-- What the job has read still holds. -/
def Job.Valid (lib : Apimachinery) (cl : Cluster) : Job → Prop
  | .start _ => True
  | .fetched wnp => wnp ∈ cl.wnps.values
  | .elected wnp conflict => wnp ∈ cl.wnps.values ∧ conflict = conflictIn cl wnp ∧ Elected cl wnp
  | .checked wnp conflict condition =>
    wnp ∈ cl.wnps.values ∧ (conflict = conflictIn cl wnp ∧ Elected cl wnp) ∧ scopeIn lib cl wnp = .ok condition
  | .decided wnp condition err => wnp ∈ cl.wnps.values ∧ (err = none → Verdict lib cl wnp condition)

section Jobs

variable {lib : Apimachinery} {cl cl' : Cluster} {wnp : WorkloadNetworkPolicy}

/-- A job stays valid as long as nothing affects its policy. -/
lemma Job.Valid.congr (hlib : LooksUpLabels lib) {job : Job} (hvalid : job.Valid lib cl)
    (hw : wnp ∈ cl.wnps.values) (hw' : wnp ∈ cl'.wnps.values) (hk : job.key = wnp.key)
    (h : Unaffected cl cl' wnp) : job.Valid lib cl' := by
  cases job with
  | start req => trivial
  | fetched v =>
    obtain rfl := Store.eq_of_key_eq hvalid hw hk
    exact hw'
  | elected v conflict =>
    obtain ⟨hv, hc, he⟩ := hvalid
    obtain rfl := Store.eq_of_key_eq hv hw hk
    exact ⟨hw', hc.trans h.conflict, h.elected he⟩
  | checked v conflict condition =>
    obtain ⟨hv, ⟨hc, he⟩, hscope⟩ := hvalid
    obtain rfl := Store.eq_of_key_eq hv hw hk
    exact ⟨hw', ⟨hc.trans h.conflict, h.elected he⟩, (scopeIn_congr hlib h.view).symm.trans hscope⟩
  | decided v condition err =>
    obtain ⟨hv, hverdict⟩ := hvalid
    obtain rfl := Store.eq_of_key_eq hv hw hk
    exact ⟨hw', fun he => (hverdict he).congr hlib h⟩

end Jobs

/-! ### What a part of a call makes of the job -/

/-- After a part of a call on the policy: what is left of the job is valid, or the policy is settled, or the call
has failed and is tried again. -/
def Progress.Attends (lib : Apimachinery) (cl : Cluster) (wnp : WorkloadNetworkPolicy) : Progress → Prop
  | .next job => job.key = wnp.key ∧ job.Valid lib cl
  | .done none => Settled lib cl wnp
  | .done (some _) => True

section Parts

variable {lib : Apimachinery} {cl : Cluster} {wnp : WorkloadNetworkPolicy}

lemma afterPolicy_attends (hw : wnp ∈ cl.wnps.values) {conflict : Option DuplicateTargetConflict}
    (hconflict : conflict = conflictIn cl wnp) {condition : Condition} {err : Option Err}
    (hempty : condition.type = "" → err ≠ none)
    (hverdict : err = none → Verdict lib cl wnp (reported cl wnp condition)) :
    (afterPolicy wnp conflict condition err).Attends lib cl wnp := by
  unfold afterPolicy
  split
  · rename_i h
    rw [Bool.and_eq_true, decide_eq_true_eq] at h
    obtain ⟨e, rfl⟩ := Option.ne_none_iff_exists'.1 (hempty h.1)
    trivial
  · rw [hconflict]
    exact ⟨rfl, hw, hverdict⟩

/-- A part that fails is tried again. -/
lemma afterPolicy_failed (hw : wnp ∈ cl.wnps.values) {conflict : Option DuplicateTargetConflict}
    (hconflict : conflict = conflictIn cl wnp) (condition : Condition) (err : Err) :
    (afterPolicy wnp conflict condition (some err)).Attends lib cl wnp :=
  afterPolicy_attends hw hconflict (fun _ => Option.some_ne_none _) fun h => absurd h (Option.some_ne_none _)

/-- A successful rendering leaves the object that the policy demands. -/
lemma renderPolicy_rendered {env : Env cl} (hok : (renderPolicy env wnp).1 = none) :
    Rendered (renderPolicy env wnp).2 wnp where
  protect hb hmode := by
    obtain ⟨np, hnp, hr⟩ := renderPolicy_protect env hb hmode hok
    refine ⟨np, ?_, hr⟩
    have honly := Store.lookup_only (renderPolicy env wnp).2.networkPolicies wnp.key
      (controlsNetworkPolicy wnp) wnp.key
    rw [if_pos rfl, hnp] at honly
    exact honly.trans (by simp [controlsNetworkPolicy, controls, hb, hr.controlled])
  monitor hb hmode := by
    have hnone := (renderPolicy_monitor env hmode hok).1 hb
    have honly := Store.lookup_only (renderPolicy env wnp).2.networkPolicies wnp.key
      (controlsNetworkPolicy wnp) wnp.key
    rw [if_pos rfl, hnone] at honly
    exact honly
  istio hb := by
    obtain ⟨ap, hap, hr⟩ := renderPolicy_istio env hb hok
    refine ⟨ap, ?_, hr⟩
    have honly := Store.lookup_only (renderPolicy env wnp).2.authorizationPolicies wnp.key
      (controlsAuthorizationPolicy wnp) wnp.key
    rw [if_pos rfl, hap] at honly
    exact honly.trans (by simp [controlsAuthorizationPolicy, controls, hb, hr.controlled])

/-- A condition that was written without an error, and without changing the policy, was there. -/
lemma updateReadyCondition_settled {w : World} {env : Env w.toCluster} (hkeeps : env.KeepsConditions)
    {c : Condition} (htype : c.type = conditionReady) (hok : (updateReadyCondition env wnp c w).1 = none)
    (hw' : wnp ∈ (updateReadyCondition env wnp c w).2.wnps.values) :
    (findStatusCondition wnp.status.conditions conditionReady).map conditionView = some (conditionView c) := by
  unfold updateReadyCondition at hok hw'
  simp only at hok hw'
  split at hok
  · rename_i hset
    rw [← htype]
    exact hkeeps.unchanged (by rw [hset])
  · rename_i conditions hset
    split at hok
    · cases hok
    · rename_i wnps hpatch
      rw [hset] at hw'
      simp only [hpatch] at hw'
      have hlookup : (env.status.patch w.wnps wnp
          { wnp with status := { wnp.status with conditions := conditions } }).2.lookup wnp.key = some wnp := by
        rw [hpatch]
        exact Store.mem_values.1 hw'
      have hstored := hkeeps.patched (by rw [hpatch]) hlookup c.type
      rw [← htype, hstored]
      have hfind := hkeeps.set wnp.status.conditions c
      rw [hset] at hfind
      exact hfind

end Parts

section Advance

variable {w w' : World} {env : Env w.toCluster} {wnp : WorkloadNetworkPolicy}

lemma advance_decided (w : World) (env : Env w.toCluster) (wnp : WorkloadNetworkPolicy) (condition : Condition)
    (err : Option Err) : advance w env (.decided wnp condition err) =
      ((updateReadyCondition env wnp condition w).2,
        .done (joinErrors err (updateReadyCondition env wnp condition w).1)) := rfl

/-- The part that renders the policy, or looks at what an earlier call has rendered. -/
lemma advance_checked_attends (hlib : LooksUpLabels env.lib) {conflict : Option DuplicateTargetConflict}
    {condition : Condition} {progress : Progress}
    (h : advance w env (.checked wnp conflict condition) = (w', progress))
    (hc : conflict = conflictIn w.toCluster wnp)
    (he : ∀ c, conflictIn w.toCluster wnp = some c → c.winner = true)
    (hscope : scopeIn env.lib w.toCluster wnp = .ok condition) (hw : wnp ∈ w.wnps.values) (hw' : wnp ∈ w'.wnps.values)
    (hun : Unaffected w.toCluster w'.toCluster wnp) : progress.Attends env.lib w'.toCluster wnp := by
  have htype : condition.type ≠ "" := by
    rw [type_of_scopeIn hscope]
    decide
  simp only [advance] at h
  split at h
  · rename_i hmis
    split at h <;> obtain ⟨rfl, rfl⟩ := Prod.mk.inj h
    · exact afterPolicy_failed hw hc _ _
    · rename_i retained hret
      have hretained := checkRetainedPolicyScope_eq_retainedScopeIn hlib hret
      refine afterPolicy_attends hw hc (fun hempty => ?_) fun _ => .retained he hscope hmis hretained
      rw [(checkRetainedPolicyScope_ok (type_of_scopeIn hscope) (status_of_misses hscope hmis) hret).1] at hempty
      exact absurd hempty (by decide)
  · rename_i hmis
    have hscope' := (scopeIn_congr hlib hun.view).symm.trans hscope
    split at h
    · obtain ⟨rfl, rfl⟩ := Prod.mk.inj h
      exact afterPolicy_failed hw' (hc.trans hun.conflict) _ _
    · rename_i cl hrender
      have hrendered : Rendered (renderPolicy env wnp).2 wnp := renderPolicy_rendered (by rw [hrender])
      rw [hrender] at hrendered
      obtain ⟨rfl, rfl⟩ := Prod.mk.inj h
      exact afterPolicy_attends hw' (hc.trans hun.conflict) (fun hempty => absurd hempty htype) fun _ =>
        .rendered (hun.elected he) hscope' (Bool.eq_false_of_not_eq_true hmis) hrendered

/-- **A part of a call**, on a policy that it does not change, with nothing it looked at changed. -/
theorem advance_attends (hlib : LooksUpLabels env.lib) (hkeeps : env.KeepsConditions) {job : Job}
    {progress : Progress} (h : advance w env job = (w', progress)) (hvalid : job.Valid env.lib w.toCluster)
    (hw : wnp ∈ w.wnps.values) (hw' : wnp ∈ w'.wnps.values) (hk : job.key = wnp.key)
    (hun : Unaffected w.toCluster w'.toCluster wnp) : progress.Attends env.lib w'.toCluster wnp := by
  cases job with
  | start req =>
    obtain rfl : req = wnp.key := hk
    simp only [advance] at h
    split at h <;> obtain ⟨rfl, rfl⟩ := Prod.mk.inj h
    · rename_i err hget
      -- a policy that is stored is not reported as absent
      cases hnf : err.isNotFound with
      | true =>
        have hnone := (env.reads .fetch).getWNP_gets.notFound hget hnf
        rw [Store.mem_values.1 hw] at hnone
        cases hnone
      | false =>
        rw [ignoreNotFound, hnf]
        trivial
    · rename_i v hget
      have hv := (env.reads .fetch).getWNP_gets.ok hget
      have hkey : v.key = wnp.key := Store.key_of_lookup hv
      exact ⟨hkey, Store.mem_of_lookup hv⟩
  | fetched v =>
    obtain rfl := Store.eq_of_key_eq hvalid hw hk
    simp only [advance] at h
    split at h
    · obtain ⟨rfl, rfl⟩ := Prod.mk.inj h
      trivial
    · rename_i conflict hdup
      have hc := checkDuplicateTarget_eq hdup
      split at h <;> obtain ⟨rfl, rfl⟩ := Prod.mk.inj h
      · rename_i hwin
        exact ⟨rfl, hw, fun _ => .loser hc.symm (by simpa using hwin)⟩
      · rename_i hwin
        refine ⟨rfl, hw, hc, fun c hc' => ?_⟩
        obtain rfl := Option.some.inj (hc.trans hc')
        simpa using hwin
    · rename_i hdup
      have hc := checkDuplicateTarget_eq hdup
      obtain ⟨rfl, rfl⟩ := Prod.mk.inj h
      refine ⟨rfl, hw, hc, fun c hc' => ?_⟩
      cases hc.trans hc'
  | elected v conflict =>
    obtain ⟨hv, hc, he⟩ := hvalid
    obtain rfl := Store.eq_of_key_eq hv hw hk
    simp only [advance] at h
    split at h <;> obtain ⟨rfl, rfl⟩ := Prod.mk.inj h
    · exact afterPolicy_failed hw hc _ _
    · rename_i condition hscope
      exact ⟨rfl, hw, ⟨hc, he⟩, checkSelectorScope_eq_scopeIn hlib hscope⟩
  | checked v conflict condition =>
    obtain ⟨hv, ⟨hc, he⟩, hscope⟩ := hvalid
    obtain rfl := Store.eq_of_key_eq hv hw hk
    exact advance_checked_attends hlib h hc he hscope hw hw' hun
  | decided v condition err =>
    obtain ⟨hv, hverdict⟩ := hvalid
    obtain rfl := Store.eq_of_key_eq hv hw hk
    rw [advance_decided] at h
    obtain ⟨rfl, rfl⟩ := Prod.mk.inj h
    cases hjoin : joinErrors err (updateReadyCondition env v condition w).1 with
    | some e => trivial
    | none =>
      obtain ⟨herr, hok⟩ := joinErrors_eq_none.1 hjoin
      exact ⟨condition, (hverdict herr).congr hlib hun,
        updateReadyCondition_settled hkeeps (hverdict herr).type_eq hok hw'⟩

end Advance

/-! ## The invariant -/

/-- The policy is settled, or will be looked at. -/
inductive Attended (lib : Apimachinery) (m : Manager) (wnp : WorkloadNetworkPolicy) : Prop
  | pending : wnp.key ∈ m.pending → Attended lib m wnp
  | job {job : Job} : m.job = some job → job.key = wnp.key → job.Valid lib m.world.toCluster → Attended lib m wnp
  | settled : Settled lib m.world.toCluster wnp → Attended lib m wnp

/-- What every step keeps. -/
structure Manager.Inv (lib : Apimachinery) (watches : Watches) (policyOf : String → Option NamespacedName)
    (m : Manager) : Prop where
  truthful : Truthful policyOf m.world.toCluster
  held {job : Job} : m.job = some job → job.Truthful policyOf
  attended {wnp : WorkloadNetworkPolicy} : wnp ∈ m.world.wnps.values → watches.Cover wnp → Attended lib m wnp

/-- The start of the manager: the first lists of the watches put a request for every policy into the queue. -/
structure Manager.Initial (policyOf : String → Option NamespacedName) (m : Manager) : Prop where
  truthful : Truthful policyOf m.world.toCluster
  idle : m.job = none
  listed {wnp : WorkloadNetworkPolicy} : wnp ∈ m.world.wnps.values → wnp.key ∈ m.pending

section Runs

variable {lib : Apimachinery} {watches : Watches} {policyOf : String → Option NamespacedName} {m m' : Manager}

/-- A policy that a step does not affect stays attended, if its request is not taken. -/
lemma Attended.congr (hlib : LooksUpLabels lib) {wnp : WorkloadNetworkPolicy} (ha : Attended lib m wnp)
    (hw : wnp ∈ m.world.wnps.values) (hw' : wnp ∈ m'.world.wnps.values)
    (hun : Unaffected m.world.toCluster m'.world.toCluster wnp) (hpending : wnp.key ∈ m.pending → wnp.key ∈ m'.pending)
    (hjob : m'.job = m.job) : Attended lib m' wnp := by
  cases ha with
  | pending h => exact .pending (hpending h)
  | job h hk hvalid => exact .job (hjob.trans h) hk (hvalid.congr hlib hw hw' hk hun)
  | settled h => exact .settled (h.congr hlib hun)

/-- **One step** keeps the invariant. -/
theorem Step.inv (hlib : LooksUpLabels lib) (hstep : Step lib watches policyOf m m')
    (hinv : m.Inv lib watches policyOf) : m'.Inv lib watches policyOf := by
  cases hstep with
  | @external w pending job cl e inf hbetween hserved ht =>
    refine ⟨ht, hinv.held, fun {wnp} hw' hcover => ?_⟩
    by_cases hreq : wnp.key ∈ e.requests watches inf
    · exact .pending (List.mem_append_right _ hreq)
    · obtain ⟨hw, hun⟩ := unaffected_of_not_requested hbetween hserved hinv.truthful ht hw' hcover hreq
      exact (hinv.attended hw hcover).congr hlib hw hw' hun (List.mem_append_left _) rfl
  | @take w pending req hreq =>
    refine ⟨hinv.truthful, fun {job} hjob => ?_, fun {wnp} hw hcover => ?_⟩
    · obtain rfl := Option.some.inj hjob
      intro wnp hwnp
      cases hwnp
    · cases hinv.attended hw hcover with
      | pending h =>
        by_cases hk : wnp.key = req
        · exact .job rfl hk.symm trivial
        · exact .pending (List.mem_filter.2 ⟨h, decide_eq_true hk⟩)
      | job h => cases h
      | settled h => exact .settled h
  | @work w w' pending job progress env inf henv hkeeps hnames hadvance =>
    subst henv
    have hheld : job.Truthful policyOf := hinv.held rfl
    have ht : Truthful policyOf w'.toCluster := hinv.truthful.advance hheld hkeeps hnames hadvance
    refine ⟨ht, fun {job'} hjob' => ?_, fun {wnp} hw' hcover => ?_⟩
    · cases progress with
      | next job'' =>
        obtain rfl := Option.some.inj hjob'
        exact hheld.advance hinv.truthful hadvance
      | done err => cases hjob'
    by_cases hreq : wnp.key ∈ writeRequests watches w.toCluster inf job.key
    · exact .pending (List.mem_append_left _ (List.mem_append_right _ hreq))
    obtain ⟨hw, hun⟩ := unaffected_of_written (advance_written hkeeps hadvance) hinv.truthful ht hw' hcover hreq
    cases hinv.attended hw hcover with
    | pending h => exact .pending (List.mem_append_left _ (List.mem_append_left _ h))
    | settled h => exact .settled (h.congr hlib hun)
    | job h hk hvalid =>
      obtain rfl := Option.some.inj h
      have hattends := advance_attends hlib hkeeps hadvance hvalid hw hw' hk hun
      cases progress with
      | next job' => exact .job rfl hattends.1 hattends.2
      | done err =>
        cases err with
        | none => exact .settled hattends
        | some e => exact .pending (List.mem_append_right _ (hk ▸ List.mem_singleton_self _))

/-- **Every run** keeps the invariant. -/
theorem inv_of_run (hlib : LooksUpLabels lib) (hinit : m.Initial policyOf)
    (hrun : Relation.ReflTransGen (Step lib watches policyOf) m m') : m'.Inv lib watches policyOf := by
  induction hrun with
  | refl =>
    refine ⟨hinit.truthful, fun hjob => ?_, fun hw _ => .pending (hinit.listed hw)⟩
    rw [hinit.idle] at hjob
    cases hjob
  | tail _ hstep ih => exact hstep.inv hlib ih

end Runs

/-! ## Idle controllers -/

/-- No other policy is indexed under the target of the policy. -/
def Sole (cl : Cluster) (wnp : WorkloadNetworkPolicy) : Prop :=
  ∀ v ∈ cl.wnps.values, wnpTargetKey v = wnpTargetKey wnp → v = wnp

/-- The selector of the policy selects its target and nothing else. -/
def SelectsTarget (lib : Apimachinery) (cl : Cluster) (wnp : WorkloadNetworkPolicy) : Prop :=
  ∃ spec selector d, scopeSelector wnp = .ok spec ∧ lib.labelSelectorAsSelector spec = .ok selector ∧
    InScope cl wnp selector d

section Idle

variable {lib : Apimachinery} {cl : Cluster} {wnp : WorkloadNetworkPolicy}

lemma conflictIn_eq_none_iff (hw : wnp ∈ cl.wnps.values) (hc : Complete wnp.spec.targetRef wnp.spec.direction) :
    conflictIn cl wnp = none ↔ Sole cl wnp := by
  have hkey := wnpTargetKey_of_complete hc
  have hself : wnp ∈ indexed cl wnp.ns (wnpTargetIndexKey wnp.spec.targetRef.kind wnp.spec.targetRef.name
      wnp.spec.direction) := mem_indexed.2 ⟨hw, hkey⟩
  rw [conflictIn, hkey, Option.bind_some, ← Option.not_isSome_iff_eq_none, conflictOf_isSome, Sole, hkey]
  constructor
  · intro hlt v hv hvkey
    by_contra hne
    exact hlt (two_le_length_of_mem (mem_indexed.2 ⟨hv, hvkey⟩) hself hne)
  · intro hsole hlt
    have hnodup : (indexed cl wnp.ns (wnpTargetIndexKey wnp.spec.targetRef.kind wnp.spec.targetRef.name
        wnp.spec.direction)).Nodup := cl.wnps.values_nodup.filter _
    have hsub : indexed cl wnp.ns (wnpTargetIndexKey wnp.spec.targetRef.kind wnp.spec.targetRef.name
        wnp.spec.direction) ⊆ [wnp] := by
      intro v hv
      obtain ⟨hv, hvkey⟩ := mem_indexed.1 hv
      exact List.mem_singleton.2 (hsole v hv hvkey)
    have hle := (hnodup.subperm hsub).length_le
    exact Nat.not_succ_le_self 1 (hlt.trans hle)

/-- The scope verdict on the visible part speaks about the whole cluster. -/
lemma scopeIn_true_iff (hlib : LooksUpLabels lib) {c : Condition} (h : scopeIn lib cl wnp = .ok c) :
    c.status = .conditionTrue ↔ SelectsTarget lib cl wnp := by
  have hdirect : checkSelectorScope lib (Reader.direct cl) wnp = .ok c := by
    rcases (Reader.direct_answers cl).checkSelectorScope_cases lib wnp with ⟨c', hc'⟩ | ⟨err, herr⟩
    · rw [hc', ← h, checkSelectorScope_eq_scopeIn hlib hc']
    · rw [scopeIn, herr] at h
      cases h
  constructor
  · exact checkSelectorScope_true hdirect
  · rintro ⟨spec, selector, d, hspec, hsel, hin⟩
    exact checkSelectorScope_of_inScope hdirect hspec hsel hin

/-- The condition that belongs on a policy is `True` exactly where it should be. -/
lemma Verdict.true_iff (hlib : LooksUpLabels lib) (hw : wnp ∈ cl.wnps.values)
    (hc : Complete wnp.spec.targetRef wnp.spec.direction) {c : Condition} (h : Verdict lib cl wnp c) :
    c.status = .conditionTrue ↔ Sole cl wnp ∧ SelectsTarget lib cl wnp := by
  rw [← conflictIn_eq_none_iff hw hc]
  cases h with
  | loser hconflict =>
    simp [hconflict, (conflictIn_eq_some hconflict).1]
  | @retained c c' _ hscope hm hret =>
    have hfalse := status_of_misses hscope hm
    have hfalse' := (checkRetainedPolicyScope_ok (type_of_scopeIn hscope) hfalse hret).2
    have hnot : ¬ SelectsTarget lib cl wnp := by
      rw [← scopeIn_true_iff hlib hscope, hfalse]
      decide
    cases hconflict : conflictIn cl wnp with
    | none => simp [reported, hconflict, hfalse', hnot]
    | some x => simp [reported, hconflict, (conflictIn_eq_some hconflict).1]
  | rendered _ hscope =>
    cases hconflict : conflictIn cl wnp with
    | none => simp [reported, hconflict, scopeIn_true_iff hlib hscope]
    | some x => simp [reported, hconflict, (conflictIn_eq_some hconflict).1]

lemma Verdict.rendered_of_true {c : Condition} (h : Verdict lib cl wnp c) (htrue : c.status = .conditionTrue) :
    Rendered cl wnp := by
  cases h with
  | loser hconflict =>
    rw [(conflictIn_eq_some hconflict).1] at htrue
    cases htrue
  | @retained c c' _ hscope hm hret =>
    have hfalse := (checkRetainedPolicyScope_ok (type_of_scopeIn hscope) (status_of_misses hscope hm) hret).2
    cases hconflict : conflictIn cl wnp with
    | none =>
      simp only [reported, hconflict, Option.map_none, Option.getD_none, hfalse] at htrue
      cases htrue
    | some x =>
      simp only [reported, hconflict, Option.map_some, Option.getD_some, (conflictIn_eq_some hconflict).1] at htrue
      cases htrue
  | rendered _ _ _ hr => exact hr

end Idle

/-! ### A controller that comes to rest -/

/-- The world of one policy after a call, and the controller started anew in front of it. -/
def renderedWorld : World := (reconcile directPodWorld (.direct _ 5) ⟨"shop", "web-a"⟩).2

def restarted : Manager := ⟨renderedWorld, [⟨"shop", "web-a"⟩], none⟩

def rested : Manager := ⟨renderedWorld, [], none⟩

def policyOfUID (uid : String) : Option NamespacedName := if uid = "u1" then some ⟨"shop", "web-a"⟩ else none

/-- The policy as the call has left it. -/
def renderedPolicy : WorkloadNetworkPolicy :=
  (renderedWorld.wnps.lookup ⟨"shop", "web-a"⟩).getD (shopPolicy "web-a" "u1" 1 .protect)

lemma renderedPolicy_mem : renderedPolicy ∈ rested.world.wnps.values := Store.mem_values.2 rfl

lemma restarted_initial : restarted.Initial policyOfUID := ⟨by decide +kernel, rfl, by decide +kernel⟩

/-- The call on the rendered world, before its part `k`. -/
def callAt (k : Nat) : Job :=
  (fun job => (advance renderedWorld (.direct _ 5) job).2.job.getD job)^[k] (.start ⟨"shop", "web-a"⟩)

/-- A cluster without Istio. -/
def withoutIstio : Setup where
  restMapping := .noMatch

/-- The call finds everything as it should be. -/
lemma run_rested : Relation.ReflTransGen (Step .documented ⟨false⟩ policyOfUID) restarted rested := by
  have hpart : ∀ {job : Job} {progress : Progress}, advance renderedWorld (.direct _ 5) job = (renderedWorld, progress) →
      progress.retries job.key = [] →
      Step .documented ⟨false⟩ policyOfUID ⟨renderedWorld, [], some job⟩ ⟨renderedWorld, [], progress.job⟩ := by
    intro job progress h hretries
    have hstep : Step .documented ⟨false⟩ policyOfUID ⟨renderedWorld, [], some job⟩ _ :=
      .work_unchanged _ (.direct _) rfl (Env.direct_keepsConditions _ _) (Env.direct_namesOwners _ _) h
    rwa [hretries] at hstep
  have htake : Step .documented ⟨false⟩ policyOfUID restarted ⟨renderedWorld, [], some (callAt 0)⟩ :=
    .take (List.mem_singleton_self _)
  have hnext : ∀ k, advance renderedWorld (.direct _ 5) (callAt k) = (renderedWorld, .next (callAt (k + 1))) →
      Step .documented ⟨false⟩ policyOfUID ⟨renderedWorld, [], some (callAt k)⟩
        ⟨renderedWorld, [], some (callAt (k + 1))⟩ :=
    fun k h => hpart h rfl
  have hdone : advance renderedWorld (.direct _ 5) (callAt 4) = (renderedWorld, .done none) := rfl
  exact .head htake (.head (hnext 0 rfl) (.head (hnext 1 rfl) (.head (hnext 2 rfl) (.head (hnext 3 rfl)
    (.single (hpart hdone rfl))))))

section Results

variable {lib : Apimachinery} {watches : Watches} {policyOf : String → Option NamespacedName} {m m' : Manager}

/-- At rest every attended policy is settled. -/
lemma Manager.Inv.settled (h : m.Inv lib watches policyOf) (hpending : m.pending = []) (hjob : m.job = none)
    {wnp : WorkloadNetworkPolicy} (hw : wnp ∈ m.world.wnps.values) (hcover : watches.Cover wnp) :
    Settled lib m.world.toCluster wnp := by
  cases h.attended hw hcover with
  | pending hmem =>
    rw [hpending] at hmem
    cases hmem
  | job hsome =>
    rw [hjob] at hsome
    cases hsome
  | settled hs => exact hs

/-- Istio at set-up, or a policy that does not need it. -/
lemma Watches.cover_of_setup {setup : Setup} (hsetup : setupWithManager setup = .ok watches)
    {wnp : WorkloadNetworkPolicy} (h : setup.restMapping = .found ∨ wnp.spec.backend = .kubernetes) :
    watches.Cover wnp :=
  h.imp_left (watched_iff_found hsetup).2

/-- **An idle controller has nothing left to do.**  Whatever others have changed in whatever order, also between
two reads of one call, and however often calls have failed: once the queue is empty and the worker idle, each
policy whose objects are watched carries the condition, and the cluster holds the object, that its present state
calls for. -/
theorem idle_settled (hlib : LooksUpLabels lib) {setup : Setup} (hsetup : setupWithManager setup = .ok watches)
    (hinit : m.Initial policyOf) (hrun : Relation.ReflTransGen (Step lib watches policyOf) m m')
    (hpending : m'.pending = []) (hjob : m'.job = none) :
    ∀ wnp ∈ m'.world.wnps.values, setup.restMapping = .found ∨ wnp.spec.backend = .kubernetes →
      Settled lib m'.world.toCluster wnp := by
  intro wnp hw hwatched
  exact (inv_of_run hlib hinit hrun).settled hpending hjob hw (Watches.cover_of_setup hsetup hwatched)

/-- The one policy of the rested controller. -/
theorem idle_settled_rested : Settled .documented rested.world.toCluster renderedPolicy := by
  have hsetup : setupWithManager withoutIstio = .ok ⟨false⟩ := rfl
  exact idle_settled looksUpLabels_documented hsetup restarted_initial run_rested rfl rfl renderedPolicy
    renderedPolicy_mem (.inr rfl)

/-- **No `Ready` is stale at rest**: of the policies whose objects are watched it is `True` exactly for those that
are alone on their target and select it and nothing else in the cluster as it is now, and those have their
object. -/
theorem idle_ready (hlib : LooksUpLabels lib) {setup : Setup} (hsetup : setupWithManager setup = .ok watches)
    (hinit : m.Initial policyOf) (hrun : Relation.ReflTransGen (Step lib watches policyOf) m m')
    (hpending : m'.pending = []) (hjob : m'.job = none) {wnp : WorkloadNetworkPolicy}
    (hw : wnp ∈ m'.world.wnps.values) (hwatched : setup.restMapping = .found ∨ wnp.spec.backend = .kubernetes)
    (hc : Complete wnp.spec.targetRef wnp.spec.direction) :
    (readyStatus m'.world wnp.key = some .conditionTrue ↔
      Sole m'.world.toCluster wnp ∧ SelectsTarget lib m'.world.toCluster wnp) ∧
      (readyStatus m'.world wnp.key = some .conditionTrue → Rendered m'.world.toCluster wnp) := by
  have hcover := Watches.cover_of_setup hsetup hwatched
  obtain ⟨c, hverdict, hview⟩ := (inv_of_run hlib hinit hrun).settled hpending hjob hw hcover
  have hstatus : readyStatus m'.world wnp.key = some c.status := by
    obtain ⟨ready, hready, hsame⟩ := Option.map_eq_some_iff.1 hview
    simp only [conditionView, Prod.mk.injEq] at hsame
    rw [readyStatus, Store.mem_values.1 hw, ← hsame.2.1]
    simp [hready]
  rw [hstatus, Option.some.injEq, hverdict.true_iff hlib hw hc]
  refine ⟨Iff.rfl, fun h => ?_⟩
  exact hverdict.rendered_of_true ((hverdict.true_iff hlib hw hc).2 h)

/-- It is `Ready`, so it is alone on its target, selects it and nothing else, and has its object. -/
theorem idle_ready_rested :
    (Sole rested.world.toCluster renderedPolicy ∧ SelectsTarget .documented rested.world.toCluster renderedPolicy) ∧
      Rendered rested.world.toCluster renderedPolicy := by
  have hsetup : setupWithManager withoutIstio = .ok ⟨false⟩ := rfl
  have hidle := idle_ready looksUpLabels_documented hsetup restarted_initial run_rested rfl rfl renderedPolicy_mem
    (.inr rfl) ⟨by decide, by decide, by decide⟩
  have htrue : readyStatus rested.world renderedPolicy.key = some .conditionTrue := by decide +kernel
  exact ⟨hidle.1.1 htrue, hidle.2 htrue⟩

/-- **Why the watch is needed.**  Without it a controller at rest stays at rest when the object of an Istio policy
is deleted: the policies keep their conditions, and the object is gone. -/
theorem unwatched_deletion (hwatch : watches.authorizationPolicies = false) {w : World}
    (ht : Truthful policyOf w.toCluster) {wnp : WorkloadNetworkPolicy} (hb : wnp.spec.backend = .istio)
    {ap : AuthorizationPolicy} (hap : w.authorizationPolicies.lookup wnp.key = some ap) :
    ∃ w' : World, Step lib watches policyOf ⟨w, [], none⟩ ⟨w', [], none⟩ ∧ w'.wnps = w.wnps ∧
      ¬ Rendered w'.toCluster wnp := by
  have hgone : (w.authorizationPolicies.remove wnp.key).lookup wnp.key = none := Store.lookup_remove ..
  have hbetween : ClusterEvent.Between w.toCluster
      { w.toCluster with authorizationPolicies := w.authorizationPolicies.remove wnp.key }
      (.authorizationPolicy (.delete ap)) := ⟨Event.between_remove hap, rfl⟩
  have hstep : Step lib watches policyOf ⟨w, [], none⟩ _ := .external (Informer.direct _) hbetween trivial
    ⟨ht.policies, ht.networkPolicies, fun hmem => ht.authorizationPolicies (Store.mem_of_mem_remove hmem)⟩
  simp only [ClusterEvent.requests, hwatch, Bool.false_eq_true, if_false, List.append_nil] at hstep
  refine ⟨_, hstep, rfl, fun hr => ?_⟩
  obtain ⟨ap', hap', -⟩ := hr.istio hb
  simp [Cluster.visibleTo, Store.lookup_only, hgone] at hap'

end Results

end NetworkEnforcer.Reconcile
