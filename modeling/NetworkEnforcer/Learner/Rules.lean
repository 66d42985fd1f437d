import NetworkEnforcer.Learning.Promotion

/-!
# What learning a flow does to the rules

`Contains.apply` says that a learned flow adds its own rule and no other.  Here is the rest: the rule is there
afterwards (`contains_apply_self`), and so is every rule that was there before (`Contains.apply_of`).
-/

namespace NetworkEnforcer.Learning

open NetworkEnforcer.Lib NetworkEnforcer.Api

variable (lib : Apimachinery)

section Kubernetes

variable {R : Type} (T : PeerPortRule R) {rules : List R} {peer p : NetworkPolicyPeer} {port q : NetworkPolicyPort}

/-- Another port does not change the peer of a rule. -/
lemma hasPeer_withPorts (rule : R) (ports : List NetworkPolicyPort) :
    hasPeer lib T (T.rule (T.peers rule) ports) p = hasPeer lib T rule p := by
  rw [hasPeer, T.peers_rule, hasPeer]

lemma containsPeerPort_upsert_of (h : containsPeerPort lib T rules p q = true) :
    containsPeerPort lib T (upsertRuleByPeer lib T peer port rules) p q = true := by
  induction rules with
  | nil => cases h
  | cons rule rules ih =>
    rw [containsPeerPort_cons] at h
    rw [upsertRuleByPeer]
    split
    · split
      · exact (containsPeerPort_cons lib T).2 h
      · refine (containsPeerPort_cons lib T).2 (h.imp_left ?_)
        rintro ⟨hp, hq⟩
        refine ⟨by rw [hasPeer_withPorts]; exact hp, ?_⟩
        rw [hasPort, T.ports_rule, List.any_append, Bool.or_eq_true]
        exact .inl hq
    · exact (containsPeerPort_cons lib T).2 (h.imp_right ih)

lemma containsPeerPort_upsert_self :
    containsPeerPort lib T (upsertRuleByPeer lib T peer port rules) peer port = true := by
  have hrefl : policyPeerEqual lib peer peer = true := (policyPeerEqual_equivalence lib).refl peer
  induction rules with
  | nil => simp [upsertRuleByPeer, containsPeerPort, hasPeer, hasPort, hrefl, policyPortEqual_iff]
  | cons rule rules ih =>
    rw [upsertRuleByPeer]
    split
    · rename_i hpeer
      split
      · rename_i hport
        exact (containsPeerPort_cons lib T).2 (.inl ⟨hpeer, hport⟩)
      · refine (containsPeerPort_cons lib T).2 (.inl ⟨by rw [hasPeer_withPorts]; exact hpeer, ?_⟩)
        simp [hasPort, policyPortEqual_iff]
    · exact (containsPeerPort_cons lib T).2 (.inr ih)

/-- Equal peers have the same rules. -/
lemma containsPeerPort_congr (hp : policyPeerEqual lib peer p = true) (h : containsPeerPort lib T rules peer q = true) :
    containsPeerPort lib T rules p q = true := by
  rw [containsPeerPort, List.any_eq_true] at h ⊢
  obtain ⟨rule, hrule, h⟩ := h
  rw [Bool.and_eq_true] at h
  refine ⟨rule, hrule, Bool.and_eq_true _ _ ▸ ⟨?_, h.2⟩⟩
  have hpeer := h.1
  unfold hasPeer at hpeer ⊢
  split at hpeer
  · exact (policyPeerEqual_equivalence lib).trans hpeer hp
  · cases hpeer

end Kubernetes

section Istio

variable {rules : List IstioAuthorizationPolicyRule} {principal port p q : String}

lemma port_attachPort_of {rule : IstioAuthorizationPolicyRule} (h : ∃ t ∈ rule.to_, q ∈ t.operation.ports) :
    ∃ t ∈ (attachPort rule port).to_, q ∈ t.operation.ports := by
  obtain ⟨t, ht, hq⟩ := h
  unfold attachPort
  split
  · rename_i hnil
    rw [hnil] at ht
    cases ht
  · rename_i t₀ ts hto
    split
    · exact ⟨t, ht, hq⟩
    · rw [hto] at ht
      rcases List.mem_cons.1 ht with rfl | ht
      · exact ⟨_, List.mem_cons_self .., List.mem_append_left _ hq⟩
      · exact ⟨t, List.mem_cons_of_mem _ ht, hq⟩

lemma port_attachPort_self (rule : IstioAuthorizationPolicyRule) :
    ∃ t ∈ (attachPort rule port).to_, port ∈ t.operation.ports := by
  unfold attachPort
  split
  · exact ⟨_, List.mem_singleton_self _, List.mem_singleton_self _⟩
  · rename_i t₀ ts hto
    split
    · rename_i hany
      obtain ⟨t, ht, hport⟩ := List.any_eq_true.1 hany
      exact ⟨t, hto ▸ ht, by simpa using hport⟩
    · exact ⟨_, List.mem_cons_self .., List.mem_append_right _ (List.mem_singleton_self _)⟩

lemma istioContains_upsert_of (h : istioContains rules p q) :
    istioContains (upsertIstioRules principal port rules) p q := by
  induction rules with
  | nil =>
    obtain ⟨rule, hrule, -⟩ := h
    cases hrule
  | cons rule rules ih =>
    rw [istioContains_cons] at h
    rw [upsertIstioRules]
    split
    · refine istioContains_cons.2 (h.imp_left ?_)
      rintro ⟨rule', hrule', hfrom, hto⟩
      obtain rfl := List.mem_singleton.1 hrule'
      exact ⟨_, List.mem_singleton_self _, by rw [attachPort_from]; exact hfrom, port_attachPort_of hto⟩
    · exact istioContains_cons.2 (h.imp_right ih)

lemma from_of_hasPrincipal {rule : IstioAuthorizationPolicyRule} (h : hasPrincipal rule principal = true) :
    ∃ f ∈ rule.from_, principal ∈ f.source.principals := by
  unfold hasPrincipal at h
  split at h
  · rename_i f hfrom
    split at h
    · rename_i p₀ hps
      obtain rfl : p₀ = principal := of_decide_eq_true h
      exact ⟨f, hfrom ▸ List.mem_singleton_self _, hps ▸ List.mem_singleton_self _⟩
    · cases h
  · cases h

lemma istioContains_upsert_self : istioContains (upsertIstioRules principal port rules) principal port := by
  induction rules with
  | nil => simp [upsertIstioRules, istioContains, istioTo]
  | cons rule rules ih =>
    rw [upsertIstioRules]
    split
    · rename_i hprincipal
      refine ⟨_, List.mem_cons_self .., ?_, port_attachPort_self rule⟩
      rw [attachPort_from]
      exact from_of_hasPrincipal hprincipal
    · exact istioContains_cons.2 (.inr ih)

end Istio

section Updates

variable {lib}

lemma mutateIstioProposal_kubernetes (dest : WorkloadRef) (principal : String) (dstPort : Int)
    (spec : WorkloadNetworkPolicyProposalSpec) :
    (mutateIstioProposal dest principal dstPort spec).kubernetes = spec.kubernetes := by
  unfold mutateIstioProposal
  dsimp only
  split <;> rfl

lemma mutateIstioProposal_istio (dest : WorkloadRef) (principal : String) (dstPort : Int)
    (spec : WorkloadNetworkPolicyProposalSpec) :
    (mutateIstioProposal dest principal dstPort spec).istio =
      some (upsertIstioLearnedRule (spec.istio.getD { selector := dest.selector }) principal (formatInt dstPort)) := by
  unfold mutateIstioProposal
  dsimp only
  cases spec.istio with
  | none => rfl
  | some i => rfl

/-- **No rule is lost by learning another flow.** -/
theorem Contains.apply_of {u : LearnerUpdate} {spec spec' : WorkloadNetworkPolicyProposalSpec} {rule : LearnedRule}
    (happly : u.apply lib spec = .ok spec') (h : Contains lib spec.toPolicyBackendSpec rule) :
    Contains lib spec'.toPolicyBackendSpec rule := by
  cases u with
  | kubernetes workload direction flow =>
    cases direction with
    | unset => cases happly
    | egress =>
      obtain rfl := Except.ok.inj happly
      cases rule with
      | istio principal port => exact h
      | kubernetes d p q =>
        cases d with
        | unset => exact absurd h id
        | ingress =>
          obtain ⟨k, hk, h⟩ := h
          refine ⟨_, rfl, ?_⟩
          rw [selectWorkload_ingress, hk]
          exact h
        | egress =>
          obtain ⟨k, hk, h⟩ := h
          refine ⟨_, rfl, containsPeerPort_upsert_of lib egressRule ?_⟩
          rw [selectWorkload_egress, hk]
          exact h
    | ingress =>
      obtain rfl := Except.ok.inj happly
      cases rule with
      | istio principal port => exact h
      | kubernetes d p q =>
        cases d with
        | unset => exact absurd h id
        | egress =>
          obtain ⟨k, hk, h⟩ := h
          refine ⟨_, rfl, ?_⟩
          rw [selectWorkload_egress, hk]
          exact h
        | ingress =>
          obtain ⟨k, hk, h⟩ := h
          refine ⟨_, rfl, containsPeerPort_upsert_of lib ingressRule ?_⟩
          rw [selectWorkload_ingress, hk]
          exact h
  | istio dest principal dstPort =>
    obtain rfl := Except.ok.inj happly
    have hk := mutateIstioProposal_kubernetes dest principal dstPort spec
    cases rule with
    | istio p q =>
      obtain ⟨i, hi, h⟩ := h
      refine ⟨_, mutateIstioProposal_istio dest principal dstPort spec, ?_⟩
      rw [hi]
      exact istioContains_upsert_of h
    | kubernetes d p q =>
      cases d with
      | unset => exact absurd h id
      | egress => exact h.imp fun k => And.imp_left hk.trans
      | ingress => exact h.imp fun k => And.imp_left hk.trans

/-- **The rule of a learned flow is there.** -/
theorem contains_apply_self {u : LearnerUpdate} {spec spec' : WorkloadNetworkPolicyProposalSpec}
    (happly : u.apply lib spec = .ok spec') : Contains lib spec'.toPolicyBackendSpec u.rule := by
  cases u with
  | kubernetes workload direction flow =>
    cases direction with
    | unset => cases happly
    | egress =>
      obtain rfl := Except.ok.inj happly
      exact ⟨_, rfl, containsPeerPort_upsert_self lib egressRule⟩
    | ingress =>
      obtain rfl := Except.ok.inj happly
      exact ⟨_, rfl, containsPeerPort_upsert_self lib ingressRule⟩
  | istio dest principal dstPort =>
    obtain rfl := Except.ok.inj happly
    exact ⟨_, mutateIstioProposal_istio dest principal dstPort spec, istioContains_upsert_self⟩

lemma Contains.congr {spec : PolicyBackendSpec} {rule rule' : LearnedRule} (hsame : SameLearnedRule lib rule rule')
    (h : Contains lib spec rule) : Contains lib spec rule' := by
  cases rule with
  | istio p q =>
    cases rule' with
    | kubernetes => exact absurd hsame id
    | istio p' q' =>
      obtain ⟨rfl, rfl⟩ := hsame
      exact h
  | kubernetes d p q =>
    cases rule' with
    | istio => exact absurd hsame id
    | kubernetes d' p' q' =>
      obtain ⟨rfl, hp, rfl⟩ := hsame
      cases d with
      | unset => exact h
      | egress => exact h.imp fun k => And.imp_right (containsPeerPort_congr lib egressRule hp)
      | ingress => exact h.imp fun k => And.imp_right (containsPeerPort_congr lib ingressRule hp)

end Updates

end NetworkEnforcer.Learning
