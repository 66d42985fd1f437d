import NetworkEnforcer.Learning.Reconciler
import NetworkEnforcer.Reconcile.Direct

/-!
# What a promotion keeps

The reconciler copies the proposal it has read into a policy and deletes the proposal by its name, while
the learner goes on writing.  `Traced` follows where the rules of the stored proposal come from: each is
in a given earlier version or was learned after it.

* `Contains.apply` — what one learned flow adds to a specification;
* `Traced.interference`, `Traced.answers` — one step of the others, and of the reconciler;
* `promotion_keeps_rules` — the policy has every rule of the deleted proposal but those learned after
  the version it was copied from;
* `promotion_loses_concurrent_rule` — and such a rule is lost.
-/

namespace NetworkEnforcer.Learning

open NetworkEnforcer.Lib NetworkEnforcer.Api NetworkEnforcer.Reconcile

/-! ## Rules -/

/-- One learned rule: what a single flow adds. -/
inductive LearnedRule where
  | kubernetes (direction : PolicyType) (peer : NetworkPolicyPeer) (port : NetworkPolicyPort)
  | istio (principal port : String)

/-- An update that the learner makes. -/
inductive LearnerUpdate where
  | kubernetes (workload : WorkloadRef) (direction : PolicyType) (flow : LearnedFlow)
  | istio (dest : WorkloadRef) (principal : String) (dstPort : Int)

/-- The proposal that the update is made to. -/
def LearnerUpdate.metadata : LearnerUpdate → WorkloadNetworkPolicyProposal
  | .kubernetes workload direction _ => getProposalMetadata workload direction
  | .istio dest _ _ => getProposalMetadata dest .ingress

def LearnerUpdate.rule : LearnerUpdate → LearnedRule
  | .kubernetes _ direction flow => .kubernetes direction flow.peerAndPort.1 flow.peerAndPort.2
  | .istio _ principal dstPort => .istio principal (formatInt dstPort)

section

variable (lib : Apimachinery)

/-- The mutation of `CreateOrUpdate`. -/
def LearnerUpdate.apply (u : LearnerUpdate) (spec : WorkloadNetworkPolicyProposalSpec) :
    Except Err WorkloadNetworkPolicyProposalSpec :=
  match u with
  | .kubernetes workload direction flow =>
    mutateKubernetesProposal lib workload flow.peer direction flow.protocol flow.dstPort spec
  | .istio dest principal dstPort => .ok (mutateIstioProposal dest principal dstPort spec)

/-- The principal may reach the port by some rule. -/
def istioContains (rules : List IstioAuthorizationPolicyRule) (principal port : String) : Prop :=
  ∃ rule ∈ rules, (∃ f ∈ rule.from_, principal ∈ f.source.principals) ∧
    ∃ t ∈ rule.to_, port ∈ t.operation.ports

/-- The specification has the rule. -/
def Contains (spec : PolicyBackendSpec) : LearnedRule → Prop
  | .kubernetes .egress peer port =>
    ∃ k, spec.kubernetes = some k ∧ containsPeerPort lib egressRule k.egress peer port = true
  | .kubernetes .ingress peer port =>
    ∃ k, spec.kubernetes = some k ∧ containsPeerPort lib ingressRule k.ingress peer port = true
  | .kubernetes .unset _ _ => False
  | .istio principal port => ∃ i, spec.istio = some i ∧ istioContains i.rules principal port

/-- The same rule, up to the comparison of peers. -/
def SameLearnedRule : LearnedRule → LearnedRule → Prop
  | .kubernetes d p q, .kubernetes d' p' q' => d = d' ∧ policyPeerEqual lib p p' = true ∧ q = q'
  | .istio p q, .istio p' q' => p = p' ∧ q = q'
  | _, _ => False

/-- A rule that gets another port has its old pairs and the new one. -/
lemma hasPeer_hasPort_append {R : Type} (T : PeerPortRule R) {rule : R} {peer p : NetworkPolicyPeer}
    {port q : NetworkPolicyPort} (hpeer : hasPeer lib T rule peer = true)
    (hp : hasPeer lib T (T.rule (T.peers rule) (T.ports rule ++ [port])) p = true)
    (hq : hasPort T (T.rule (T.peers rule) (T.ports rule ++ [port])) q = true) :
    (hasPeer lib T rule p = true ∧ hasPort T rule q = true) ∨
      (policyPeerEqual lib peer p = true ∧ port = q) := by
  obtain ⟨p₀, hp₀⟩ : ∃ p₀, T.peers rule = [p₀] := by
    unfold hasPeer at hpeer
    split at hpeer
    next p₀ hp₀ => exact ⟨p₀, hp₀⟩
    next => cases hpeer
  rw [hasPeer, T.peers_rule, hp₀] at hp
  rw [hasPeer, hp₀] at hpeer
  rw [hasPort, T.ports_rule, List.any_append, Bool.or_eq_true] at hq
  rcases hq with hq | hq
  · left
    rw [hasPeer, hp₀]
    exact ⟨hp, hq⟩
  · right
    have heq := policyPeerEqual_equivalence lib
    exact ⟨heq.trans (heq.symm hpeer) hp, by simpa [policyPortEqual_iff] using hq⟩

lemma containsPeerPort_cons {R : Type} (T : PeerPortRule R) {rule : R} {rules : List R}
    {p : NetworkPolicyPeer} {q : NetworkPolicyPort} :
    containsPeerPort lib T (rule :: rules) p q = true ↔
      (hasPeer lib T rule p = true ∧ hasPort T rule q = true) ∨ containsPeerPort lib T rules p q = true := by
  rw [containsPeerPort, List.any_cons, Bool.or_eq_true, Bool.and_eq_true, containsPeerPort]

/-- An upsert adds the one pair, to rules of any shape. -/
lemma containsPeerPort_upsert {R : Type} (T : PeerPortRule R) {rules : List R}
    {peer p : NetworkPolicyPeer} {port q : NetworkPolicyPort}
    (h : containsPeerPort lib T (upsertRuleByPeer lib T peer port rules) p q = true) :
    containsPeerPort lib T rules p q = true ∨ (policyPeerEqual lib peer p = true ∧ port = q) := by
  induction rules with
  | nil =>
    right
    simpa [containsPeerPort, upsertRuleByPeer, hasPeer, hasPort, policyPortEqual_iff] using h
  | cons rule rules ih =>
    rw [upsertRuleByPeer] at h
    by_cases hpeer : hasPeer lib T rule peer = true
    · rw [if_pos hpeer] at h
      by_cases hport : hasPort T rule port = true
      · rw [if_pos hport] at h
        exact Or.inl h
      · rw [if_neg hport, containsPeerPort_cons] at h
        rcases h with ⟨hp, hq⟩ | h
        · rcases hasPeer_hasPort_append lib T hpeer hp hq with h | h
          · exact Or.inl ((containsPeerPort_cons lib T).2 (Or.inl h))
          · exact Or.inr h
        · exact Or.inl ((containsPeerPort_cons lib T).2 (Or.inr h))
    · rw [if_neg hpeer, containsPeerPort_cons] at h
      rcases h with h | h
      · exact Or.inl ((containsPeerPort_cons lib T).2 (Or.inl h))
      · rcases ih h with h | h
        · exact Or.inl ((containsPeerPort_cons lib T).2 (Or.inr h))
        · exact Or.inr h

lemma istioContains_cons {rule : IstioAuthorizationPolicyRule} {rules : List IstioAuthorizationPolicyRule}
    {p q : String} :
    istioContains (rule :: rules) p q ↔ istioContains [rule] p q ∨ istioContains rules p q := by
  simp [istioContains]

/-- A rule of one principal gives its ports to no other. -/
lemma principal_of_hasPrincipal {rule : IstioAuthorizationPolicyRule} {principal p : String}
    (h : hasPrincipal rule principal = true) (hp : ∃ f ∈ rule.from_, p ∈ f.source.principals) :
    principal = p := by
  obtain ⟨f, hf, hp⟩ := hp
  unfold hasPrincipal at h
  split at h
  next f₀ hfrom =>
    obtain rfl : f = f₀ := by simpa [hfrom] using hf
    split at h
    next p₀ hps =>
      obtain rfl : p₀ = principal := of_decide_eq_true h
      exact (List.mem_singleton.1 (hps ▸ hp)).symm
    next => cases h
  next => cases h

lemma port_of_attachPort {rule : IstioAuthorizationPolicyRule} {port q : String}
    (h : ∃ t ∈ (attachPort rule port).to_, q ∈ t.operation.ports) :
    (∃ t ∈ rule.to_, q ∈ t.operation.ports) ∨ port = q := by
  obtain ⟨t, ht, hq⟩ := h
  unfold attachPort at ht
  split at ht
  next => right; simp_all [istioTo]
  next t₀ ts hto =>
    split at ht
    next => exact Or.inl ⟨t, ht, hq⟩
    next =>
      rcases List.mem_cons.1 ht with rfl | ht
      · rcases List.mem_append.1 hq with hq | hq
        · exact Or.inl ⟨t₀, by simp [hto], hq⟩
        · exact Or.inr (List.mem_singleton.1 hq).symm
      · exact Or.inl ⟨t, by simp [hto, ht], hq⟩

lemma attachPort_from (rule : IstioAuthorizationPolicyRule) (port : String) :
    (attachPort rule port).from_ = rule.from_ := by
  unfold attachPort
  split
  · rfl
  · split <;> rfl

lemma istioContains_upsert {rules : List IstioAuthorizationPolicyRule} {principal port p q : String}
    (h : istioContains (upsertIstioRules principal port rules) p q) :
    istioContains rules p q ∨ (principal = p ∧ port = q) := by
  induction rules with
  | nil =>
    right
    simpa [istioContains, upsertIstioRules, istioTo, eq_comm] using h
  | cons rule rules ih =>
    rw [upsertIstioRules] at h
    by_cases hrule : hasPrincipal rule principal = true
    · rw [if_pos hrule, istioContains_cons] at h
      rcases h with ⟨rule', hrule', hfrom, hto⟩ | h
      · obtain rfl : rule' = attachPort rule port := List.mem_singleton.1 hrule'
        rw [attachPort_from] at hfrom
        rcases port_of_attachPort hto with hto | hport
        · exact Or.inl ⟨rule, List.mem_cons_self .., hfrom, hto⟩
        · exact Or.inr ⟨principal_of_hasPrincipal hrule hfrom, hport⟩
      · exact Or.inl (istioContains_cons.2 (Or.inr h))
    · rw [if_neg hrule, istioContains_cons] at h
      rcases h with h | h
      · exact Or.inl (istioContains_cons.2 (Or.inl h))
      · rcases ih h with h | h
        · exact Or.inl (istioContains_cons.2 (Or.inr h))
        · exact Or.inr h

/-- No specification counts as one without rules. -/
lemma contains_kubernetes_of_getD {R : Type} {T : PeerPortRule R} {rules : NetworkPolicySpec → List R}
    {spec : Option NetworkPolicySpec} {p : NetworkPolicyPeer} {q : NetworkPolicyPort} (hnil : rules {} = [])
    (h : containsPeerPort lib T (rules (spec.getD {})) p q = true) :
    ∃ k, spec = some k ∧ containsPeerPort lib T (rules k) p q = true := by
  cases spec with
  | none =>
    rw [Option.getD_none, hnil] at h
    cases h
  | some k => exact ⟨k, rfl, h⟩

/-- The rules of the learned direction, which start from those of the proposal. -/
lemma contains_kubernetes_of_upsert {R : Type} {T : PeerPortRule R} {rules : NetworkPolicySpec → List R}
    {spec : Option NetworkPolicySpec} {start : NetworkPolicySpec} {peer p : NetworkPolicyPeer}
    {port q : NetworkPolicyPort} (hnil : rules {} = []) (hstart : rules start = rules (spec.getD {}))
    (h : containsPeerPort lib T (upsertRuleByPeer lib T peer port (rules start)) p q = true) :
    (∃ k, spec = some k ∧ containsPeerPort lib T (rules k) p q = true) ∨
      (policyPeerEqual lib peer p = true ∧ port = q) := by
  rcases containsPeerPort_upsert lib T h with h | h
  · rw [hstart] at h
    exact Or.inl (contains_kubernetes_of_getD lib hnil h)
  · exact Or.inr h

lemma Contains.mutateKubernetes {workload peer : WorkloadRef} {direction : PolicyType} {protocol : String}
    {dstPort : Int} {spec spec' : WorkloadNetworkPolicyProposalSpec} {rule : LearnedRule}
    (happly : mutateKubernetesProposal lib workload peer direction protocol dstPort spec = .ok spec')
    (h : Contains lib spec'.toPolicyBackendSpec rule) :
    Contains lib spec.toPolicyBackendSpec rule ∨
      SameLearnedRule lib (.kubernetes direction (buildPeerAndPort peer protocol dstPort).1
        (buildPeerAndPort peer protocol dstPort).2) rule := by
  cases direction with
  | unset => cases happly
  | egress =>
    obtain rfl := Except.ok.inj happly
    cases rule with
    | istio principal port => exact Or.inl h
    | kubernetes d p q =>
      cases d with
      | unset => exact absurd h id
      | ingress =>
        obtain ⟨k, hk, h⟩ := h
        obtain rfl := Option.some.inj hk
        rw [selectWorkload_ingress] at h
        exact Or.inl (contains_kubernetes_of_getD lib rfl h)
      | egress =>
        obtain ⟨k, hk, h⟩ := h
        obtain rfl := Option.some.inj hk
        exact (contains_kubernetes_of_upsert lib rfl (selectWorkload_egress _ _ _) h).imp_right (And.intro rfl)
  | ingress =>
    obtain rfl := Except.ok.inj happly
    cases rule with
    | istio principal port => exact Or.inl h
    | kubernetes d p q =>
      cases d with
      | unset => exact absurd h id
      | egress =>
        obtain ⟨k, hk, h⟩ := h
        obtain rfl := Option.some.inj hk
        rw [selectWorkload_egress] at h
        exact Or.inl (contains_kubernetes_of_getD lib rfl h)
      | ingress =>
        obtain ⟨k, hk, h⟩ := h
        obtain rfl := Option.some.inj hk
        exact (contains_kubernetes_of_upsert lib rfl (selectWorkload_ingress _ _ _) h).imp_right (And.intro rfl)

lemma Contains.mutateIstio {dest : WorkloadRef} {principal : String} {dstPort : Int}
    {spec : WorkloadNetworkPolicyProposalSpec} {rule : LearnedRule}
    (h : Contains lib (mutateIstioProposal dest principal dstPort spec).toPolicyBackendSpec rule) :
    Contains lib spec.toPolicyBackendSpec rule ∨
      SameLearnedRule lib (.istio principal (formatInt dstPort)) rule := by
  cases rule with
  | kubernetes d p q =>
    left
    have hk : (mutateIstioProposal dest principal dstPort spec).kubernetes = spec.kubernetes := by
      unfold mutateIstioProposal
      dsimp only
      split <;> rfl
    cases d with
    | unset => exact absurd h id
    | egress =>
      obtain ⟨k, hk', h⟩ := h
      exact ⟨k, hk.symm.trans hk', h⟩
    | ingress =>
      obtain ⟨k, hk', h⟩ := h
      exact ⟨k, hk.symm.trans hk', h⟩
  | istio p q =>
    obtain ⟨i, hi, h⟩ := h
    unfold mutateIstioProposal at hi
    dsimp only at hi
    split at hi
    next i₀ hi₀ =>
      obtain rfl := Option.some.inj hi
      rcases istioContains_upsert h with h | h
      · exact Or.inl ⟨i₀, hi₀, h⟩
      · exact Or.inr h
    next =>
      obtain rfl := Option.some.inj hi
      rcases istioContains_upsert h with ⟨_, hmem, _⟩ | h
      · exact absurd hmem (List.not_mem_nil)
      · exact Or.inr h

/-- **A learned flow adds its own rule and no other.** -/
theorem Contains.apply {u : LearnerUpdate} {spec spec' : WorkloadNetworkPolicyProposalSpec}
    {rule : LearnedRule} (happly : u.apply lib spec = .ok spec')
    (h : Contains lib spec'.toPolicyBackendSpec rule) :
    Contains lib spec.toPolicyBackendSpec rule ∨ SameLearnedRule lib u.rule rule := by
  cases u with
  | kubernetes workload direction flow => exact Contains.mutateKubernetes lib happly h
  | istio dest principal dstPort =>
    obtain rfl := Except.ok.inj happly
    exact Contains.mutateIstio lib h

/-- A proposal starts without rules. -/
lemma not_contains_metadata (u : LearnerUpdate) (rule : LearnedRule) :
    ¬ Contains lib u.metadata.spec.toPolicyBackendSpec rule := by
  have hk : u.metadata.spec.kubernetes = none := by cases u <;> rfl
  have hi : u.metadata.spec.istio = none := by cases u <;> rfl
  cases rule with
  | kubernetes direction peer port => cases direction <;> simp [Contains, hk]
  | istio principal port => simp [Contains, hi]

end

/-! ## The world -/

/-- The proposal on the API server and the policies of the cluster. -/
structure World where
  proposal : Option WorkloadNetworkPolicyProposal
  /-- Every version the proposal has had, newest first. -/
  versions : List WorkloadNetworkPolicyProposal
  /-- The last resource version given out. -/
  clock : Nat
  policies : Store WorkloadNetworkPolicy.key
  /-- History: the updates of the learner, with the resource version each of them got. -/
  learned : List (Nat × LearnerUpdate) := []

/-- The proposal as it is stored next. -/
def World.stamp (w : World) (p : WorkloadNetworkPolicyProposal) : WorkloadNetworkPolicyProposal :=
  { p with resourceVersion := w.clock + 1 }

/-- A new version of the proposal. -/
def World.store (w : World) (p : WorkloadNetworkPolicyProposal) : World :=
  { w with proposal := some (w.stamp p), versions := w.stamp p :: w.versions, clock := w.clock + 1 }

/-- How a request can be answered.  The cache answers with any version and any list of policies; a patch
and a deletion name the proposal and no version of it. -/
def Answers : (r : Request) → World → r.Resp → World → Prop
  | .get _, w, x, w' => w' = w ∧ ∀ p, x = Except.ok p → p ∈ w.versions
  | .getOwner _, w, _, w' => w' = w
  | .patchOwnerReferences _ refs, w, x, w' =>
    match x with
    | .error _ => w' = w
    | .ok patched => ∃ old, w.proposal = some old ∧
        ((refs = old.ownerReferences ∧ patched = old ∧ w' = w) ∨
          (patched = w.stamp { old with ownerReferences := refs } ∧
            w' = w.store { old with ownerReferences := refs }))
  | .checkExistingPolicy .., w, _, w' => w' = w
  | .create policy, w, x, w' =>
    match x with
    | .created => w.policies.lookup policy.key = none ∧ w' = { w with policies := w.policies.put policy }
    | _ => w' = w
  | .delete .., w, x, w' =>
    match x with
    | none => w.proposal ≠ none ∧ w' = { w with proposal := none }
    | some _ => w' = w

/-- What others do to the proposal and to the policies.  A successful `CreateOrUpdate` of the learner has
read the stored proposal, by the optimistic lock. -/
inductive Interference (lib : Apimachinery) (key : NamespacedName) : World → World → Prop
  | learn {w : World} {old : WorkloadNetworkPolicyProposal} {u : LearnerUpdate}
    {spec : WorkloadNetworkPolicyProposalSpec} : w.proposal = some old →
    u.metadata.namespacedName = key → u.apply lib old.spec = .ok spec → spec ≠ old.spec →
    Interference lib key w
      { w.store { old with spec := spec } with learned := (w.clock + 1, u) :: w.learned }
  | learnFirst {w : World} {u : LearnerUpdate} {spec : WorkloadNetworkPolicyProposalSpec} :
    w.proposal = none → u.metadata.namespacedName = key → u.apply lib u.metadata.spec = .ok spec →
    Interference lib key w
      { w.store { u.metadata with spec := spec } with learned := (w.clock + 1, u) :: w.learned }
  | editMetadata {w : World} {old new : WorkloadNetworkPolicyProposal} : w.proposal = some old →
    new.spec = old.spec → new.namespacedName = old.namespacedName →
    Interference lib key w (w.store new)
  | delete {w : World} : Interference lib key w { w with proposal := none }
  | editPolicies {w : World} {policies : Store WorkloadNetworkPolicy.key} :
    Interference lib key w { w with policies := policies }

/-- The reconciler and everybody else. -/
def system (lib : Apimachinery) (key : NamespacedName) : System Request.Resp World where
  exec := Answers
  env := Interference lib key

/-! ## Where the rules come from -/

section

variable (lib : Apimachinery)

/-- The rule was learned after the version. -/
def LearnedAfter (w : World) (version : WorkloadNetworkPolicyProposal) (rule : LearnedRule) : Prop :=
  ∃ n u, (n, u) ∈ w.learned ∧ version.resourceVersion < n ∧ SameLearnedRule lib u.rule rule

/-- Every rule of the stored proposal is in a given version or was learned after it. -/
structure Traced (w : World) : Prop where
  bounded : ∀ v ∈ w.versions, v.resourceVersion ≤ w.clock
  stored : ∀ p, w.proposal = some p → p ∈ w.versions
  traced : ∀ p, w.proposal = some p → ∀ v ∈ w.versions, ∀ rule,
    Contains lib p.spec.toPolicyBackendSpec rule →
      Contains lib v.spec.toPolicyBackendSpec rule ∨ LearnedAfter lib w v rule

variable {lib}

lemma LearnedAfter.mono {w w' : World} {v : WorkloadNetworkPolicyProposal} {rule : LearnedRule}
    (h : LearnedAfter lib w v rule) (hsub : w.learned ⊆ w'.learned) : LearnedAfter lib w' v rule := by
  obtain ⟨n, u, hmem, hlt, hsame⟩ := h
  exact ⟨n, u, hsub hmem, hlt, hsame⟩

/-- A new version is traced if every rule it has is in the old one or is learned with it. -/
lemma Traced.store {w : World} (h : Traced lib w) {p : WorkloadNetworkPolicyProposal}
    (learned : List (Nat × LearnerUpdate))
    (hp : ∀ v ∈ w.versions, ∀ rule, Contains lib p.spec.toPolicyBackendSpec rule →
      Contains lib v.spec.toPolicyBackendSpec rule ∨
        LearnedAfter lib { w.store p with learned := learned } v rule) :
    Traced lib { w.store p with learned := learned } := by
  refine ⟨?_, ?_, ?_⟩
  · refine List.forall_mem_cons.2 ⟨le_rfl, fun v hv => ?_⟩
    have hle := h.bounded v hv
    show v.resourceVersion ≤ w.clock + 1
    omega
  · intro q hq
    obtain rfl := Option.some.inj hq
    exact List.mem_cons_self ..
  · intro q hq v hv rule hrule
    obtain rfl := Option.some.inj hq
    rcases List.mem_cons.1 hv with rfl | hv
    · exact Or.inl hrule
    · exact hp v hv rule hrule

/-- A version that differs from the stored one outside its specification. -/
lemma Traced.storeMetadata {w : World} (h : Traced lib w) {old new : WorkloadNetworkPolicyProposal}
    (hold : w.proposal = some old) (hspec : new.spec = old.spec) : Traced lib (w.store new) := by
  refine h.store w.learned ?_
  intro v hv rule hrule
  rw [hspec] at hrule
  exact h.traced old hold v hv rule hrule

lemma Traced.forget {w : World} (h : Traced lib w) : Traced lib { w with proposal := none } := by
  refine ⟨h.bounded, ?_, ?_⟩
  · intro p hp
    cases hp
  · intro p hp
    cases hp

/-- **What others do keeps the trace.** -/
theorem Traced.interference {key : NamespacedName} {w w' : World} (h : Traced lib w)
    (hstep : Interference lib key w w') : Traced lib w' := by
  cases hstep with
  | @learn old u spec hold _ happly _ =>
    refine h.store _ ?_
    intro v hv rule hrule
    rcases Contains.apply lib happly hrule with hrule | hsame
    · exact (h.traced old hold v hv rule hrule).imp_right fun ha => ha.mono (List.subset_cons_self ..)
    · -- the update is the newest of all
      have hle := h.bounded v hv
      exact Or.inr ⟨w.clock + 1, u, List.mem_cons_self .., by omega, hsame⟩
  | @learnFirst u spec _ _ happly =>
    refine h.store _ ?_
    intro v hv rule hrule
    rcases Contains.apply lib happly hrule with hrule | hsame
    · exact absurd hrule (not_contains_metadata lib u rule)
    · have hle := h.bounded v hv
      exact Or.inr ⟨w.clock + 1, u, List.mem_cons_self .., by omega, hsame⟩
  | editMetadata hold hspec _ => exact h.storeMetadata hold hspec
  | delete => exact h.forget
  | editPolicies => exact ⟨h.bounded, h.stored, h.traced⟩

/-- What a request can do to the world. -/
lemma answers_cases {r : Request} {w w' : World} {x : r.Resp} (hans : Answers r w x w') :
    w' = w ∨ (∃ old refs, w.proposal = some old ∧ w' = w.store { old with ownerReferences := refs }) ∨
      (∃ policies, w' = { w with policies := policies }) ∨ w' = { w with proposal := none } := by
  cases r with
  | get key => exact Or.inl hans.1
  | getOwner wk => exact Or.inl hans
  | patchOwnerReferences proposal refs =>
    cases x with
    | error err => exact Or.inl hans
    | ok patched =>
      obtain ⟨old, hold, ⟨_, _, h⟩ | ⟨_, h⟩⟩ := hans
      · exact Or.inl h
      · exact Or.inr (Or.inl ⟨old, refs, hold, h⟩)
  | checkExistingPolicy ns name => exact Or.inl hans
  | create policy =>
    cases x with
    | created => exact Or.inr (Or.inr (Or.inl ⟨_, hans.2⟩))
    | alreadyExists => exact Or.inl hans
    | failed err => exact Or.inl hans
  | delete proposal reason =>
    cases x with
    | none => exact Or.inr (Or.inr (Or.inr hans.2))
    | some err => exact Or.inl hans

/-- **What the reconciler asks for keeps the trace.** -/
theorem Traced.answers {r : Request} {w w' : World} {x : r.Resp} (h : Traced lib w)
    (hans : Answers r w x w') : Traced lib w' := by
  rcases answers_cases hans with rfl | ⟨old, refs, hold, rfl⟩ | ⟨policies, rfl⟩ | rfl
  · exact h
  · exact h.storeMetadata hold rfl
  · exact ⟨h.bounded, h.stored, h.traced⟩
  · exact h.forget

/-- A version stays a version. -/
lemma versions_subset_interference {key : NamespacedName} {w w' : World}
    (hstep : Interference lib key w w') : w.versions ⊆ w'.versions := by
  cases hstep with
  | learn => exact List.subset_cons_self ..
  | learnFirst => exact List.subset_cons_self ..
  | editMetadata => exact List.subset_cons_self ..
  | delete => exact fun _ h => h
  | editPolicies => exact fun _ h => h

lemma versions_subset_answers {r : Request} {w w' : World} {x : r.Resp} (hans : Answers r w x w') :
    w.versions ⊆ w'.versions := by
  rcases answers_cases hans with rfl | ⟨old, refs, _, rfl⟩ | ⟨policies, rfl⟩ | rfl
  · exact fun _ h => h
  · exact List.subset_cons_self ..
  · exact fun _ h => h
  · exact fun _ h => h

/-! ## The program -/

/-- What holds when the reconciler makes a request: the proposal it deletes after a promotion is a version,
and the policy is its copy. -/
def Requested : Request → World → Prop
  | .delete proposal (.promoted policy), w =>
    proposal ∈ w.versions ∧ ∃ mode, promotedPolicy proposal mode = .ok policy
  | _, _ => True

/-- The proposal in hand is a version of the stored one. -/
def InHand (lib : Apimachinery) (proposal : WorkloadNetworkPolicyProposal) (w : World) : Prop :=
  Traced lib w ∧ proposal ∈ w.versions

variable {key : NamespacedName} {ctrl : ControllerLib}

lemma stable_traced : (system lib key).Stable (Traced lib) := fun _ _ h hstep => h.interference hstep

lemma stable_inHand (proposal : WorkloadNetworkPolicyProposal) :
    (system lib key).Stable (InHand lib proposal) :=
  fun _ _ h hstep => ⟨h.1.interference hstep, versions_subset_interference hstep h.2⟩

lemma InHand.answers {proposal : WorkloadNetworkPolicyProposal} {r : Request} {w w' : World} {x : r.Resp}
    (h : InHand lib proposal w) (hans : Answers r w x w') : InHand lib proposal w' :=
  ⟨h.1.answers hans, versions_subset_answers hans h.2⟩

/-- A request made with a proposal in hand. -/
lemma safe_ask {α : Type} {Q : α → World → Prop} {proposal : WorkloadNetworkPolicyProposal} {r : Request}
    {f : r.Resp → ProposalM α} {w : World} (hw : InHand lib proposal w)
    (hr : ∀ w, InHand lib proposal w → Requested r w)
    (h : ∀ w x w', InHand lib proposal w → Answers r w x w' → InHand lib proposal w' →
      Safe (system lib key) (Traced lib) Requested Q (f x) w') :
    Safe (system lib key) (Traced lib) Requested Q (ask r >>= f) w :=
  Safe.ask_bind (stable_inHand proposal) hw (fun w h => ⟨h.1, hr w h⟩)
    fun w x w' hw hans => h w x w' hw hans (hw.answers hans)

/-- The result of `reconcileOwnership`: the proposal it hands on is a version. -/
def OwnershipDone (lib : Apimachinery) (res : Except Err (Bool × WorkloadNetworkPolicyProposal))
    (w : World) : Prop :=
  Traced lib w ∧ ∀ deleted proposal, res = .ok (deleted, proposal) → proposal ∈ w.versions

lemma reconcileOwnership_safe {proposal : WorkloadNetworkPolicyProposal} {w : World}
    (hw : InHand lib proposal w) :
    Safe (system lib key) (Traced lib) Requested (OwnershipDone lib)
      (reconcileOwnership ctrl proposal) w := by
  have hpatched : ∀ refs w patched w', InHand lib proposal w →
      Answers (.patchOwnerReferences proposal refs) w (.ok patched) w' → InHand lib patched w' := by
    intro refs w patched w' hw hans
    refine ⟨hw.1.answers hans, ?_⟩
    -- the response is the stored proposal
    obtain ⟨old, hold, ⟨_, rfl, rfl⟩ | ⟨rfl, rfl⟩⟩ := hans
    · exact hw.1.stored _ hold
    · exact List.mem_cons_self ..
  refine reconcileOwnership_rule ctrl stable_inHand (fun _ _ h => h.1) (fun _ _ _ _ h => h.answers) hpatched
    (fun _ _ _ => trivial) (fun _ _ _ _ _ _ _ _ _ => trivial) (fun _ _ _ => trivial) ?_ ?_ hw
  · intro err w h
    refine ⟨h.1, fun deleted p heq => ?_⟩
    cases heq
  · intro deleted p w h
    refine ⟨h.1, fun deleted q heq => ?_⟩
    cases heq
    exact h.2

/-- The end of a call. -/
lemma safe_end {w : World} (err : Option Err) (hw : Traced lib w) :
    Safe (system lib key) (Traced lib) Requested (fun _ => Traced lib) (.ret err) w :=
  Safe.ret stable_traced hw fun _ h => ⟨h, h⟩

lemma promote_safe {proposal : WorkloadNetworkPolicyProposal} {mode : WorkloadNetworkPolicyMode} {w : World}
    (hw : InHand lib proposal w) :
    Safe (system lib key) (Traced lib) Requested (fun _ => Traced lib) (promote proposal mode) w := by
  unfold promote
  cases hpolicy : promotedPolicy proposal mode with
  | error err => exact safe_end _ hw.1
  | ok policy =>
    refine safe_ask hw (fun _ _ => trivial) ?_
    intro w x w' _ _ hw
    cases x with
    | alreadyExists => exact safe_end _ hw.1
    | failed err => exact safe_end _ hw.1
    | created =>
      refine safe_ask hw (fun w h => ⟨h.2, mode, hpolicy⟩) ?_
      intro w x w' _ _ hw
      exact safe_end _ hw.1

lemma reconcile_safe {w : World} (hw : Traced lib w) :
    Safe (system lib key) (Traced lib) Requested (fun _ => Traced lib) (reconcile ctrl key) w := by
  unfold reconcile
  refine Safe.ask_bind stable_traced hw (fun w h => ⟨h, trivial⟩) ?_
  intro w x w' hw hans
  obtain ⟨rfl, hread⟩ := hans
  cases x with
  | error err => exact safe_end _ hw
  | ok proposal =>
    dsimp only
    split
    · exact safe_end _ hw
    · refine Safe.bind (reconcileOwnership_safe ⟨hw, hread proposal rfl⟩) ?_
      intro res w hres
      rcases res with err | ⟨deleted, proposal⟩
      · exact safe_end _ hres.1
      · cases deleted with
        | true => exact safe_end _ hres.1
        | false =>
          have hw : InHand lib proposal w := ⟨hres.1, hres.2 false proposal rfl⟩
          refine safe_ask hw (fun _ _ => trivial) ?_
          intro w x w' _ _ hw
          rcases x with err | policies
          · exact safe_end _ hw.1
          · cases policies with
            | cons policy policies =>
              refine safe_ask hw (fun _ _ => trivial) ?_
              intro w x w' _ _ hw
              exact safe_end _ hw.1
            | nil =>
              dsimp only
              split
              · exact safe_end _ hw.1
              · exact promote_safe hw

end

/-! ## Whole runs -/

/-- A cluster in which nothing has been learned yet beyond what the proposal holds. -/
def World.start (proposal : Option WorkloadNetworkPolicyProposal)
    (policies : Store WorkloadNetworkPolicy.key) : World where
  proposal := proposal
  versions := proposal.toList
  clock := (proposal.map fun p => p.resourceVersion).getD 0
  policies := policies

lemma traced_start (lib : Apimachinery) (proposal : Option WorkloadNetworkPolicyProposal)
    (policies : Store WorkloadNetworkPolicy.key) : Traced lib (World.start proposal policies) := by
  cases proposal with
  | none => exact ⟨by simp [World.start], by simp [World.start], by simp [World.start]⟩
  | some p =>
    refine ⟨by simp [World.start], by simp [World.start], ?_⟩
    intro q hq v hv rule hrule
    obtain rfl := Option.some.inj hq
    obtain rfl : v = p := by simpa [World.start] using hv
    exact Or.inl hrule

/-- **A promotion keeps every rule but those learned meanwhile.**  Whenever the reconciler is about to
delete a proposal it has promoted, whatever learner updates, edits and deletions came in between: the
policy has the specification of a version of the proposal, and every rule that the stored proposal has
is in the policy or was learned after that version was stored. -/
theorem promotion_keeps_rules {lib : Apimachinery} {ctrl : ControllerLib} {key : NamespacedName}
    {start : Option WorkloadNetworkPolicyProposal} {policies : Store WorkloadNetworkPolicy.key} {w : World}
    {proposal : WorkloadNetworkPolicyProposal} {policy : WorkloadNetworkPolicy}
    {k : Option Err → ProposalM (Option Err)}
    (hrun : (system lib key).Runs (reconcile ctrl key)
      (World.start start policies, reconcile ctrl key)
      (w, .call (.delete proposal (.promoted policy)) k)) :
    proposal ∈ w.versions ∧
    policy.spec.toPolicyBackendSpec = proposal.spec.toPolicyBackendSpec ∧
    policy.spec.toWorkloadTargetingSpec = proposal.spec.toWorkloadTargetingSpec ∧
    ∀ stored, w.proposal = some stored → ∀ rule, Contains lib stored.spec.toPolicyBackendSpec rule →
      Contains lib policy.spec.toPolicyBackendSpec rule ∨ LearnedAfter lib w proposal rule := by
  have hsafe := Safe.reachable (fun _ _ h => reconcile_safe h)
    (reconcile_safe (traced_start lib start policies)) hrun
  obtain ⟨hversion, mode, hpolicy⟩ : Requested (.delete proposal (.promoted policy)) w := hsafe.request
  have hspec := (promotedPolicy_eq_ok hpolicy).2.2
  refine ⟨hversion, by rw [hspec], by rw [hspec], ?_⟩
  intro stored hstored rule hrule
  rw [hspec]
  exact hsafe.inv_holds.traced stored hstored proposal hversion rule hrule

section

variable {lib : Apimachinery} {ctrl : ControllerLib} {key : NamespacedName}

/-- A run from here comes to a request. -/
def Reaches (lib : Apimachinery) (key : NamespacedName) (body : ProposalM (Option Err)) (w : World)
    (p : ProposalM (Option Err)) (w' : World) (r : Request) : Prop :=
  ∃ k, (system lib key).Runs body (w, p) (w', .call r k)

lemma Reaches.env {body p : ProposalM (Option Err)} {w w' c : World} {r : Request}
    (henv : Relation.ReflTransGen (Interference lib key) w w') (h : Reaches lib key body w' p c r) :
    Reaches lib key body w p c r := by
  induction henv using Relation.ReflTransGen.head_induction_on with
  | refl => exact h
  | head hstep _ ih =>
    obtain ⟨k, hk⟩ := ih
    exact ⟨k, hk.head (.env hstep)⟩

lemma Reaches.ask {body : ProposalM (Option Err)} {w w' c : World} {r r' : Request}
    {f : r.Resp → ProposalM (Option Err)} {x : r.Resp} (hans : Answers r w x w')
    (h : Reaches lib key body w' (f x) c r') : Reaches lib key body w (ask r >>= f) c r' := by
  obtain ⟨k, hk⟩ := h
  exact ⟨k, hk.head (.call hans)⟩

/-- The first request of a program that goes on with another one. -/
lemma Reaches.ask_bind {α : Type} {body : ProposalM (Option Err)} {w w' c : World} {r r' : Request}
    {g : r.Resp → ProposalM α} {f : α → ProposalM (Option Err)} {x : r.Resp} (hans : Answers r w x w')
    (h : Reaches lib key body w' (g x >>= f) c r') :
    Reaches lib key body w ((Learning.ask r >>= g) >>= f) c r' := by
  obtain ⟨k, hk⟩ := h
  exact ⟨k, hk.head (.call hans)⟩

/-- The window of a promotion: between the read and the creation of the policy others may do anything. -/
lemma reaches_promotion {body : ProposalM (Option Err)} {w w' : World} {p : WorkloadNetworkPolicyProposal}
    {wk : WorkloadRef} {owner : OwnerReference} {mode : WorkloadNetworkPolicyMode}
    {policy : WorkloadNetworkPolicy} (hversion : p ∈ w.versions) (hdeletion : p.deletionTimestamp = none)
    (hwk : ownerRefFromProposalName p.ns p.name = some wk)
    (howner : getControllerOf p.ownerReferences = some owner)
    (hlabel : hasPromotionLabel p = some mode) (hpolicy : promotedPolicy p mode = .ok policy)
    (henv : Relation.ReflTransGen (Interference lib key) w w')
    (hfree : w'.policies.lookup policy.key = none) :
    Reaches lib key body w (reconcile ctrl key) { w' with policies := w'.policies.put policy }
      (.delete p (.promoted policy)) := by
  -- the answers: the version, the owner with the UID of the reference, no promoted policy, success
  have hget : Answers (.get key) w (.ok p) w := by
    refine ⟨rfl, fun q hq => ?_⟩
    obtain rfl := Except.ok.inj hq
    exact hversion
  have hgetOwner : Answers (.getOwner wk) w' (.ok { uid := owner.uid }) w' := rfl
  have hlist : Answers (.checkExistingPolicy p.ns p.name) w' (.ok []) w' := rfl
  have hcreate : Answers (.create policy) w' .created { w' with policies := w'.policies.put policy } :=
    ⟨hfree, rfl⟩
  have hpromote : Reaches lib key body w' (promote p mode) { w' with policies := w'.policies.put policy }
      (.delete p (.promoted policy)) := by
    unfold promote
    rw [hpolicy]
    exact Reaches.ask hcreate ⟨_, .refl⟩
  unfold reconcile
  refine Reaches.ask hget (Reaches.env henv ?_)
  simp only [hdeletion, Option.isSome_none, Bool.false_eq_true, if_false, reconcileOwnership, hwk]
  refine Reaches.ask_bind hgetOwner ?_
  simp only [howner, Option.map_some, if_true]
  refine Reaches.ask hlist ?_
  simp only [hlabel]
  exact hpromote

end

/-! ## A lost rule -/

/-- The proposal of `web` with a flow to the database, labelled for promotion. -/
def labelledProposal : WorkloadNetworkPolicyProposal :=
  { sampleProposal with
    resourceVersion := 1
    labels := AList.singleton proposalPromoteLabelKey "monitor"
    ownerReferences := [⟨"apps/v1", "Deployment", "web", "u1", some true⟩] }

/-- The learner sees a second port of the database. -/
def secondFlow : LearnerUpdate := .kubernetes (sampleWorkload "web") .egress ⟨sampleWorkload "db", "TCP", 5433⟩

/-- The specification with both ports. -/
def learnedSpec : WorkloadNetworkPolicyProposalSpec :=
  ((secondFlow.apply .documented labelledProposal.spec).toOption).getD labelledProposal.spec

/-- The run in which the learner comes between the read and the creation of the policy. -/
lemma sampleRun : ∃ w policy k,
    (system .documented labelledProposal.namespacedName).Runs
      (reconcile (.direct 0) labelledProposal.namespacedName)
      (World.start (some labelledProposal) (.ofList []),
        reconcile (.direct 0) labelledProposal.namespacedName)
      (w, .call (.delete labelledProposal (.promoted policy)) k) ∧
    promotedPolicy labelledProposal .monitor = .ok policy ∧
    ∃ stored, w.proposal = some stored ∧ stored.spec = learnedSpec := by
  obtain ⟨policy, hpolicy⟩ := exists_promotedPolicy labelledProposal (by decide) .monitor
  have hne : learnedSpec ≠ labelledProposal.spec := by
    intro h
    have hports := congrArg
      (fun s => s.kubernetes.map fun k => k.egress.map fun r => r.ports.length) h
    exact absurd hports (by decide)
  have happly : secondFlow.apply .documented labelledProposal.spec = .ok learnedSpec := rfl
  have hlearn : Interference .documented labelledProposal.namespacedName
      (World.start (some labelledProposal) (.ofList [])) _ := .learn rfl rfl happly hne
  obtain ⟨k, hrun⟩ : Reaches .documented labelledProposal.namespacedName
      (reconcile (.direct 0) labelledProposal.namespacedName) _
      (reconcile (.direct 0) labelledProposal.namespacedName) _ (.delete labelledProposal (.promoted policy)) :=
    reaches_promotion (List.mem_singleton.2 rfl) rfl rfl rfl rfl hpolicy (.single hlearn) rfl
  exact ⟨_, policy, k, hrun, hpolicy, _, rfl, rfl⟩

lemma contains_learnedSpec : Contains .documented learnedSpec.toPolicyBackendSpec secondFlow.rule :=
  ⟨_, rfl, by decide⟩

lemma not_contains_promoted {policy : WorkloadNetworkPolicy}
    (h : promotedPolicy labelledProposal .monitor = .ok policy) :
    ¬ Contains .documented policy.spec.toPolicyBackendSpec secondFlow.rule := by
  rw [(promotedPolicy_eq_ok h).2.2]
  rintro ⟨k, hk, hcontains⟩
  obtain rfl := Option.some.inj hk
  exact absurd hcontains (by decide)

/-- In the sample run the missing rule was learned after the version that was promoted. -/
theorem promotion_keeps_rules_sample : ∃ w policy k,
    (system .documented labelledProposal.namespacedName).Runs
      (reconcile (.direct 0) labelledProposal.namespacedName)
      (World.start (some labelledProposal) (.ofList []),
        reconcile (.direct 0) labelledProposal.namespacedName)
      (w, .call (.delete labelledProposal (.promoted policy)) k) ∧
    policy.spec.toPolicyBackendSpec = labelledProposal.spec.toPolicyBackendSpec ∧
    LearnedAfter .documented w labelledProposal secondFlow.rule := by
  obtain ⟨w, policy, k, hrun, hpolicy, stored, hstored, hspec⟩ := sampleRun
  obtain ⟨_, hbackend, _, hrules⟩ := promotion_keeps_rules hrun
  refine ⟨w, policy, k, hrun, hbackend, ?_⟩
  rcases hrules stored hstored secondFlow.rule (hspec ▸ contains_learnedSpec) with h | h
  · exact absurd h (not_contains_promoted hpolicy)
  · exact h

/-- **A rule learned between the read and the deletion is lost.** -/
theorem promotion_loses_concurrent_rule : ∃ w policy stored k,
    (system .documented labelledProposal.namespacedName).Runs
      (reconcile (.direct 0) labelledProposal.namespacedName)
      (World.start (some labelledProposal) (.ofList []),
        reconcile (.direct 0) labelledProposal.namespacedName)
      (w, .call (.delete labelledProposal (.promoted policy)) k) ∧
    w.proposal = some stored ∧ Contains .documented stored.spec.toPolicyBackendSpec secondFlow.rule ∧
    ¬ Contains .documented policy.spec.toPolicyBackendSpec secondFlow.rule := by
  obtain ⟨w, policy, k, hrun, hpolicy, stored, hstored, hspec⟩ := sampleRun
  exact ⟨w, policy, stored, k, hrun, hstored, hspec ▸ contains_learnedSpec, not_contains_promoted hpolicy⟩

end NetworkEnforcer.Learning
