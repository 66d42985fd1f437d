import NetworkEnforcer.Learning.Kubernetes
import NetworkEnforcer.Semantics.NetworkPolicy

/-!
# What a learned flow adds to a network policy

`rulesAdmit` is the set of flows that the rules of a direction admit.  The learner adds a port to the first
rule whose only peer compares equal to the learned one.  A rule without ports admits every port, and loses
all but the learned one, so that the other rules have to admit the peer on them (`OthersAdmit`); everything
else is exact, for rules of any shape (`upsertRuleByPeer_exact_iff`).
-/

namespace NetworkEnforcer.Learning

open NetworkEnforcer.Lib NetworkEnforcer.Api NetworkEnforcer.Semantics

section

variable (lib : Apimachinery) (inCIDR : String → String → Bool) (policyNs : String) {R : Type}
  (T : PeerPortRule R)

/-- Some rule admits the flow. -/
def rulesAdmit (rules : List R) (f : Flow) : Bool :=
  rules.any fun rule => ruleAdmits lib inCIDR policyNs (T.peers rule) (T.ports rule) f

/-- The learned peer, on the learned protocol and port. -/
def IsLearned (e : LearnedFlow) (f : Flow) : Prop :=
  peerMatches lib inCIDR policyNs e.peerAndPort.1 f.peer = true ∧ f.protocol = e.protocol ∧ f.port = e.dstPort

/-- A flow that there is: a protocol of the API, and a port number. -/
def IsFlow (f : Flow) : Prop := f.protocol ∈ ["TCP", "UDP", "SCTP"] ∧ 0 ≤ f.port ∧ f.port ≤ 65535

/-- The first rule whose only peer is the learned one has no ports. -/
def NarrowsRule (rules : List R) (e : LearnedFlow) : Prop :=
  ∃ rule, rules.find? (hasPeer lib T · e.peerAndPort.1) = some rule ∧ T.ports rule = []

/-- The rules but for that one admit the learned peer on every other protocol and port. -/
def OthersAdmit (rules : List R) (e : LearnedFlow) : Prop :=
  ∀ f, IsFlow f → peerMatches lib inCIDR policyNs e.peerAndPort.1 f.peer = true →
    ¬(f.protocol = e.protocol ∧ f.port = e.dstPort) →
      rulesAdmit lib inCIDR policyNs T (rules.eraseP (hasPeer lib T · e.peerAndPort.1)) f = true

/-- The rule with the port, unless it has it. -/
def withPort (rule : R) (port : NetworkPolicyPort) : R :=
  if hasPort T rule port then rule else T.rule (T.peers rule) (T.ports rule ++ [port])

lemma upsertRuleByPeer_eq (peer : NetworkPolicyPeer) (port : NetworkPolicyPort) (rules : List R) :
    upsertRuleByPeer lib T peer port rules =
      upsertFirst (hasPeer lib T · peer) (withPort T · port) (T.rule [peer] [port]) rules := by
  induction rules with
  | nil => rfl
  | cons rule rules ih =>
    rw [upsertRuleByPeer, upsertFirst, ih]
    rfl

lemma portMatches_learned (e : LearnedFlow) (f : Flow) :
    portMatches e.peerAndPort.2 f = true ↔ f.protocol = e.protocol ∧ f.port = e.dstPort := by
  show (decide (e.protocol = f.protocol) && decide (f.port = e.dstPort)) = true ↔ _
  rw [Bool.and_eq_true, decide_eq_true_eq, decide_eq_true_eq, eq_comm]

/-- The rule of the learned peer admits that peer on its ports. -/
lemma ruleAdmits_of_hasPeer {lib : Apimachinery} (hlib : LawfulSelectors lib) {rule : R} {e : LearnedFlow}
    (h : hasPeer lib T rule e.peerAndPort.1 = true) (ports : List NetworkPolicyPort) (f : Flow) :
    ruleAdmits lib inCIDR policyNs (T.peers rule) ports f = true ↔
      peerMatches lib inCIDR policyNs e.peerAndPort.1 f.peer = true ∧ admits (portMatches · f) ports = true := by
  unfold hasPeer at h
  split at h
  next p hp =>
    have heq : policyPeerEqual lib (inNamespace e.peer.ns (some e.peer.selector)) p = true :=
      (policyPeerEqual_equivalence lib).symm h
    have hpeer : peerMatches lib inCIDR policyNs p f.peer =
        peerMatches lib inCIDR policyNs e.peerAndPort.1 f.peer :=
      peerMatches_of_policyPeerEqual hlib heq inCIDR policyNs f.peer
    rw [ruleAdmits, Bool.and_eq_true, hp, admits_cons, hpeer]
    simp
  next => cases h

/-- A rule of the learned peer that names its ports gains the learned flow, if it did not have it. -/
lemma ruleAdmits_withPort {lib : Apimachinery} (hlib : LawfulSelectors lib) {rule : R} {e : LearnedFlow}
    (h : hasPeer lib T rule e.peerAndPort.1 = true) (hports : T.ports rule ≠ []) (f : Flow) :
    ruleAdmits lib inCIDR policyNs (T.peers (withPort T rule e.peerAndPort.2))
        (T.ports (withPort T rule e.peerAndPort.2)) f = true ↔
      ruleAdmits lib inCIDR policyNs (T.peers rule) (T.ports rule) f = true ∨
        IsLearned lib inCIDR policyNs e f := by
  have hpeer := ruleAdmits_of_hasPeer inCIDR policyNs T hlib h
  unfold withPort IsLearned
  by_cases hport : hasPort T rule e.peerAndPort.2 = true
  · -- the rule is left as it is, and admits the learned flow already
    rw [if_pos hport]
    refine ⟨Or.inl, ?_⟩
    rintro (hold | ⟨hp, hlearned⟩)
    · exact hold
    · obtain ⟨q, hq, heq⟩ := List.any_eq_true.1 hport
      obtain rfl := policyPortEqual_iff.1 heq
      exact (hpeer _ f).2 ⟨hp, admits_iff.2 (Or.inr ⟨_, hq, (portMatches_learned e f).2 hlearned⟩)⟩
  · rw [if_neg hport, T.peers_rule, T.ports_rule, hpeer, hpeer, admits_concat hports, Bool.or_eq_true,
      portMatches_learned, and_or_left]

/-- A port adds the learned flow to the rule, unless the rule has no ports; then it costs the peer all
others. -/
lemma addsTo_withPort {lib : Apimachinery} (hlib : LawfulSelectors lib) (e : LearnedFlow) :
    AddsTo (hasPeer lib T · e.peerAndPort.1) (withPort T · e.peerAndPort.2)
      (T.rule [e.peerAndPort.1] [e.peerAndPort.2])
      (fun rule f => ruleAdmits lib inCIDR policyNs (T.peers rule) (T.ports rule) f)
      (IsLearned lib inCIDR policyNs e) (fun f => peerMatches lib inCIDR policyNs e.peerAndPort.1 f.peer = true)
      (fun rule => T.ports rule = []) (fun _ _ => False) where
  new f := by
    rw [T.peers_rule, T.ports_rule, ruleAdmits, admits_cons, admits_cons]
    simp [IsLearned, portMatches_learned]
  gain rule hpeer hports f := ruleAdmits_withPort inCIDR policyNs T hlib hpeer hports f
  old rule hpeer hnil f := by
    rw [ruleAdmits_of_hasPeer inCIDR policyNs T hlib hpeer, hnil, and_iff_left admits_nil]
  less rule hpeer hnil f := by
    have hport : ¬hasPort T rule e.peerAndPort.2 = true := by simp [hasPort, hnil]
    rw [withPort, if_neg hport, T.peers_rule, T.ports_rule, hnil,
      ruleAdmits_of_hasPeer inCIDR policyNs T hlib hpeer, List.nil_append, admits_cons]
    simp [IsLearned, portMatches_learned]
  added_own _ h := h.1
  left_own _ _ h := h.elim

/-- **When learning is exact**, at one flow. -/
lemma rulesAdmit_upsert_iff {lib : Apimachinery} (hlib : LawfulSelectors lib) (rules : List R)
    (e : LearnedFlow) (f : Flow) :
    (rulesAdmit lib inCIDR policyNs T (upsertRuleByPeer lib T e.peerAndPort.1 e.peerAndPort.2 rules) f = true ↔
        rulesAdmit lib inCIDR policyNs T rules f = true ∨ IsLearned lib inCIDR policyNs e f) ↔
      (NarrowsRule lib T rules e → peerMatches lib inCIDR policyNs e.peerAndPort.1 f.peer = true →
        ¬(f.protocol = e.protocol ∧ f.port = e.dstPort) →
          rulesAdmit lib inCIDR policyNs T (rules.eraseP (hasPeer lib T · e.peerAndPort.1)) f = true) := by
  have hexact := (addsTo_withPort inCIDR policyNs T hlib e).any_upsertFirst_iff rules f
  rw [← upsertRuleByPeer_eq] at hexact
  refine hexact.trans ⟨?_, ?_⟩
  · rintro h ⟨rule, hfound, hnil⟩ hpeer hother
    exact (h rule hfound hnil hpeer fun hlearned => hother hlearned.2).resolve_left id
  · intro h rule hfound hnil hpeer hlearned
    exact Or.inr (h ⟨rule, hfound, hnil⟩ hpeer fun hother => hlearned ⟨hpeer, hother⟩)

/-- What the rules admit grows by exactly the learned flow. -/
def GrowsByLearned (rules learned : List R) (e : LearnedFlow) : Prop :=
  ∀ f, IsFlow f → (rulesAdmit lib inCIDR policyNs T learned f = true ↔
    rulesAdmit lib inCIDR policyNs T rules f = true ∨ IsLearned lib inCIDR policyNs e f)

/-- **When learning is exact**, for the rules of one direction. -/
lemma growsByLearned_upsert_iff {lib : Apimachinery} (hlib : LawfulSelectors lib) (rules : List R)
    (e : LearnedFlow) :
    GrowsByLearned lib inCIDR policyNs T rules (upsertRuleByPeer lib T e.peerAndPort.1 e.peerAndPort.2 rules) e ↔
      (NarrowsRule lib T rules e → OthersAdmit lib inCIDR policyNs T rules e) := by
  have hexact := rulesAdmit_upsert_iff inCIDR policyNs T hlib rules e
  constructor
  · intro h hnarrows f hf
    exact (hexact f).1 (h f hf) hnarrows
  · intro h f hf
    exact (hexact f).2 fun hnarrows => h hnarrows f hf

end

/-- **When kubernetes learning is exact.**  In both directions, whatever the rules are: they admit what they
admitted and the learned flow, no less and no more, exactly when no rule without ports is narrowed or the
other rules admit the peer on every other protocol and port. -/
theorem upsertRuleByPeer_exact_iff {lib : Apimachinery} (hlib : LawfulSelectors lib)
    (inCIDR : String → String → Bool) (policyNs : String) (e : LearnedFlow) :
    (∀ rules, GrowsByLearned lib inCIDR policyNs egressRule rules
        (upsertEgressRuleByPeer lib rules e.peerAndPort.1 e.peerAndPort.2) e ↔
      (NarrowsRule lib egressRule rules e → OthersAdmit lib inCIDR policyNs egressRule rules e)) ∧
    ∀ rules, GrowsByLearned lib inCIDR policyNs ingressRule rules
        (upsertIngressRuleByPeer lib rules e.peerAndPort.1 e.peerAndPort.2) e ↔
      (NarrowsRule lib ingressRule rules e → OthersAdmit lib inCIDR policyNs ingressRule rules e) :=
  ⟨fun rules => growsByLearned_upsert_iff inCIDR policyNs egressRule hlib rules e,
    fun rules => growsByLearned_upsert_iff inCIDR policyNs ingressRule hlib rules e⟩

/-- A flow to any pod of a namespace on port 443, for the two runs below. -/
def toShop443 : LearnedFlow where
  peer := { ns := "shop" }
  protocol := "TCP"
  dstPort := 443

/-- A second port of a peer that is learned with one. -/
theorem upsertRuleByPeer_exact_second_port :
    let http : NetworkPolicyPort := { protocol := some "TCP", port := some (.int 80) }
    let rules : List NetworkPolicyEgressRule := [{ to_ := [toShop443.peerAndPort.1], ports := [http] }]
    GrowsByLearned namespaceSelectors (fun _ _ => false) "web" egressRule rules
      (upsertEgressRuleByPeer namespaceSelectors rules toShop443.peerAndPort.1 toShop443.peerAndPort.2)
      toShop443 := by
  intro http rules
  have hexact := (upsertRuleByPeer_exact_iff lawful_namespaceSelectors (fun _ _ => false) "web" toShop443).1 rules
  refine hexact.2 ?_
  rintro ⟨rule, hfound, hnil⟩
  obtain rfl := List.mem_singleton.1 (List.mem_of_find?_eq_some hfound)
  cases hnil

/-- A rule without ports admits the namespace on every port; after port 443 is learned, port 80 is lost. -/
theorem upsertRuleByPeer_revokes :
    let rules : List NetworkPolicyEgressRule := [{ to_ := [toShop443.peerAndPort.1] }]
    let http : Flow := ⟨.pod "shop" (AList.singleton labelMetadataName "shop") ∅ "10.0.0.1", "TCP", 80, []⟩
    rulesAdmit namespaceSelectors (fun _ _ => false) "web" egressRule rules http = true ∧
      rulesAdmit namespaceSelectors (fun _ _ => false) "web" egressRule
        (upsertEgressRuleByPeer namespaceSelectors rules toShop443.peerAndPort.1 toShop443.peerAndPort.2)
        http = false := by
  decide +kernel

end NetworkEnforcer.Learning
