import NetworkEnforcer.Learning.Admitted
import NetworkEnforcer.Learning.KubernetesFlows
import NetworkEnforcer.Reconcile.Ready

/-!
# What the data plane permits, kubernetes backend

The way of a flow through the whole program: it is observed and learned into a proposal, the proposal is
promoted, and `Reconcile` renders the policy as a `NetworkPolicy`.  `permits` is what that object lets pass.

* `enforced_iff_learned` — once `Ready` is `True` in protect mode, what passes is what was learned;
* `permits_of_monitor_silent` — whatever the rules of a policy are, a flow about which the monitor is silent
  passes when the policy is switched to protect mode.
-/

namespace NetworkEnforcer.Enforcement

open NetworkEnforcer.Lib NetworkEnforcer.Api NetworkEnforcer.Semantics NetworkEnforcer.Reconcile
open NetworkEnforcer.Learning hiding World reconcile admits

/-! ## What a network policy lets pass -/

/-- A network policy isolates the pods it selects in the directions of its policy types, and there it lets
pass what one of its rules admits. -/
def permits (lib : Apimachinery) (inCIDR : String → String → Bool) (np : NetworkPolicy)
    (direction : PolicyType) (f : Flow) : Bool :=
  direction ∉ np.spec.policyTypes ||
    (effectiveRules np.spec direction).any fun rule => ruleAdmits lib inCIDR np.ns rule.1 rule.2 f

/-- The API server labels every namespace with its name. -/
def Labelled : Endpoint → Prop
  | .pod ns nsLabels _ _ => nsLabels.lookup labelMetadataName = some ns
  | .external _ => True

/-- A flow of the learned kind: the other end is a pod that the selector of the learned peer selects in the
namespace of that peer, and protocol and port are the learned ones. -/
def IsFlowOf (lib : Apimachinery) (e : LearnedFlow) (f : Flow) : Prop :=
  (∃ nsLabels labels ip, f.peer = .pod e.peer.ns nsLabels labels ip ∧
    selects lib e.peer.selector labels = true) ∧ f.protocol = e.protocol ∧ f.port = e.dstPort

section Rules

variable {lib : Apimachinery} (hlib : LawfulSelectors lib) (inCIDR : String → String → Bool)
  (policyNs : String)
include hlib

/-- The peer that is built for a workload matches its pods, and nothing else. -/
lemma isLearned_iff {e : LearnedFlow} (hvalid : validLabelValue e.peer.ns = true) {f : Flow}
    (hf : Labelled f.peer) : IsLearned lib inCIDR policyNs e f ↔ IsFlowOf lib e f := by
  refine and_congr_left fun _ => ?_
  obtain ⟨peer, protocol, port, names⟩ := f
  cases peer with
  | external ip =>
    refine iff_of_false ?_ ?_
    · exact Bool.false_ne_true
    · rintro ⟨_, _, _, h, -⟩
      cases h
  | pod ns nsLabels labels ip =>
    have hmatch : peerMatches lib inCIDR policyNs e.peerAndPort.1 (.pod ns nsLabels labels ip) =
        (selects lib (labelIs labelMetadataName e.peer.ns) nsLabels && selects lib e.peer.selector labels) := rfl
    have hlabel : nsLabels.lookup labelMetadataName = some ns := hf
    rw [hmatch, Bool.and_eq_true]
    constructor
    · rintro ⟨hns, hlabels⟩
      have hname := hlib.label _ _ _ hns
      rw [hlabel, Option.some.injEq] at hname
      exact ⟨nsLabels, labels, ip, by rw [hname], hlabels⟩
    · rintro ⟨nsLabels', labels', ip', heq, hlabels⟩
      obtain ⟨rfl, rfl, rfl, rfl⟩ := Endpoint.pod.inj heq
      exact ⟨hlib.valid _ _ hvalid hlabel, hlabels⟩

variable {R : Type} (T : PeerPortRule R)

omit hlib in
/-- A learned rule names the ports it is for. -/
lemma ports_ne_nil_of_mem_learnedRules {events : List LearnedFlow} {rule : R}
    (h : rule ∈ learnedRules lib T events) : T.ports rule ≠ [] := by
  rw [learnedRules_eq_map] at h
  obtain ⟨g, hg, rfl⟩ := List.mem_map.1 h
  rw [ports_ruleOf]
  exact (Groups.grouped_ofPairs _).nonempty g hg

/-- **The rules of a sequence of flows admit these flows, and no others.** -/
theorem rulesAdmit_learnedRules (events : List LearnedFlow) (f : Flow) :
    rulesAdmit lib inCIDR policyNs T (learnedRules lib T events) f = true ↔
      ∃ e ∈ events, IsLearned lib inCIDR policyNs e f := by
  -- one more flow at the end of the sequence adds itself, as no learned rule can be narrowed
  induction events using List.reverseRecOn with
  | nil => simp [learnedRules, rulesAdmit]
  | append_singleton events e ih =>
    have hgrows : rulesAdmit lib inCIDR policyNs T (learnedRules lib T (events ++ [e])) f = true ↔
        rulesAdmit lib inCIDR policyNs T (learnedRules lib T events) f = true ∨
          IsLearned lib inCIDR policyNs e f := by
      rw [learnedRules_concat, rulesAdmit_upsert_iff inCIDR policyNs T hlib]
      rintro ⟨rule, hfind, hnil⟩
      exact absurd hnil (ports_ne_nil_of_mem_learnedRules T (List.mem_of_find?_eq_some hfind))
    rw [hgrows, ih]
    simp only [List.mem_append, List.mem_singleton, or_and_right, exists_or, exists_eq_left]

end Rules

/-- The rules that have an effect, where the policy is for one direction. -/
lemma permits_iff_of_hasRules {lib : Apimachinery} (hlib : LawfulSelectors lib)
    (inCIDR : String → String → Bool) {np : NetworkPolicy} {direction : PolicyType}
    (htypes : np.spec.policyTypes = [direction]) {events : List LearnedFlow}
    (hrules : HasRules lib direction events np.spec) (f : Flow) :
    permits lib inCIDR np direction f = true ↔ ∃ e ∈ events, IsLearned lib inCIDR np.ns e f := by
  have hmem : direction ∈ np.spec.policyTypes := by rw [htypes]; exact List.mem_singleton_self _
  have hpermits : permits lib inCIDR np direction f =
      (effectiveRules np.spec direction).any fun rule => ruleAdmits lib inCIDR np.ns rule.1 rule.2 f := by
    simp [permits, hmem]
  unfold effectiveRules at hpermits
  rw [hpermits, if_pos hmem]
  cases direction with
  | egress =>
    simp only [List.any_map]
    rw [show np.spec.egress = learnedRules lib egressRule events from hrules]
    exact rulesAdmit_learnedRules hlib inCIDR np.ns egressRule events f
  | ingress =>
    simp only [List.any_map]
    rw [show np.spec.ingress = learnedRules lib ingressRule events from hrules]
    exact rulesAdmit_learnedRules hlib inCIDR np.ns ingressRule events f
  | unset => exact absurd hrules id

/-! ## From the flows to the policy -/

/-- What a learned specification says besides its rules. -/
structure ForWorkload (workload : WorkloadRef) (direction : PolicyType)
    (proposal : WorkloadNetworkPolicyProposalSpec) (spec : NetworkPolicySpec) : Prop where
  backend : proposal.backend = .kubernetes
  kubernetes : proposal.kubernetes = some spec
  podSelector : spec.podSelector = workload.selector
  policyTypes : spec.policyTypes = [direction]

section Learned

variable {lib : Apimachinery} {workload : WorkloadRef} {direction : PolicyType}

/-- A first flow sets selector and policy type, and every later one keeps them. -/
lemma forWorkload_mutate (hdir : direction ≠ .unset) {proposal proposal' : WorkloadNetworkPolicyProposalSpec}
    (h : proposal.kubernetes = none ∨ ∃ spec, ForWorkload workload direction proposal spec) {e : LearnedFlow}
    (hmut : mutateKubernetesProposal lib workload e.peer direction e.protocol e.dstPort proposal = .ok proposal') :
    ∃ spec, ForWorkload workload direction proposal' spec := by
  obtain ⟨new, spec, hok, hbackend, -, -, hspec, hselector, htypes⟩ :=
    mutateKubernetesProposal_eq_ok lib hdir workload e.peer e.protocol e.dstPort proposal
  obtain rfl : new = proposal' := Except.ok.inj (hok.symm.trans hmut)
  rcases h with hnone | ⟨old, -, hk, hold, htypes'⟩
  · rw [hnone] at hselector htypes
    exact ⟨spec, hbackend, hspec, hselector, htypes⟩
  · have hkeep : selectWorkload workload direction (proposal.kubernetes.getD {}) = old := by
      rw [hk, Option.getD_some, selectWorkload, if_neg (by rw [htypes']; exact List.cons_ne_nil _ _)]
    rw [hkeep] at hselector htypes
    exact ⟨spec, hbackend, hspec, hselector.trans hold, htypes.trans htypes'⟩

lemma forWorkload_foldlM (hdir : direction ≠ .unset) (events : List LearnedFlow)
    {proposal proposal' : WorkloadNetworkPolicyProposalSpec}
    (h : ∃ spec, ForWorkload workload direction proposal spec)
    (hfold : events.foldlM (fun spec e => mutateKubernetesProposal lib workload e.peer direction e.protocol
      e.dstPort spec) proposal = .ok proposal') : ∃ spec, ForWorkload workload direction proposal' spec := by
  induction events generalizing proposal with
  | nil =>
    obtain rfl := Except.ok.inj hfold
    exact h
  | cons e events ih =>
    rw [List.foldlM_cons] at hfold
    cases hmut : mutateKubernetesProposal lib workload e.peer direction e.protocol e.dstPort proposal with
    | error err =>
      rw [hmut] at hfold
      cases hfold
    | ok mid =>
      rw [hmut] at hfold
      exact ih (forWorkload_mutate hdir (.inr h) hmut) hfold

/-- **What is promoted after a sequence of flows**: the policy of the workload with the rules of the flows. -/
lemma promoted_of_learned {events : List LearnedFlow} {proposal : WorkloadNetworkPolicyProposal}
    {mode : WorkloadNetworkPolicyMode} {policy : WorkloadNetworkPolicy} (hne : events ≠ [])
    (hlearn : learnKubernetesProposal lib workload direction events = .ok proposal.spec)
    (hpolicy : promotedPolicy proposal mode = .ok policy) :
    policy.spec.backend = .kubernetes ∧ policy.spec.mode = mode ∧
      ∃ spec, policy.spec.kubernetes = some spec ∧ spec.podSelector = workload.selector ∧
        spec.policyTypes = [direction] ∧ HasRules lib direction events spec := by
  have hdir : direction ≠ .unset := by
    rintro rfl
    cases events with
    | nil => exact hne rfl
    | cons e events => cases hlearn
  obtain ⟨spec', hok, hcarries⟩ := carries_learnKubernetesProposal lib workload hdir events
  obtain rfl : spec' = proposal.spec := Except.ok.inj (hok.symm.trans hlearn)
  obtain ⟨spec, hfor⟩ : ∃ spec, ForWorkload workload direction proposal.spec spec := by
    cases events with
    | nil => exact absurd rfl hne
    | cons e events =>
      unfold learnKubernetesProposal at hlearn
      rw [List.foldlM_cons] at hlearn
      cases hmut : mutateKubernetesProposal lib workload e.peer direction e.protocol e.dstPort
          (getProposalMetadata workload direction).spec with
      | error err =>
        rw [hmut] at hlearn
        cases hlearn
      | ok mid =>
        rw [hmut] at hlearn
        exact forWorkload_foldlM hdir events (forWorkload_mutate hdir (.inl rfl) hmut) hlearn
  have hrules := hcarries.rules
  rw [hfor.kubernetes] at hrules
  rw [(promotedPolicy_eq_ok hpolicy).2.2]
  exact ⟨hfor.backend, rfl, spec, hfor.kubernetes, hfor.podSelector, hfor.policyTypes, hrules⟩

end Learned

/-- **The data plane permits what was learned.**  Flows are learned into a proposal, the proposal is promoted
to protect mode, and a call of `Reconcile` on the policy ends without an error and with `Ready = True`.  Then
the cluster has a network policy for the pods of the workload, which the policy controls; in the learned
direction it lets a flow pass if and only if it is one of those that were learned, and in no other direction
does it stop any. -/
theorem enforced_iff_learned {workload : WorkloadRef} {direction : PolicyType} {events : List LearnedFlow}
    {proposal : WorkloadNetworkPolicyProposal} {promoted wnp : WorkloadNetworkPolicy} (w : World)
    (env : Env w.toCluster) (hlib : LawfulSelectors env.lib) (hne : events ≠ [])
    (hvalid : ∀ e ∈ events, validLabelValue e.peer.ns = true)
    (hlearn : learnKubernetesProposal env.lib workload direction events = .ok proposal.spec)
    (hpromoted : promotedPolicy proposal .protect = .ok promoted)
    (hw : w.wnps.lookup wnp.key = some wnp) (hspec : wnp.spec = promoted.spec)
    (hok : (reconcile w env wnp.key).1 = none)
    (hready : readyStatus (reconcile w env wnp.key).2 wnp.key = some .conditionTrue) :
    ∃ np, (reconcile w env wnp.key).2.networkPolicies.lookup wnp.key = some np ∧
      isControlledBy np.ownerReferences wnp.uid = true ∧ np.spec.podSelector = workload.selector ∧
      (∀ inCIDR f, Labelled f.peer →
        (permits env.lib inCIDR np direction f = true ↔ ∃ e ∈ events, IsFlowOf env.lib e f)) ∧
      ∀ inCIDR f other, other ≠ direction → permits env.lib inCIDR np other f = true := by
  obtain ⟨hbackend, hmode, spec, hk, hselector, htypes, hrules⟩ := promoted_of_learned hne hlearn hpromoted
  rw [← hspec] at hbackend hmode hk
  obtain ⟨-, -, hrender, hsame⟩ := ready_inversion w env hw hok hready
  obtain ⟨np, hlook, hr⟩ := renderPolicy_protect env hbackend hmode hrender
  obtain rfl : spec = np.spec := Option.some.inj (hk.symm.trans hr.spec)
  refine ⟨np, by rw [hsame.networkPolicies]; exact hlook, hr.controlled, hselector, ?_, ?_⟩
  · intro inCIDR f hf
    rw [permits_iff_of_hasRules hlib inCIDR htypes hrules]
    exact exists_congr fun e => and_congr_right fun he => isLearned_iff hlib inCIDR np.ns (hvalid e he) hf
  · intro inCIDR f other hother
    simp [permits, htypes, hother]

/-- A workload of the namespace `shop`, selected by the label that `namespaceSelectors` knows. -/
def shopWorkload (name : String) : WorkloadRef where
  ns := "shop"
  ownerKind := workloadKindDeployment
  ownerName := name
  selector := labelIs labelMetadataName name

/-- `web` connects to the database. -/
def webToDB : LearnedFlow := ⟨shopWorkload "db", "TCP", 5432⟩

/-- The proposal of `web` after that flow, and the policy promoted from it. -/
def webProposal : WorkloadNetworkPolicyProposal where
  ns := "shop"
  name := getProposalName (shopWorkload "web") .egress
  spec := ((learnKubernetesProposal namespaceSelectors (shopWorkload "web") .egress [webToDB]).toOption).getD
    (getProposalMetadata (shopWorkload "web") .egress).spec

def webPolicy : WorkloadNetworkPolicy where
  ns := "shop"
  name := webProposal.name
  uid := "u1"
  spec := { toPolicyBackendSpec := webProposal.spec.toPolicyBackendSpec
            toWorkloadTargetingSpec := webProposal.spec.toWorkloadTargetingSpec
            mode := .protect }

def webWorld : World where
  wnps := .ofList [webPolicy]
  deployments := .ofList [{ ns := "shop", name := "web", uid := "d1"
                            templateLabels := AList.singleton labelMetadataName "web" }]

/-- One flow is learned, promoted and enforced. -/
theorem enforced_iff_learned_web :
    let env : Env webWorld.toCluster := { Env.direct webWorld.toCluster 5 with lib := namespaceSelectors }
    ∃ np, (reconcile webWorld env webPolicy.key).2.networkPolicies.lookup webPolicy.key = some np ∧
      ∀ inCIDR f, Labelled f.peer →
        (permits namespaceSelectors inCIDR np .egress f = true ↔ IsFlowOf namespaceSelectors webToDB f) := by
  intro env
  obtain ⟨promoted, hpromoted⟩ := exists_promotedPolicy webProposal (by decide) .protect
  have hlearn : learnKubernetesProposal env.lib (shopWorkload "web") .egress [webToDB] = .ok webProposal.spec := rfl
  have hspec : webPolicy.spec = promoted.spec := (promotedPolicy_eq_ok hpromoted).2.2.symm
  obtain ⟨np, hlook, -, -, hpermits, -⟩ := enforced_iff_learned webWorld env lawful_namespaceSelectors
    (List.cons_ne_nil _ _) (by decide) hlearn hpromoted rfl hspec (by decide +kernel) (by decide +kernel)
  refine ⟨np, hlook, fun inCIDR f hf => ?_⟩
  rw [show permits namespaceSelectors inCIDR np .egress f = true ↔ _ from hpermits inCIDR f hf]
  simp only [List.mem_singleton, exists_eq_left]
  rfl

/-! ## Monitor mode and protect mode -/

section Monitor

variable {lib : Apimachinery} (hlib : LawfulSelectors lib) (inCIDR : String → String → Bool)
  (policyNs : String) {R : Type} (T : PeerPortRule R)
include hlib

/-- Rules that contain the peer and the port of a flow admit it. -/
lemma rulesAdmit_of_containsPeerPort {rules : List R} {e : LearnedFlow} {f : Flow}
    (h : containsPeerPort lib T rules e.peerAndPort.1 e.peerAndPort.2 = true)
    (hf : IsLearned lib inCIDR policyNs e f) : rulesAdmit lib inCIDR policyNs T rules f = true := by
  obtain ⟨rule, hrule, hboth⟩ := List.any_eq_true.1 h
  rw [Bool.and_eq_true] at hboth
  obtain ⟨hpeer, hport⟩ := hboth
  obtain ⟨q, hq, heq⟩ := List.any_eq_true.1 hport
  obtain rfl := policyPortEqual_iff.1 heq
  refine List.any_eq_true.2 ⟨rule, hrule, ?_⟩
  rw [ruleAdmits_of_hasPeer inCIDR policyNs T hlib hpeer]
  exact ⟨hf.1, admits_iff.2 (.inr ⟨_, hq, (portMatches_learned e f).2 hf.2⟩)⟩

end Monitor

/-- A monitor that is silent has found the rule of the flow. -/
lemma containsPeerPort_of_silent {lib : Apimachinery} {R : Type} {T : PeerPortRule R}
    {rules : NetworkPolicySpec → List R} {m m' : Monitor} {policy : WorkloadNetworkPolicy}
    {workload : WorkloadRef} {e : LearnedFlow} {direction : PolicyType} {now : Time} {spec : NetworkPolicySpec}
    (hspec : policy.spec.kubernetes = some spec)
    (hsilent : evaluateRules lib T rules m policy workload e.peer e.protocol direction e.dstPort now = (none, m'))
    (hemitted : m'.emitted = m.emitted) :
    containsPeerPort lib T (rules spec) e.peerAndPort.1 e.peerAndPort.2 = true := by
  by_contra hnot
  have hviolation : evaluateRules lib T rules m policy workload e.peer e.protocol direction e.dstPort now =
      sendMonitorViolation m policy.name workload e.peer e.protocol direction e.dstPort now := by
    rw [LearnedFlow.peerAndPort] at hnot
    simp only [evaluateRules, hspec, Bool.eq_false_of_not_eq_true hnot, Bool.not_false, if_true]
  rw [hviolation] at hsilent
  have hlog : m.emitted ++ [generateViolationObservation policy.name workload e.peer e.protocol direction
      e.dstPort now] = m'.emitted := congrArg (fun p => p.2.emitted) hsilent
  simp [hemitted] at hlog

/-- **Monitoring predicts protection.**  Take any policy of the kubernetes backend, however its rules came
about.  If the monitor lets a flow of the workload with a peer pass without a violation, then the network
policy with the same specification, which is what protect mode renders, permits that flow with every pod of
the peer. -/
theorem permits_of_monitor_silent {lib : Apimachinery} (hlib : LawfulSelectors lib)
    {policy : WorkloadNetworkPolicy} {np : NetworkPolicy} (hspec : policy.spec.kubernetes = some np.spec)
    {m m' : Monitor} {workload : WorkloadRef} {e : LearnedFlow} {direction : PolicyType} {now : Time}
    (hvalid : validLabelValue e.peer.ns = true)
    (hsilent : evaluateMonitorViolation lib m policy workload e.peer e.protocol direction e.dstPort now = (none, m'))
    (hemitted : m'.emitted = m.emitted) (inCIDR : String → String → Bool) {f : Flow} (hlabel : Labelled f.peer)
    (hf : IsFlowOf lib e f) : permits lib inCIDR np direction f = true := by
  have hlearned := (isLearned_iff hlib inCIDR np.ns hvalid hlabel).2 hf
  unfold permits effectiveRules
  by_cases hmem : direction ∈ np.spec.policyTypes
  · rw [if_pos hmem, Bool.or_eq_true]
    right
    cases direction with
    | egress =>
      simp only [List.any_map]
      exact rulesAdmit_of_containsPeerPort hlib inCIDR np.ns egressRule
        (containsPeerPort_of_silent hspec hsilent hemitted) hlearned
    | ingress =>
      simp only [List.any_map]
      exact rulesAdmit_of_containsPeerPort hlib inCIDR np.ns ingressRule
        (containsPeerPort_of_silent hspec hsilent hemitted) hlearned
    | unset => cases hsilent
  · simp [hmem]

/-- The monitor is silent about the learned flow of `web`, and every pod of `db` may be reached. -/
theorem permits_of_monitor_silent_web :
    let np : NetworkPolicy := { ns := "shop", spec := webPolicy.spec.kubernetes.getD {} }
    let labels := AList.singleton labelMetadataName "db"
    permits namespaceSelectors (fun _ _ => false) np .egress
      ⟨.pod "shop" (AList.singleton labelMetadataName "shop") labels "10.0.0.7", "TCP", 5432, []⟩ = true := by
  intro np labels
  let m : Monitor := ⟨[], ⟨1, fun _ => { provider := .kubernetes, direction := .egress }, 0, by decide⟩⟩
  have hsilent : evaluateMonitorViolation namespaceSelectors m webPolicy (shopWorkload "web") webToDB.peer
      webToDB.protocol .egress webToDB.dstPort 0 = (none, m) := rfl
  have hspec : webPolicy.spec.kubernetes = some np.spec := rfl
  exact permits_of_monitor_silent lawful_namespaceSelectors hspec (by decide) hsilent rfl _ rfl
    ⟨⟨_, labels, _, rfl, by decide⟩, rfl, rfl⟩

end NetworkEnforcer.Enforcement
