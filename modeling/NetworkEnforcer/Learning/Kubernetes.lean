import NetworkEnforcer.Lib.Groups
import NetworkEnforcer.Api.ViolationRecord
import NetworkEnforcer.Learning.Proposal
import NetworkEnforcer.Ringbuf.Buffer

/-!
# Learning and monitoring, kubernetes backend

`internal/controller/learning_kubernetes.go` files every observed flow as a rule of a proposal;
`internal/controller/monitor_kubernetes.go` asks whether a policy has the rule of a flow.

The rules learned from nothing are groups of ports, one group per peer: `learnedRules_eq_map` says so
for both rule types, and `Lib.Groups` says what such groups hold.
-/

namespace NetworkEnforcer.Learning

open NetworkEnforcer.Lib NetworkEnforcer.Api NetworkEnforcer.Ringbuf

/-! ## Peers and ports -/

def buildPeerAndPort (peer : WorkloadRef) (protocol : String) (dstPort : Int) :
    NetworkPolicyPeer × NetworkPolicyPort :=
  ({ namespaceSelector := some { matchLabels := AList.singleton labelMetadataName peer.ns }
     podSelector := some peer.selector },
   { protocol := some protocol, port := some (.int dstPort) })

/-- `peerPortRule`: an ingress or an egress rule, as a list of peers and a list of ports. -/
structure PeerPortRule (R : Type) where
  peers : R → List NetworkPolicyPeer
  ports : R → List NetworkPolicyPort
  rule : List NetworkPolicyPeer → List NetworkPolicyPort → R
  peers_rule : ∀ ps qs, peers (rule ps qs) = ps
  ports_rule : ∀ ps qs, ports (rule ps qs) = qs

attribute [simp] PeerPortRule.peers_rule PeerPortRule.ports_rule

def egressRule : PeerPortRule NetworkPolicyEgressRule where
  peers := (·.to_)
  ports := (·.ports)
  rule ps qs := { to_ := ps, ports := qs }
  peers_rule _ _ := rfl
  ports_rule _ _ := rfl

def ingressRule : PeerPortRule NetworkPolicyIngressRule where
  peers := (·.from_)
  ports := (·.ports)
  rule ps qs := { from_ := ps, ports := qs }
  peers_rule _ _ := rfl
  ports_rule _ _ := rfl

section

variable (lib : Apimachinery) {R : Type} (T : PeerPortRule R)

/-- The rule has exactly one peer, and it is this one. -/
def hasPeer (rule : R) (peer : NetworkPolicyPeer) : Bool :=
  match T.peers rule with
  | [p] => policyPeerEqual lib p peer
  | _ => false

def hasPort (rule : R) (port : NetworkPolicyPort) : Bool :=
  (T.ports rule).any fun existingPort => policyPortEqual existingPort port

/-- The common body of `upsertEgressRuleByPeer` and `upsertIngressRuleByPeer`. -/
def upsertRuleByPeer (peer : NetworkPolicyPeer) (port : NetworkPolicyPort) : List R → List R
  | [] => [T.rule [peer] [port]]
  | rule :: rules =>
    if hasPeer lib T rule peer then
      (if hasPort T rule port then rule else T.rule (T.peers rule) (T.ports rule ++ [port])) :: rules
    else rule :: upsertRuleByPeer peer port rules

def containsPeerPort (rules : List R) (peer : NetworkPolicyPeer) (port : NetworkPolicyPort) : Bool :=
  rules.any fun rule => hasPeer lib T rule peer && hasPort T rule port

def upsertEgressRuleByPeer (rules : List NetworkPolicyEgressRule) (peer : NetworkPolicyPeer)
    (port : NetworkPolicyPort) : List NetworkPolicyEgressRule :=
  upsertRuleByPeer lib egressRule peer port rules

def upsertIngressRuleByPeer (rules : List NetworkPolicyIngressRule) (peer : NetworkPolicyPeer)
    (port : NetworkPolicyPort) : List NetworkPolicyIngressRule :=
  upsertRuleByPeer lib ingressRule peer port rules

/-! ## Rules as groups -/

/-- The rule of a group of ports. -/
def ruleOf (g : NetworkPolicyPeer × List NetworkPolicyPort) : R := T.rule [g.1] g.2

@[simp] lemma peers_ruleOf (g : NetworkPolicyPeer × List NetworkPolicyPort) :
    T.peers (ruleOf T g) = [g.1] := T.peers_rule ..

@[simp] lemma ports_ruleOf (g : NetworkPolicyPeer × List NetworkPolicyPort) :
    T.ports (ruleOf T g) = g.2 := T.ports_rule ..

@[simp] lemma hasPeer_ruleOf (g : NetworkPolicyPeer × List NetworkPolicyPort)
    (peer : NetworkPolicyPeer) : hasPeer lib T (ruleOf T g) peer = policyPeerEqual lib g.1 peer := by
  simp [hasPeer]

lemma hasPort_ruleOf {g : NetworkPolicyPeer × List NetworkPolicyPort} {port : NetworkPolicyPort} :
    hasPort T (ruleOf T g) port = true ↔ port ∈ g.2 := by
  simp [hasPort, policyPortEqual_iff]

/-- **An upsert files the port under the peer.** -/
lemma upsertRuleByPeer_map (peer : NetworkPolicyPeer) (port : NetworkPolicyPort)
    (gs : Groups NetworkPolicyPeer NetworkPolicyPort) :
    upsertRuleByPeer lib T peer port (gs.map (ruleOf T)) =
      (Groups.insert (policyPeerEqual lib) peer port gs).map (ruleOf T) := by
  induction gs with
  | nil => rfl
  | cons g gs ih =>
    rw [List.map_cons, upsertRuleByPeer, Groups.insert, hasPeer_ruleOf]
    by_cases hpeer : policyPeerEqual lib g.1 peer = true
    · rw [if_pos hpeer, if_pos hpeer, List.map_cons]
      by_cases hport : port ∈ g.2
      · rw [if_pos (hasPort_ruleOf T |>.2 hport), if_pos hport]
      · rw [if_neg (fun h => hport (hasPort_ruleOf T |>.1 h)), if_neg hport, peers_ruleOf,
          ports_ruleOf]
        rfl
    · rw [if_neg hpeer, if_neg hpeer, List.map_cons, ih]

lemma containsPeerPort_map {gs : Groups NetworkPolicyPeer NetworkPolicyPort}
    {peer : NetworkPolicyPeer} {port : NetworkPolicyPort} :
    containsPeerPort lib T (gs.map (ruleOf T)) peer port = true ↔
      Groups.Holds (policyPeerEqual lib) gs peer port := by
  simp only [containsPeerPort, List.any_map, List.any_eq_true, Function.comp, Bool.and_eq_true,
    hasPeer_ruleOf, hasPort_ruleOf, Groups.Holds]

/-! ## Learning a sequence of flows -/

/-- A learned flow: the peer of the workload, the protocol and the destination port. -/
structure LearnedFlow where
  peer : WorkloadRef
  protocol : String
  dstPort : Int
  deriving DecidableEq

def LearnedFlow.peerAndPort (e : LearnedFlow) : NetworkPolicyPeer × NetworkPolicyPort :=
  buildPeerAndPort e.peer e.protocol e.dstPort

/-- The rules of a sequence of flows, learned one after another from none. -/
def learnedRules (events : List LearnedFlow) : List R :=
  events.foldl (fun rules e => upsertRuleByPeer lib T e.peerAndPort.1 e.peerAndPort.2 rules) []

/-- The groups behind the learned rules. -/
def learnedGroups (events : List LearnedFlow) : Groups NetworkPolicyPeer NetworkPolicyPort :=
  Groups.ofPairs (policyPeerEqual lib) (events.map LearnedFlow.peerAndPort)

theorem learnedRules_eq_map (events : List LearnedFlow) :
    learnedRules lib T events = (learnedGroups lib events).map (ruleOf T) := by
  -- both folds step together, from any groups
  have key : ∀ (events : List LearnedFlow) (gs : Groups NetworkPolicyPeer NetworkPolicyPort),
      events.foldl (fun rules e => upsertRuleByPeer lib T e.peerAndPort.1 e.peerAndPort.2 rules)
          (gs.map (ruleOf T)) =
        ((events.map LearnedFlow.peerAndPort).foldl
          (fun gs e => Groups.insert (policyPeerEqual lib) e.1 e.2 gs) gs).map (ruleOf T) := by
    intro events
    induction events with
    | nil => exact fun _ => rfl
    | cons e events ih =>
      intro gs
      rw [List.foldl_cons, List.map_cons, List.foldl_cons, upsertRuleByPeer_map, ih]
  exact key events []

/-- The flow is one of the sequence, up to the comparison of peers and of ports. -/
def Learned (events : List LearnedFlow) (peer : NetworkPolicyPeer) (port : NetworkPolicyPort) : Prop :=
  ∃ e ∈ events, policyPeerEqual lib e.peerAndPort.1 peer = true ∧
    policyPortEqual e.peerAndPort.2 port = true

theorem containsPeerPort_learnedRules {events : List LearnedFlow} {peer : NetworkPolicyPeer}
    {port : NetworkPolicyPort} :
    containsPeerPort lib T (learnedRules lib T events) peer port = true ↔
      Learned lib events peer port := by
  rw [learnedRules_eq_map, containsPeerPort_map, learnedGroups,
    Groups.holds_ofPairs (policyPeerEqual_equivalence lib)]
  simp only [List.mem_map, Learned, policyPortEqual_iff]
  constructor
  · rintro ⟨_, ⟨e, he, rfl⟩, hpeer, hport⟩
    exact ⟨e, he, hpeer, hport⟩
  · rintro ⟨e, he, hpeer, hport⟩
    exact ⟨_, ⟨e, he, rfl⟩, hpeer, hport⟩

/-- The same rule: equal peers, and the same ports in some order. -/
def SameRule (rule rule' : R) : Prop :=
  List.Forall₂ (fun p p' => policyPeerEqual lib p p' = true) (T.peers rule) (T.peers rule') ∧
    (T.ports rule).Perm (T.ports rule')

/-- What learning from no rules keeps of a sequence of flows. -/
structure LearnsExactly (learn : List LearnedFlow → List R) : Prop where
  contains_iff : ∀ events peer port,
    containsPeerPort lib T (learn events) peer port = true ↔ Learned lib events peer port
  one_peer : ∀ events, ∀ rule ∈ learn events, ∃ peer, T.peers rule = [peer]
  distinct_peers : ∀ events, (learn events).Pairwise fun rule rule' =>
    ∀ p ∈ T.peers rule, ∀ p' ∈ T.peers rule', policyPeerEqual lib p p' = false
  no_repeated_port : ∀ events, ∀ rule ∈ learn events,
    (T.ports rule).Pairwise fun q q' => policyPortEqual q q' = false
  /-- Neither the order of the flows nor a repetition matters. -/
  order : ∀ events events', (∀ e, e ∈ events ↔ e ∈ events') →
    ∃ rules, rules.Perm (learn events') ∧ List.Forall₂ (SameRule lib T) (learn events) rules

theorem learnsExactly_learnedRules : LearnsExactly lib T (learnedRules lib T) where
  contains_iff _ _ _ := containsPeerPort_learnedRules lib T
  one_peer events rule hrule := by
    rw [learnedRules_eq_map] at hrule
    obtain ⟨g, _, rfl⟩ := List.mem_map.1 hrule
    exact ⟨g.1, peers_ruleOf T g⟩
  distinct_peers events := by
    rw [learnedRules_eq_map, List.pairwise_map]
    refine (Groups.grouped_ofPairs _).distinct.imp ?_
    intro g g' h
    simpa using h
  no_repeated_port events rule hrule := by
    rw [learnedRules_eq_map] at hrule
    obtain ⟨g, hg, rfl⟩ := List.mem_map.1 hrule
    rw [ports_ruleOf]
    refine ((Groups.grouped_ofPairs _).nodup g hg).imp ?_
    intro q q' hne
    rw [Bool.eq_false_iff]
    exact fun h => hne (policyPortEqual_iff.1 h)
  order events events' hmem := by
    have hpairs : ∀ e, e ∈ events.map LearnedFlow.peerAndPort ↔
        e ∈ events'.map LearnedFlow.peerAndPort := by
      intro e
      simp only [List.mem_map, hmem]
    obtain ⟨gs, hperm, hall⟩ :=
      Groups.sameGroups_ofPairs (policyPeerEqual_equivalence lib) hpairs
    rw [learnedRules_eq_map, learnedRules_eq_map]
    refine ⟨gs.map (ruleOf T), hperm.map _, ?_⟩
    rw [List.forall₂_map_left_iff, List.forall₂_map_right_iff]
    refine hall.imp ?_
    rintro g g' ⟨hpeer, hports⟩
    refine ⟨?_, ?_⟩
    · rw [peers_ruleOf, peers_ruleOf]
      exact .cons hpeer .nil
    · rw [ports_ruleOf, ports_ruleOf]
      exact hports

/-! ## The proposal -/

def unknownPolicyDirection (direction : PolicyType) : Err :=
  .other ("unknown policy direction \"" ++ direction.text ++ "\"")

/-- Selector and policy type are set with the first rule only. -/
def selectWorkload (workload : WorkloadRef) (direction : PolicyType) (spec : NetworkPolicySpec) :
    NetworkPolicySpec :=
  if spec.policyTypes = [] then
    { spec with podSelector := workload.selector, policyTypes := [direction] }
  else spec

@[simp] lemma selectWorkload_egress (workload : WorkloadRef) (direction : PolicyType)
    (spec : NetworkPolicySpec) : (selectWorkload workload direction spec).egress = spec.egress := by
  unfold selectWorkload
  split <;> rfl

@[simp] lemma selectWorkload_ingress (workload : WorkloadRef) (direction : PolicyType)
    (spec : NetworkPolicySpec) : (selectWorkload workload direction spec).ingress = spec.ingress := by
  unfold selectWorkload
  split <;> rfl

/-- The mutation of `reconcileKubernetesProposal`. -/
def mutateKubernetesProposal (workload peer : WorkloadRef) (direction : PolicyType) (protocol : String)
    (dstPort : Int) (proposal : WorkloadNetworkPolicyProposalSpec) :
    Except Err WorkloadNetworkPolicyProposalSpec :=
  let spec := selectWorkload workload direction (proposal.kubernetes.getD {})
  let (policyPeer, policyPort) := buildPeerAndPort peer protocol dstPort
  let withSpec (spec : NetworkPolicySpec) : WorkloadNetworkPolicyProposalSpec :=
    { proposal with
        toWorkloadTargetingSpec := workloadTargetingSpec workload direction
        backend := .kubernetes
        kubernetes := some spec }
  match direction with
  | .egress =>
    .ok (withSpec { spec with egress := upsertEgressRuleByPeer lib spec.egress policyPeer policyPort })
  | .ingress =>
    .ok (withSpec { spec with ingress := upsertIngressRuleByPeer lib spec.ingress policyPeer policyPort })
  | .unset => .error (unknownPolicyDirection direction)

/-- The specification of a workload's proposal after a sequence of learned flows, from the proposal
that the first of them creates. -/
def learnKubernetesProposal (workload : WorkloadRef) (direction : PolicyType)
    (events : List LearnedFlow) : Except Err WorkloadNetworkPolicyProposalSpec :=
  events.foldlM (fun spec e => mutateKubernetesProposal lib workload e.peer direction e.protocol e.dstPort spec)
    (getProposalMetadata workload direction).spec

/-- The rules of one direction are those of a sequence of flows. -/
def HasRules (direction : PolicyType) (events : List LearnedFlow) (spec : NetworkPolicySpec) : Prop :=
  match direction with
  | .egress => spec.egress = learnedRules lib egressRule events
  | .ingress => spec.ingress = learnedRules lib ingressRule events
  | .unset => False

/-- What the learner keeps true of a proposal. -/
structure Carries (direction : PolicyType) (events : List LearnedFlow)
    (proposal : WorkloadNetworkPolicyProposalSpec) : Prop where
  rules : HasRules lib direction events (proposal.kubernetes.getD {})
  present : events ≠ [] → ∃ spec, proposal.kubernetes = some spec

lemma learnedRules_concat (events : List LearnedFlow) (e : LearnedFlow) :
    learnedRules lib T (events ++ [e]) =
      upsertRuleByPeer lib T e.peerAndPort.1 e.peerAndPort.2 (learnedRules lib T events) := by
  simp [learnedRules]

/-- One more flow. -/
lemma Carries.mutate {direction : PolicyType} {events : List LearnedFlow}
    {proposal : WorkloadNetworkPolicyProposalSpec} (h : Carries lib direction events proposal)
    (workload : WorkloadRef) (e : LearnedFlow) :
    ∃ proposal', mutateKubernetesProposal lib workload e.peer direction e.protocol e.dstPort proposal =
      .ok proposal' ∧ Carries lib direction (events ++ [e]) proposal' := by
  have hrules := h.rules
  cases direction with
  | egress =>
    refine ⟨_, rfl, ?_, fun _ => ⟨_, rfl⟩⟩
    show upsertEgressRuleByPeer lib _ _ _ = learnedRules lib egressRule (events ++ [e])
    rw [selectWorkload_egress, hrules, learnedRules_concat]
    rfl
  | ingress =>
    refine ⟨_, rfl, ?_, fun _ => ⟨_, rfl⟩⟩
    show upsertIngressRuleByPeer lib _ _ _ = learnedRules lib ingressRule (events ++ [e])
    rw [selectWorkload_ingress, hrules, learnedRules_concat]
    rfl
  | unset => exact absurd hrules id

lemma Carries.foldlM {workload : WorkloadRef} {direction : PolicyType} (rest : List LearnedFlow)
    {events : List LearnedFlow} {proposal : WorkloadNetworkPolicyProposalSpec}
    (h : Carries lib direction events proposal) :
    ∃ proposal', rest.foldlM (fun spec e => mutateKubernetesProposal lib workload e.peer direction
        e.protocol e.dstPort spec) proposal = .ok proposal' ∧
      Carries lib direction (events ++ rest) proposal' := by
  induction rest generalizing events proposal with
  | nil => exact ⟨proposal, rfl, by simpa using h⟩
  | cons e rest ih =>
    obtain ⟨proposal₁, hmut, h₁⟩ := h.mutate lib workload e
    obtain ⟨proposal₂, hfold, h₂⟩ := ih h₁
    refine ⟨proposal₂, ?_, by simpa using h₂⟩
    rw [List.foldlM_cons, hmut]
    exact hfold

/-- **The proposal after a sequence of flows has the rules of exactly these flows.** -/
theorem carries_learnKubernetesProposal (workload : WorkloadRef) {direction : PolicyType}
    (hdir : direction ≠ .unset) (events : List LearnedFlow) :
    ∃ proposal, learnKubernetesProposal lib workload direction events = .ok proposal ∧
      Carries lib direction events proposal := by
  have h0 : Carries lib direction [] (getProposalMetadata workload direction).spec := by
    refine ⟨?_, fun hne => absurd rfl hne⟩
    cases direction with
    | egress => rfl
    | ingress => rfl
    | unset => exact absurd rfl hdir
  exact h0.foldlM lib events

/-! ## Monitoring -/

/-- What a monitor violation writes.  `emitted` is the history of the violations that were handed to `EmitOtelLog`,
which is to say to the buffer as well; the buffer is shared with the scrapers. -/
structure Monitor where
  emitted : List Observation
  violationBuffer : Buffer Observation

inductive MonitorError where
  | violationBufferFull (obs : Observation)
  | unknownPolicyDirection (direction : PolicyType)
  /-- A policy of the kubernetes backend without its `spec.kubernetes`. -/
  | nilDereference

def generateViolationObservation (policyName : String) (workload peer : WorkloadRef)
    (protocol : String) (direction : PolicyType) (dstPort : Int) (now : Time) : Observation where
  timestamp := now
  source := if direction = .ingress then peer else workload
  dest := if direction = .ingress then workload else peer
  protocol := protocol
  dstPort := dstPort
  action := .monitor
  denyingPolicyNamespace := workload.ns
  denyingPolicyName := policyName
  provider := .kubernetes
  direction := direction

/-- `sendMonitorViolation`, with the error it returns.  The observation is written in both cases: the
error says that it took the place of an older one. -/
def sendMonitorViolation (m : Monitor) (policyName : String) (workload peer : WorkloadRef)
    (protocol : String) (direction : PolicyType) (dstPort : Int) (now : Time) :
    Option MonitorError × Monitor :=
  let obs := generateViolationObservation policyName workload peer protocol direction dstPort now
  let (overwrote, buffer) := m.violationBuffer.record obs
  (if overwrote then some (.violationBufferFull obs) else none,
    { emitted := m.emitted ++ [obs], violationBuffer := buffer })

/-- A case of `evaluateMonitorViolation`, on the rules of one direction. -/
def evaluateRules (rules : NetworkPolicySpec → List R) (m : Monitor) (policy : WorkloadNetworkPolicy)
    (workload peer : WorkloadRef) (protocol : String) (direction : PolicyType) (dstPort : Int)
    (now : Time) : Option MonitorError × Monitor :=
  let (policyPeer, policyPort) := buildPeerAndPort peer protocol dstPort
  match policy.spec.kubernetes with
  | none => (some .nilDereference, m)
  | some spec =>
    if !containsPeerPort lib T (rules spec) policyPeer policyPort then
      sendMonitorViolation m policy.name workload peer protocol direction dstPort now
    else (none, m)

def evaluateMonitorViolation (m : Monitor) (policy : WorkloadNetworkPolicy) (workload peer : WorkloadRef)
    (protocol : String) (direction : PolicyType) (dstPort : Int) (now : Time) :
    Option MonitorError × Monitor :=
  match direction with
  | .egress =>
    evaluateRules lib egressRule (·.egress) m policy workload peer protocol direction dstPort now
  | .ingress =>
    evaluateRules lib ingressRule (·.ingress) m policy workload peer protocol direction dstPort now
  | .unset => (some (.unknownPolicyDirection direction), m)

/-- The answer for a flow: silence for a learned one, a violation for any other. -/
def MonitorAnswer (events : List LearnedFlow) (m : Monitor) (policyName : String) (workload : WorkloadRef)
    (flow : LearnedFlow) (direction : PolicyType) (now : Time)
    (answer : Option MonitorError × Monitor) : Prop :=
  (Learned lib events flow.peerAndPort.1 flow.peerAndPort.2 → answer = (none, m)) ∧
  (¬ Learned lib events flow.peerAndPort.1 flow.peerAndPort.2 →
    answer = sendMonitorViolation m policyName workload flow.peer flow.protocol direction flow.dstPort now)

lemma evaluateRules_answer {rules : NetworkPolicySpec → List R} {policy : WorkloadNetworkPolicy}
    {spec : NetworkPolicySpec} {events : List LearnedFlow} (hspec : policy.spec.kubernetes = some spec)
    (hrules : rules spec = learnedRules lib T events) (m : Monitor) (workload : WorkloadRef)
    (flow : LearnedFlow) (direction : PolicyType) (now : Time) :
    MonitorAnswer lib events m policy.name workload flow direction now
      (evaluateRules lib T rules m policy workload flow.peer flow.protocol direction flow.dstPort now) := by
  have hiff : containsPeerPort lib T (rules spec) flow.peerAndPort.1 flow.peerAndPort.2 = true ↔
      Learned lib events flow.peerAndPort.1 flow.peerAndPort.2 := by
    rw [hrules]
    exact containsPeerPort_learnedRules lib T
  refine ⟨fun hl => ?_, fun hl => ?_⟩
  · have hc := hiff.2 hl
    rw [LearnedFlow.peerAndPort] at hc
    simp only [evaluateRules, hspec, hc, Bool.not_true, Bool.false_eq_true, if_false]
  · have hc := Bool.eq_false_iff.2 fun hc => hl (hiff.1 hc)
    rw [LearnedFlow.peerAndPort] at hc
    simp only [evaluateRules, hspec, hc, Bool.not_false, if_true]

/-- On a policy with the rules of a sequence of flows, the monitor asks whether a flow is one of them. -/
lemma evaluateMonitorViolation_answer {policy : WorkloadNetworkPolicy} {spec : NetworkPolicySpec}
    {direction : PolicyType} {events : List LearnedFlow} (hspec : policy.spec.kubernetes = some spec)
    (hrules : HasRules lib direction events spec) (m : Monitor) (workload : WorkloadRef)
    (flow : LearnedFlow) (now : Time) :
    MonitorAnswer lib events m policy.name workload flow direction now
      (evaluateMonitorViolation lib m policy workload flow.peer flow.protocol direction flow.dstPort
        now) := by
  cases direction with
  | egress => exact evaluateRules_answer lib egressRule hspec hrules m workload flow _ now
  | ingress => exact evaluateRules_answer lib ingressRule hspec hrules m workload flow _ now
  | unset => exact absurd hrules id

/-- A policy promoted from a proposal answers for the flows of the proposal. -/
theorem evaluateMonitorViolation_promoted {workload : WorkloadRef} {direction : PolicyType}
    {events : List LearnedFlow} {proposal : WorkloadNetworkPolicyProposal}
    {mode : WorkloadNetworkPolicyMode} {policy : WorkloadNetworkPolicy} (hne : events ≠ [])
    (hlearn : learnKubernetesProposal lib workload direction events = .ok proposal.spec)
    (hpolicy : promotedPolicy proposal mode = .ok policy) (m : Monitor) (flow : LearnedFlow)
    (now : Time) :
    MonitorAnswer lib events m policy.name workload flow direction now
      (evaluateMonitorViolation lib m policy workload flow.peer flow.protocol direction flow.dstPort
        now) := by
  have hdir : direction ≠ .unset := by
    rintro rfl
    cases events with
    | nil => exact hne rfl
    | cons e events => cases hlearn
  obtain ⟨spec, hok, hcarries⟩ := carries_learnKubernetesProposal lib workload hdir events
  obtain rfl : spec = proposal.spec := Except.ok.inj (hok.symm.trans hlearn)
  obtain ⟨k, hk⟩ := hcarries.present hne
  have hrules := hcarries.rules
  rw [hk] at hrules
  refine evaluateMonitorViolation_answer lib ?_ hrules m workload flow now
  rw [(promotedPolicy_eq_ok hpolicy).2.2]
  exact hk

end

/-- **Learning and monitoring agree.**  The rules learned with either upsert from an empty list contain
exactly the learned flows, one rule per peer and no port twice, whatever the order of the flows; and a
policy promoted from the proposal raises a violation for exactly the flows that were not learned. -/
theorem kubernetes_learning_matches_monitoring (lib : Apimachinery) :
    LearnsExactly lib egressRule (fun events => events.foldl (fun rules e =>
      upsertEgressRuleByPeer lib rules e.peerAndPort.1 e.peerAndPort.2) []) ∧
    LearnsExactly lib ingressRule (fun events => events.foldl (fun rules e =>
      upsertIngressRuleByPeer lib rules e.peerAndPort.1 e.peerAndPort.2) []) ∧
    ∀ (workload : WorkloadRef) (direction : PolicyType) (events : List LearnedFlow)
      (proposal : WorkloadNetworkPolicyProposal) (mode : WorkloadNetworkPolicyMode)
      (policy : WorkloadNetworkPolicy), events ≠ [] →
      learnKubernetesProposal lib workload direction events = .ok proposal.spec →
      promotedPolicy proposal mode = .ok policy →
      ∀ (m : Monitor) (flow : LearnedFlow) (now : Time),
        MonitorAnswer lib events m policy.name workload flow direction now
          (evaluateMonitorViolation lib m policy workload flow.peer flow.protocol direction flow.dstPort
            now) := by
  refine ⟨learnsExactly_learnedRules lib egressRule, learnsExactly_learnedRules lib ingressRule, ?_⟩
  intro workload direction events proposal mode policy hne hlearn hpolicy m flow now
  exact evaluateMonitorViolation_promoted lib hne hlearn hpolicy m flow now

section

/-- A workload of the namespace `shop`, selected by its `app` label. -/
def sampleWorkload (name : String) : WorkloadRef where
  ns := "shop"
  ownerKind := workloadKindDeployment
  ownerName := name
  selector := { matchLabels := AList.singleton "app" name }

/-- The egress proposal of `web` after one flow to `db`. -/
def sampleProposal : WorkloadNetworkPolicyProposal where
  ns := "shop"
  name := "deployment-web-egress"
  spec := ((learnKubernetesProposal .documented (sampleWorkload "web") .egress
    [⟨sampleWorkload "db", "TCP", 5432⟩]).toOption).getD (getProposalMetadata (sampleWorkload "web") .egress).spec

theorem kubernetes_learning_matches_monitoring_sample :
    ∃ policy, promotedPolicy sampleProposal .monitor = .ok policy ∧ ∀ m : Monitor,
      evaluateMonitorViolation .documented m policy (sampleWorkload "web") (sampleWorkload "db") "TCP"
        .egress 5432 0 = (none, m) ∧
      evaluateMonitorViolation .documented m policy (sampleWorkload "web") (sampleWorkload "db") "TCP"
        .egress 5433 0 = sendMonitorViolation m policy.name (sampleWorkload "web") (sampleWorkload "db")
          "TCP" .egress 5433 0 := by
  obtain ⟨policy, hpolicy⟩ := exists_promotedPolicy sampleProposal (by decide) .monitor
  refine ⟨policy, hpolicy, fun m => ?_⟩
  have h := (kubernetes_learning_matches_monitoring .documented).2.2 (sampleWorkload "web") .egress
    [⟨sampleWorkload "db", "TCP", 5432⟩] sampleProposal .monitor policy (by simp) rfl hpolicy m
  refine ⟨(h ⟨sampleWorkload "db", "TCP", 5432⟩ 0).1 ?_, (h ⟨sampleWorkload "db", "TCP", 5433⟩ 0).2 ?_⟩
  · exact ⟨_, List.mem_singleton.2 rfl, (policyPeerEqual_equivalence _).refl _, policyPortEqual_iff.2 rfl⟩
  · rintro ⟨e, he, _, hport⟩
    obtain rfl : e = ⟨sampleWorkload "db", "TCP", 5432⟩ := by simpa using he
    exact absurd hport (by decide)

end

end NetworkEnforcer.Learning
