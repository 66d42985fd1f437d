import NetworkEnforcer.Semantics.NetworkPolicy

/-!
# Clearing on the kubernetes backend

A violation is cleared if some rule of the template, ingress or egress, equals the rule of its flow.  For a
rule of the policy's own direction that is sound (`permitsPeerNamespace_of_matchesRule`): the rule admits the
whole namespace of the peer on the port.  But the test does not ask for the direction, and the rules of the
other one are not enforced.  So clearing is sound exactly when no rule of the other direction equals the
flow, or a rule of the policy's own direction is wide enough for it: its ports hold the port by number
(`CoversPort`), and its peers every pod of the namespace (`CoversNamespace`).
-/

namespace NetworkEnforcer.Status

open NetworkEnforcer.Lib NetworkEnforcer.Api NetworkEnforcer.Semantics

/-- Some rule of the direction equals the flow of the record. -/
def matchesRule (lib : Apimachinery) (template : NetworkPolicySpec) (direction : PolicyType)
    (v : ViolationRecord) : Bool :=
  match direction with
  | .ingress => template.ingress.any (ingressRuleEqual lib v.toIngressRule)
  | .egress => template.egress.any (egressRuleEqual lib v.toEgressRule)
  | .unset => false

def opposite : PolicyType → PolicyType
  | .ingress => .egress
  | .egress => .ingress
  | .unset => .unset

/-- The namespace of the other end, for a policy of the direction. -/
def peerNamespace (direction : PolicyType) (v : ViolationRecord) : String :=
  match direction with
  | .egress => v.dest.ns
  | .ingress | .unset => v.source.ns

/-- The policy permits the flow in the direction: one of its rules admits every pod of the peer's namespace
on the protocol and the port. -/
def PermitsPeerNamespace (lib : Apimachinery) (inCIDR : String → String → Bool) (np : NetworkPolicy)
    (direction : PolicyType) (v : ViolationRecord) : Prop :=
  ∃ rule ∈ effectiveRules np.spec direction, ∀ (nsLabels labels : Labels) (ip : String) (names : List String),
    nsLabels.lookup labelMetadataName = some (peerNamespace direction v) →
      ruleAdmits lib inCIDR np.ns rule.1 rule.2
        ⟨.pod (peerNamespace direction v) nsLabels labels ip, v.protocol, v.dstPort, names⟩ = true

/-! ## Rules that compare equal -/

/-- What compares equal to a list of one element. -/
lemma equalUnordered_singleton {T : Type} {eq : T → T → Bool} {a : T} {l : List T}
    (h : equalUnordered [a] l eq = true) : ∃ b, l = [b] ∧ eq a b = true := by
  rw [equalUnordered, Bool.and_eq_true, decide_eq_true_eq] at h
  obtain ⟨b, rfl⟩ := List.length_eq_one_iff.1 h.1.symm
  refine ⟨b, rfl, ?_⟩
  by_contra hab
  simp [matchAll, takeMatch, hab] at h

/-- A rule that compares equal to the one of a flow admits the namespace of the peer on the port. -/
lemma ruleAdmits_of_equal {lib : Apimachinery} (hlib : LawfulSelectors lib) {ns : String}
    (hvalid : validLabelValue ns = true) {protocol : String} {port : Int} {peers : List NetworkPolicyPeer}
    {ports : List NetworkPolicyPort}
    (hpeers : equalUnordered [namespacePeer ns] peers (policyPeerEqual lib) = true)
    (hports : equalUnordered [{ protocol := some protocol, port := some (.int port) }] ports policyPortEqual = true)
    (inCIDR : String → String → Bool) (policyNs : String) {nsLabels : Labels}
    (hlabel : nsLabels.lookup labelMetadataName = some ns) (labels : Labels) (ip : String)
    (names : List String) :
    ruleAdmits lib inCIDR policyNs peers ports ⟨.pod ns nsLabels labels ip, protocol, port, names⟩ = true := by
  obtain ⟨p, rfl, hp⟩ := equalUnordered_singleton hpeers
  obtain ⟨q, rfl, hq⟩ := equalUnordered_singleton hports
  obtain rfl := policyPortEqual_iff.1 hq
  have hpeer : peerMatches lib inCIDR policyNs p (.pod ns nsLabels labels ip) =
      peerMatches lib inCIDR policyNs (inNamespace ns none) (.pod ns nsLabels labels ip) :=
    peerMatches_of_policyPeerEqual hlib hp inCIDR policyNs _
  rw [peerMatches_inNamespace hlib hvalid hlabel] at hpeer
  rw [ruleAdmits, Bool.and_eq_true, admits_iff, admits_iff]
  exact ⟨Or.inr ⟨p, List.mem_singleton.2 rfl, hpeer⟩, Or.inr ⟨_, List.mem_singleton.2 rfl, by simp [portMatches]⟩⟩

/-- **In the policy's own direction the test is sound.** -/
theorem permitsPeerNamespace_of_matchesRule {lib : Apimachinery} (hlib : LawfulSelectors lib)
    (inCIDR : String → String → Bool) {np : NetworkPolicy} {direction : PolicyType}
    (htypes : direction ∈ np.spec.policyTypes) {v : ViolationRecord}
    (hvalid : validLabelValue (peerNamespace direction v) = true)
    (h : matchesRule lib np.spec direction v = true) : PermitsPeerNamespace lib inCIDR np direction v := by
  unfold PermitsPeerNamespace effectiveRules
  rw [if_pos htypes]
  cases direction with
  | unset => cases h
  | ingress =>
    obtain ⟨rule, hrule, heq⟩ := List.any_eq_true.1 h
    rw [ingressRuleEqual, Bool.and_eq_true] at heq
    refine ⟨_, List.mem_map_of_mem hrule, ?_⟩
    intro nsLabels labels ip names hlabel
    exact ruleAdmits_of_equal hlib hvalid heq.1 heq.2 inCIDR np.ns hlabel labels ip names
  | egress =>
    obtain ⟨rule, hrule, heq⟩ := List.any_eq_true.1 h
    rw [egressRuleEqual, Bool.and_eq_true] at heq
    refine ⟨_, List.mem_map_of_mem hrule, ?_⟩
    intro nsLabels labels ip names hlabel
    exact ruleAdmits_of_equal hlib hvalid heq.1 heq.2 inCIDR np.ns hlabel labels ip names

/-! ## Rules that are wide enough -/

/-- The entry is for every port of the protocol, or a number or range with the port. -/
def HoldsPort (q : NetworkPolicyPort) (protocol : String) (port : Int) : Prop :=
  q.protocol.getD "TCP" = protocol ∧
    (q.port = none ∨ ∃ n, q.port = some (.int n) ∧ n ≤ port ∧ port ≤ q.endPort.getD n)

/-- The ports of a rule hold the port, whatever it is called. -/
def CoversPort (ports : List NetworkPolicyPort) (protocol : String) (port : Int) : Prop :=
  ports = [] ∨ ∃ q ∈ ports, HoldsPort q protocol port

/-- The peers of a rule hold a namespace: there are none, the blocks among them hold every address, or the
selectors among them select every pod of the namespace. -/
def CoversNamespace (lib : Apimachinery) (inCIDR : String → String → Bool) (policyNs : String)
    (peers : List NetworkPolicyPeer) (ns : String) : Prop :=
  peers = [] ∨ (∀ ip, ∃ p ∈ peers, ∃ block, p.ipBlock = some block ∧ inBlock inCIDR block ip = true) ∨
    ∀ nsLabels labels : Labels, nsLabels.lookup labelMetadataName = some ns →
      ∃ p ∈ peers, p.ipBlock = none ∧ podMatches lib policyNs p ns nsLabels labels = true

section Covers

variable {lib : Apimachinery} {inCIDR : String → String → Bool} {policyNs ns protocol : String} {port : Int}
  {peers : List NetworkPolicyPeer} {ports : List NetworkPolicyPort} {peer : Endpoint}

/-- An entry that matches a port without a name goes by the number, -/
lemma HoldsPort.of_portMatches {q : NetworkPolicyPort}
    (h : portMatches q ⟨peer, protocol, port, []⟩ = true) : HoldsPort q protocol port := by
  simp only [portMatches, Bool.and_eq_true, decide_eq_true_eq] at h
  obtain ⟨hprotocol, h⟩ := h
  refine ⟨hprotocol, ?_⟩
  cases hport : q.port with
  | none => exact Or.inl rfl
  | some p =>
    cases p with
    | str name => simp [hport] at h
    | int n =>
      refine Or.inr ⟨n, rfl, ?_⟩
      cases hend : q.endPort with
      | none =>
        have heq : port = n := by simpa [hport, hend] using h
        exact ⟨heq.ge, heq.le⟩
      | some last => simpa [hport, hend] using h

/-- and then matches under any names. -/
lemma HoldsPort.portMatches {q : NetworkPolicyPort} (h : HoldsPort q protocol port) (names : List String) :
    portMatches q ⟨peer, protocol, port, names⟩ = true := by
  obtain ⟨hprotocol, hport⟩ := h
  simp only [Semantics.portMatches, Bool.and_eq_true, decide_eq_true_eq]
  refine ⟨hprotocol, ?_⟩
  rcases hport with hport | ⟨n, hport, hlo, hhi⟩
  · rw [hport]
  · rw [hport]
    cases hend : q.endPort with
    | none =>
      rw [hend] at hhi
      exact decide_eq_true (Int.le_antisymm hhi hlo)
    | some last =>
      rw [hend] at hhi
      simp only [Bool.and_eq_true, decide_eq_true_eq]
      exact ⟨hlo, hhi⟩

lemma admits_port_iff :
    (∀ names, admits (portMatches · ⟨peer, protocol, port, names⟩) ports = true) ↔
      CoversPort ports protocol port := by
  simp only [admits_iff]
  constructor
  · intro h
    exact (h []).imp_right fun ⟨q, hq, hmatch⟩ => ⟨q, hq, .of_portMatches hmatch⟩
  · intro h names
    exact h.imp_right fun ⟨q, hq, hholds⟩ => ⟨q, hq, hholds.portMatches names⟩

/-- The address of a pod has nothing to do with its labels, so that blocks and selectors do not help each
other. -/
lemma admits_peer_iff :
    (∀ (nsLabels labels : Labels) (ip : String), nsLabels.lookup labelMetadataName = some ns →
        admits (peerMatches lib inCIDR policyNs · (.pod ns nsLabels labels ip)) peers = true) ↔
      CoversNamespace lib inCIDR policyNs peers ns := by
  have hmatch : ∀ (p : NetworkPolicyPeer) (nsLabels labels : Labels) (ip : String),
      peerMatches lib inCIDR policyNs p (.pod ns nsLabels labels ip) = true ↔
        (∃ block, p.ipBlock = some block ∧ inBlock inCIDR block ip = true) ∨
          (p.ipBlock = none ∧ podMatches lib policyNs p ns nsLabels labels = true) := by
    intro p nsLabels labels ip
    rw [peerMatches]
    cases hblock : p.ipBlock with
    | none => simp
    | some block => simp
  simp only [admits_iff, hmatch]
  constructor
  · intro h
    by_contra hno
    simp only [CoversNamespace, not_or, not_forall] at hno
    obtain ⟨hne, ⟨ip, hip⟩, nsLabels, labels, hlabel, hpod⟩ := hno
    rcases h nsLabels labels ip hlabel with hnil | ⟨p, hp, hblock | hselected⟩
    · exact hne hnil
    · exact hip ⟨p, hp, hblock⟩
    · exact hpod ⟨p, hp, hselected⟩
  · rintro (hnil | hblocks | hselectors) nsLabels labels ip hlabel
    · exact Or.inl hnil
    · obtain ⟨p, hp, hblock⟩ := hblocks ip
      exact Or.inr ⟨p, hp, Or.inl hblock⟩
    · obtain ⟨p, hp, hselected⟩ := hselectors nsLabels labels hlabel
      exact Or.inr ⟨p, hp, Or.inr hselected⟩

/-- **What a rule has to be like to admit a namespace on a port.** -/
lemma ruleAdmits_namespace_iff :
    (∀ (nsLabels labels : Labels) (ip : String) (names : List String),
        nsLabels.lookup labelMetadataName = some ns →
          ruleAdmits lib inCIDR policyNs peers ports ⟨.pod ns nsLabels labels ip, protocol, port, names⟩ = true) ↔
      CoversNamespace lib inCIDR policyNs peers ns ∧ CoversPort ports protocol port := by
  simp only [ruleAdmits, Bool.and_eq_true]
  constructor
  · intro h
    refine ⟨admits_peer_iff.1 fun nsLabels labels ip hlabel => (h nsLabels labels ip [] hlabel).1, ?_⟩
    -- there is a pod in the namespace to ask
    have hlabel : (AList.singleton labelMetadataName ns : Labels).lookup labelMetadataName = some ns :=
      List.dlookup_cons_eq ..
    exact admits_port_iff.1 fun names => (h _ ∅ "" names hlabel).2
  · rintro ⟨hpeers, hports⟩ nsLabels labels ip names hlabel
    exact ⟨admits_peer_iff.2 hpeers nsLabels labels ip hlabel, admits_port_iff.2 hports names⟩

end Covers

/-! ## Clearing -/

lemma kubernetesAllows_iff {lib : Apimachinery} {template : NetworkPolicySpec} {direction : PolicyType}
    (hdir : direction ≠ .unset) {v : ViolationRecord} : kubernetesAllows lib template v = true ↔
      matchesRule lib template direction v = true ∨ matchesRule lib template (opposite direction) v = true := by
  rw [kubernetesAllows, Bool.or_eq_true]
  cases direction with
  | unset => exact absurd rfl hdir
  | ingress => rfl
  | egress => exact or_comm

lemma permitsPeerNamespace_iff {lib : Apimachinery} {inCIDR : String → String → Bool} {np : NetworkPolicy}
    {direction : PolicyType} {v : ViolationRecord} : PermitsPeerNamespace lib inCIDR np direction v ↔
      ∃ rule ∈ effectiveRules np.spec direction,
        CoversNamespace lib inCIDR np.ns rule.1 (peerNamespace direction v) ∧
          CoversPort rule.2 v.protocol v.dstPort :=
  exists_congr fun _ => and_congr_right fun _ => ruleAdmits_namespace_iff

/-- **When clearing is sound.**  Take a policy that the validation rules admit, with the network policy that
is rendered from its template, and a violation with valid namespaces.  If clearing drops it then the network
policy permits its flow in the policy's direction, exactly when no rule of the other direction, which has no
effect, equals the flow, or one of the policy's own direction holds the peer's namespace and the port. -/
theorem kubernetesClearing_sound_iff {lib : Apimachinery} (hlib : LawfulSelectors lib)
    (inCIDR : String → String → Bool) (np : NetworkPolicy) {w cleared : WorkloadNetworkPolicy}
    (hspec : w.spec.kubernetes = some np.spec) (hdir : w.spec.direction ≠ .unset)
    (htypes : np.spec.policyTypes = [w.spec.direction])
    (hclear : w.clearAllowedKubernetesViolations lib = some cleared) {v : ViolationRecord}
    (hv : v ∈ w.status.violations)
    (hsrc : validLabelValue v.source.ns = true) (hdst : validLabelValue v.dest.ns = true) :
    (v ∉ cleared.status.violations → PermitsPeerNamespace lib inCIDR np w.spec.direction v) ↔
      matchesRule lib np.spec (opposite w.spec.direction) v = false ∨
        ∃ rule ∈ effectiveRules np.spec w.spec.direction,
          CoversNamespace lib inCIDR np.ns rule.1 (peerNamespace w.spec.direction v) ∧
            CoversPort rule.2 v.protocol v.dstPort := by
  have hdropped : v ∉ cleared.status.violations ↔ kubernetesAllows lib np.spec v = true := by
    rw [WorkloadNetworkPolicy.clearAllowedKubernetesViolations, hspec] at hclear
    obtain rfl := Option.some.inj hclear
    show v ∉ w.status.violations.filter (fun v => !kubernetesAllows lib np.spec v) ↔ _
    rw [List.mem_filter]
    simp [hv]
  have hvalid : validLabelValue (peerNamespace w.spec.direction v) = true := by
    unfold peerNamespace
    split
    · exact hdst
    · exact hsrc
    · exact hsrc
  rw [hdropped, kubernetesAllows_iff hdir, ← permitsPeerNamespace_iff]
  constructor
  · intro h
    rw [or_iff_not_imp_left, Bool.not_eq_false]
    exact fun hother => h (Or.inr hother)
  · rintro h (hown | hother)
    · exact permitsPeerNamespace_of_matchesRule hlib inCIDR (by rw [htypes]; exact List.mem_singleton.2 rfl)
        hvalid hown
    · refine h.resolve_left fun hno => ?_
      rw [hother] at hno
      cases hno

/-- A flow from one namespace to another, for the two runs below. -/
def shopToDb : ViolationRecord where
  source := { ns := "shop" }
  dest := { ns := "db" }
  protocol := "TCP"
  dstPort := 5432

/-- An egress policy with the violation of that flow. -/
def egressPolicy (template : NetworkPolicySpec) : WorkloadNetworkPolicy where
  ns := "shop"
  name := "web-egress"
  spec := { backend := .kubernetes, targetRef := ⟨workloadKindDeployment, "web"⟩, direction := .egress,
            kubernetes := some template }
  status := { violations := [shopToDb] }

/-- The template of an egress policy that has the ingress rule of the flow as well. -/
def withIngressRule (egress : List NetworkPolicyEgressRule) : NetworkPolicySpec where
  podSelector := { matchLabels := AList.singleton "app" "web" }
  policyTypes := [.egress]
  ingress := [shopToDb.toIngressRule]
  egress := egress

/-- The ingress rule clears the violation, and an egress rule to anywhere on a range of ports permits the
flow. -/
theorem kubernetesClearing_sound_wide_rule :
    let wide : NetworkPolicyEgressRule := { ports := [{ port := some (.int 5000), endPort := some 6000 }] }
    let np : NetworkPolicy := { ns := "shop", name := "web-egress", spec := withIngressRule [wide] }
    ∃ cleared, (egressPolicy np.spec).clearAllowedKubernetesViolations namespaceSelectors = some cleared ∧
      shopToDb ∉ cleared.status.violations ∧
      PermitsPeerNamespace namespaceSelectors (fun _ _ => false) np .egress shopToDb := by
  intro wide np
  have hdropped : shopToDb ∉ ([shopToDb].filter fun v => !kubernetesAllows namespaceSelectors np.spec v) := by
    decide +kernel
  refine ⟨_, rfl, hdropped, ?_⟩
  have hsound := kubernetesClearing_sound_iff (w := egressPolicy np.spec) lawful_namespaceSelectors
    (fun _ _ => false) np rfl (by decide) rfl rfl (List.mem_singleton.2 rfl) (by decide) (by decide)
  have hport : HoldsPort { port := some (.int 5000), endPort := some 6000 } "TCP" 5432 :=
    ⟨rfl, Or.inr ⟨5000, rfl, by decide, by decide⟩⟩
  exact hsound.2 (Or.inr ⟨_, List.mem_cons_self .., Or.inl rfl, Or.inr ⟨_, List.mem_cons_self .., hport⟩⟩) hdropped

/-- Without an egress rule the flow is denied, and the violation cleared as well. -/
theorem kubernetesClearing_drops_denied :
    let np : NetworkPolicy := { ns := "shop", name := "web-egress", spec := withIngressRule [] }
    ∃ cleared, (egressPolicy np.spec).clearAllowedKubernetesViolations namespaceSelectors = some cleared ∧
      shopToDb ∉ cleared.status.violations ∧
      ¬ PermitsPeerNamespace namespaceSelectors (fun _ _ => false) np .egress shopToDb := by
  intro np
  have hdropped : shopToDb ∉ ([shopToDb].filter fun v => !kubernetesAllows namespaceSelectors np.spec v) := by
    decide +kernel
  refine ⟨_, rfl, hdropped, ?_⟩
  rintro ⟨rule, hrule, -⟩
  exact absurd hrule List.not_mem_nil

end NetworkEnforcer.Status
