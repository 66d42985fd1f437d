import NetworkEnforcer.Lib.Constraint
import NetworkEnforcer.Api.ViolationRecord

/-!
# What a network policy permits

The meaning of the rules of a `NetworkPolicy` as the Kubernetes API documents it: a rule admits a flow if
one of its peers matches the other end and one of its ports matches the port, where a rule without peers
or without ports admits any.  A missing namespace selector means the namespace of the policy, an empty
one every namespace.

The program compares label selectors by their text.  `LawfulSelectors` is what the library promises
about the text, and `peerMatches_of_policyPeerEqual` is what follows for the peers the program builds:
whatever compares equal to them matches the same endpoints.
-/

namespace NetworkEnforcer.Semantics

open NetworkEnforcer.Lib NetworkEnforcer.Api

/-! ## Flows and rules -/

/-- The other end of a flow. -/
inductive Endpoint where
  /-- A pod, with the labels of its namespace and its own. -/
  | pod (ns : String) (nsLabels labels : Labels) (ip : String)
  | external (ip : String)

def Endpoint.ip : Endpoint → String
  | .pod _ _ _ ip => ip
  | .external ip => ip

/-- A flow as the rules of one direction see it. -/
structure Flow where
  peer : Endpoint
  protocol : String
  port : Int
  /-- The names that the destination gives to the port. -/
  portNames : List String := []

section

variable (lib : Apimachinery) (inCIDR : String → String → Bool) (policyNs : String)

/-- The labels that a selector selects; an invalid selector selects none. -/
def selects (s : LabelSelector) (labels : Labels) : Bool :=
  match lib.labelSelectorAsSelector s with
  | .ok selector => selector labels
  | .error _ => false

def inBlock (block : IPBlock) (ip : String) : Bool :=
  inCIDR block.cidr ip && !block.except.any (inCIDR · ip)

/-- The selectors of a peer and a pod. -/
def podMatches (peer : NetworkPolicyPeer) (ns : String) (nsLabels labels : Labels) : Bool :=
  match peer.namespaceSelector, peer.podSelector with
  | some s, podSelector => selects lib s nsLabels && podSelector.all (selects lib · labels)
  | none, some s => ns = policyNs && selects lib s labels
  | none, none => false

def peerMatches (peer : NetworkPolicyPeer) : Endpoint → Bool
  | .pod ns nsLabels labels ip =>
    match peer.ipBlock with
    | some block => inBlock inCIDR block ip
    | none => podMatches lib policyNs peer ns nsLabels labels
  | .external ip => peer.ipBlock.any (inBlock inCIDR · ip)

/-- The protocol defaults to TCP; without a port every port matches. -/
def portMatches (port : NetworkPolicyPort) (f : Flow) : Bool :=
  port.protocol.getD "TCP" = f.protocol &&
    match port.port, port.endPort with
    | none, _ => true
    | some (.int n), none => f.port = n
    | some (.int n), some last => n ≤ f.port && f.port ≤ last
    | some (.str name), _ => f.portNames.contains name

/-- The peers and the ports of a rule admit the flow. -/
def ruleAdmits (peers : List NetworkPolicyPeer) (ports : List NetworkPolicyPort) (f : Flow) : Bool :=
  admits (peerMatches lib inCIDR policyNs · f.peer) peers && admits (portMatches · f) ports

end

/-- The rules of a direction that have an effect: those of the policy types. -/
def effectiveRules (spec : NetworkPolicySpec) (direction : PolicyType) :
    List (List NetworkPolicyPeer × List NetworkPolicyPort) :=
  if direction ∈ spec.policyTypes then
    match direction with
    | .egress => spec.egress.map fun r => (r.to_, r.ports)
    | .ingress => spec.ingress.map fun r => (r.from_, r.ports)
    | .unset => []
  else []

/-! ## What the library promises about selectors -/

/-- At most 63 letters, digits, dashes, underscores and dots, with a letter or digit at both ends. -/
def validLabelValue (v : String) : Bool :=
  v.toList.length ≤ 63 && (v.toList.all fun c => c.isAlphanum || c = '-' || c = '_' || c = '.') &&
    v.toList.head?.all Char.isAlphanum && v.toList.getLast?.all Char.isAlphanum

/-- The selector of one label. -/
def labelIs (key value : String) : LabelSelector := { matchLabels := AList.singleton key value }

/-- What `FormatLabelSelector` and `LabelSelectorAsSelector` document. -/
structure LawfulSelectors (lib : Apimachinery) : Prop where
  /-- The text of a selector says what it selects. -/
  text : ∀ a b, lib.formatLabelSelector (some a) = lib.formatLabelSelector (some b) →
    ∀ labels, selects lib a labels = selects lib b labels
  /-- A selector with the text of a missing one selects everything. -/
  missing : ∀ a, lib.formatLabelSelector (some a) = lib.formatLabelSelector none →
    ∀ labels, selects lib a labels = true
  /-- A label equality selects no other labels, -/
  label : ∀ key value labels, selects lib (labelIs key value) labels = true → labels.lookup key = some value
  /-- and if its value is valid, all that have it. -/
  valid : ∀ value labels, validLabelValue value = true → labels.lookup labelMetadataName = some value →
    selects lib (labelIs labelMetadataName value) labels = true

/-! ## Peers that compare equal -/

/-- A peer that the program builds: a namespace by its name, with or without a selector of pods. -/
def inNamespace (ns : String) (podSelector : Option LabelSelector) : NetworkPolicyPeer where
  namespaceSelector := some (labelIs labelMetadataName ns)
  podSelector := podSelector

lemma ipBlock_of_ipBlockEqual {block : Option IPBlock} (h : ipBlockEqual none block = true) : block = none := by
  cases block with
  | none => rfl
  | some b => cases h

section

variable {lib : Apimachinery} (hlib : LawfulSelectors lib)
include hlib

/-- No peer without a namespace selector compares equal to a namespace. -/
lemma namespaceSelector_of_text {ns : String} {sel : Option LabelSelector}
    (h : lib.formatLabelSelector (some (labelIs labelMetadataName ns)) = lib.formatLabelSelector sel) :
    ∃ s, sel = some s ∧ ∀ labels, selects lib s labels = selects lib (labelIs labelMetadataName ns) labels := by
  cases sel with
  | some s => exact ⟨s, rfl, fun labels => (hlib.text _ _ h labels).symm⟩
  | none =>
    -- it would select the namespace without labels
    have hempty := hlib.label _ _ _ (hlib.missing _ h ∅)
    rw [AList.lookup_empty] at hempty
    cases hempty

lemma podSelector_of_text {a b : Option LabelSelector} (h : lib.formatLabelSelector a = lib.formatLabelSelector b)
    (labels : Labels) : b.all (selects lib · labels) = a.all (selects lib · labels) := by
  cases a with
  | none =>
    cases b with
    | none => rfl
    | some b => simp [hlib.missing b h.symm labels]
  | some a =>
    cases b with
    | none => simp [hlib.missing a h labels]
    | some b => simp [hlib.text a b h labels]

/-- **What compares equal to a built peer matches the same endpoints.** -/
theorem peerMatches_of_policyPeerEqual {ns : String} {podSelector : Option LabelSelector}
    {p : NetworkPolicyPeer} (h : policyPeerEqual lib (inNamespace ns podSelector) p = true)
    (inCIDR : String → String → Bool) (policyNs : String) (e : Endpoint) :
    peerMatches lib inCIDR policyNs p e = peerMatches lib inCIDR policyNs (inNamespace ns podSelector) e := by
  simp only [policyPeerEqual, selectorEqual, Bool.and_eq_true, decide_eq_true_eq] at h
  obtain ⟨⟨hns, hpod⟩, hip⟩ := h
  obtain ⟨s, hs, hsel⟩ := namespaceSelector_of_text hlib hns
  have hblock : p.ipBlock = none := ipBlock_of_ipBlockEqual hip
  cases e with
  | external ip =>
    simp only [peerMatches, hblock]
    rfl
  | pod podNs nsLabels labels ip =>
    simp only [peerMatches, hblock]
    simp only [podMatches, hs, hsel, podSelector_of_text hlib hpod]
    rfl

/-- A namespace by a valid name matches every pod in it. -/
lemma peerMatches_inNamespace {ns : String} (hvalid : validLabelValue ns = true) {nsLabels : Labels}
    (hlabel : nsLabels.lookup labelMetadataName = some ns) (inCIDR : String → String → Bool)
    (policyNs podNs : String) (labels : Labels) (ip : String) :
    peerMatches lib inCIDR policyNs (inNamespace ns none) (.pod podNs nsLabels labels ip) = true := by
  simp only [peerMatches, podMatches, inNamespace, hlib.valid ns nsLabels hvalid hlabel]
  rfl

end

/-! ## A lawful library -/

/-- What a library has to know of a selector to be lawful: the empty one, and a namespace by its name. -/
inductive KnownSelector where
  | any
  | name (ns : String)
  | unknown

def KnownSelector.of (s : LabelSelector) : KnownSelector :=
  match s.matchExpressions, s.matchLabels.entries with
  | [], [] => .any
  | [], [e] => if e.1 = labelMetadataName ∧ validLabelValue e.2 then .name e.2 else .unknown
  | _, _ => .unknown

def KnownSelector.text : KnownSelector → String
  | .any => "<none>"
  | .name ns => labelMetadataName ++ "=" ++ ns
  | .unknown => "<error>"

/-- The least library that is lawful: every other selector is an error. -/
def namespaceSelectors : Apimachinery where
  formatLabelSelector s := (s.elim KnownSelector.any KnownSelector.of).text
  labelSelectorAsSelector s :=
    match KnownSelector.of s with
    | .any => .ok fun _ => true
    | .name ns => .ok fun labels => labels.lookup labelMetadataName = some ns
    | .unknown => .error "unknown selector"

lemma KnownSelector.head_text_name (ns : String) : (name ns).text.toList.head? = some 'k' := by
  rw [text, String.toList_append, String.toList_append]
  rfl

lemma KnownSelector.text_injective {a b : KnownSelector} (h : a.text = b.text) : a = b := by
  have hhead := congrArg (fun s => s.toList.head?) h
  cases a with
  | any =>
    cases b with
    | any => rfl
    | name ns => exact absurd (hhead.trans (head_text_name ns)) (by decide)
    | unknown => exact absurd h (by decide)
  | name ns =>
    cases b with
    | any => exact absurd (hhead.symm.trans (head_text_name ns)) (by decide)
    | name ns' =>
      have htext : (labelMetadataName ++ "=" ++ ns).toList = (labelMetadataName ++ "=" ++ ns').toList :=
        congrArg String.toList h
      rw [String.toList_append, String.toList_append (t := ns'), List.append_cancel_left_eq,
        String.toList_inj] at htext
      rw [htext]
    | unknown => exact absurd (hhead.symm.trans (head_text_name ns)) (by decide)
  | unknown =>
    cases b with
    | any => exact absurd h (by decide)
    | name ns => exact absurd (hhead.trans (head_text_name ns)) (by decide)
    | unknown => rfl

lemma KnownSelector.of_labelIs (key value : String) : KnownSelector.of (labelIs key value) =
    if key = labelMetadataName ∧ validLabelValue value then .name value else .unknown := rfl

lemma lawful_namespaceSelectors : LawfulSelectors namespaceSelectors where
  text a b h labels := by
    have hsame : KnownSelector.of a = KnownSelector.of b := KnownSelector.text_injective h
    simp only [selects, namespaceSelectors, hsame]
  missing a h labels := by
    have hany : KnownSelector.of a = .any := KnownSelector.text_injective h
    simp only [selects, namespaceSelectors, hany]
  label key value labels h := by
    simp only [selects, namespaceSelectors, KnownSelector.of_labelIs] at h
    by_cases hk : key = labelMetadataName ∧ validLabelValue value = true
    · obtain ⟨rfl, hvalid⟩ := hk
      simpa [hvalid] using h
    · simp [hk] at h
  valid value labels hvalid hlabel := by
    simp [selects, namespaceSelectors, KnownSelector.of_labelIs, hvalid, hlabel]

end NetworkEnforcer.Semantics
