import NetworkEnforcer.Learning.Promotion
import NetworkEnforcer.Workload.Extract

/-!
# What the schema of a proposal admits

The validation rules of `api/v1alpha1/policy_backend_spec.go` and `workload_ref.go`, each a test of the
same name, and the updates of the two learners against them.  Both learners write the ingress proposal of
a workload under one name, and each initialises only the fields of its own backend.

* `admits_kubernetes`, `admits_istio` — what the rules ask of each backend;
* `admitsWrite_kubernetes`, `admitsWrite_istio` — one update of either learner;
* `learner_writes_admitted_iff` — an update is admitted exactly when the stored proposal is of its own
  backend and direction.
-/

namespace NetworkEnforcer.Learning

open NetworkEnforcer.Lib NetworkEnforcer.Api NetworkEnforcer.Workload

/-! ## The rules -/

/-- "backend must match exactly one populated backend spec". -/
def backendMatchesSpec (s : PolicyBackendSpec) : Bool :=
  match s.backend with
  | .kubernetes => s.kubernetes.isSome && s.istio.isNone
  | .istio => s.istio.isSome && s.kubernetes.isNone
  | .other _ => false

/-- "kubernetes.podSelector cannot be empty". -/
def podSelectorPresent (s : PolicyBackendSpec) : Bool :=
  match s.backend with
  | .kubernetes => s.kubernetes.any fun k => !selectorEmpty k.podSelector
  | _ => true

/-- "istio.selector cannot be empty". -/
def istioSelectorPresent (s : PolicyBackendSpec) : Bool :=
  match s.backend with
  | .istio => s.istio.any fun i => !selectorEmpty i.selector
  | _ => true

/-- "Istio backend accepts direction Ingress only". -/
def istioDirectionAccepted (s : WorkloadNetworkPolicyProposalSpec) : Bool :=
  s.backend ≠ .istio || s.direction ≠ .egress

/-- "kubernetes.policyTypes must equal [direction]". -/
def policyTypesMatchDirection (s : WorkloadNetworkPolicyProposalSpec) : Bool :=
  match s.backend with
  | .kubernetes => s.kubernetes.any fun k => k.policyTypes = [s.direction]
  | _ => true

/-- The enumeration `Ingress;Egress`. -/
def directionKnown (s : WorkloadNetworkPolicyProposalSpec) : Bool := s.direction ≠ .unset

/-- The rules about one specification. -/
def admits (s : WorkloadNetworkPolicyProposalSpec) : Bool :=
  backendMatchesSpec s.toPolicyBackendSpec && podSelectorPresent s.toPolicyBackendSpec &&
    istioSelectorPresent s.toPolicyBackendSpec && istioDirectionAccepted s &&
    policyTypesMatchDirection s && directionKnown s

/-- "backend is immutable", a rule about the stored specification and the new one. -/
def backendUnchanged (stored : Option WorkloadNetworkPolicyProposalSpec)
    (s : WorkloadNetworkPolicyProposalSpec) : Bool :=
  stored.all fun old => s.backend = old.backend

/-- The API server accepts the specification in the place of the stored one, or as the first one. -/
def admitsWrite (stored : Option WorkloadNetworkPolicyProposalSpec)
    (s : WorkloadNetworkPolicyProposalSpec) : Bool :=
  admits s && backendUnchanged stored s

section Rules

variable {s : WorkloadNetworkPolicyProposalSpec}

lemma admits_kubernetes (h : s.backend = .kubernetes) :
    admits s = true ↔ s.istio = none ∧ s.direction ≠ .unset ∧
      ∃ k, s.kubernetes = some k ∧ selectorEmpty k.podSelector = false ∧
        k.policyTypes = [s.direction] := by
  cases hk : s.kubernetes with
  | none => simp [admits, backendMatchesSpec, h, hk]
  | some k =>
    simp [admits, backendMatchesSpec, podSelectorPresent, istioSelectorPresent,
      istioDirectionAccepted, policyTypesMatchDirection, directionKnown, h, hk]
    tauto

lemma admits_istio (h : s.backend = .istio) :
    admits s = true ↔ s.kubernetes = none ∧ s.direction = .ingress ∧
      ∃ i, s.istio = some i ∧ selectorEmpty i.selector = false := by
  have hingress : s.direction = .ingress ↔ s.direction ≠ .egress ∧ s.direction ≠ .unset := by
    cases s.direction <;> simp
  cases hi : s.istio with
  | none => simp [admits, backendMatchesSpec, h, hi]
  | some i =>
    simp [admits, backendMatchesSpec, podSelectorPresent, istioSelectorPresent,
      istioDirectionAccepted, policyTypesMatchDirection, directionKnown, h, hi, hingress]
    tauto

lemma backend_of_admits (h : admits s = true) : s.backend = .kubernetes ∨ s.backend = .istio := by
  cases hb : s.backend with
  | kubernetes => exact Or.inl rfl
  | istio => exact Or.inr rfl
  | other name => simp [admits, backendMatchesSpec, hb] at h

end Rules

/-! ## Events -/

namespace LearnerUpdate

/-- The workload whose proposal is updated. -/
def workload : LearnerUpdate → WorkloadRef
  | .kubernetes workload _ _ => workload
  | .istio dest _ _ => dest

def backend : LearnerUpdate → PolicyBackend
  | .kubernetes .. => .kubernetes
  | .istio .. => .istio

/-- The direction of the proposal; the Istio learner has ingress proposals only. -/
def direction : LearnerUpdate → PolicyType
  | .kubernetes _ direction _ => direction
  | .istio .. => .ingress

/-- The specification that `CreateOrUpdate` writes: the mutation of the stored one, or of a new one. -/
def write (lib : Apimachinery) (u : LearnerUpdate)
    (stored : Option WorkloadNetworkPolicyProposalSpec) :
    Except Err WorkloadNetworkPolicyProposalSpec :=
  u.apply lib (stored.getD u.metadata.spec)

end LearnerUpdate

/-- An event of a learner, with a workload whose selector is not empty. -/
structure ValidUpdate (u : LearnerUpdate) : Prop where
  directed : u.direction ≠ .unset
  selector : selectorEmpty u.workload.selector = false

/-- The stored proposal, if there is one, is of the backend and of the direction of the event. -/
def Fits (u : LearnerUpdate) (stored : Option WorkloadNetworkPolicyProposalSpec) : Prop :=
  ∀ s, stored = some s → s.backend = u.backend ∧ s.direction = u.direction

section Learners

variable (lib : Apimachinery)

/-- What the Kubernetes learner writes, as far as the rules look at it. -/
lemma mutateKubernetesProposal_eq_ok {direction : PolicyType} (hd : direction ≠ .unset)
    (workload peer : WorkloadRef) (protocol : String) (dstPort : Int)
    (proposal : WorkloadNetworkPolicyProposalSpec) :
    ∃ new spec, mutateKubernetesProposal lib workload peer direction protocol dstPort proposal =
        .ok new ∧
      new.backend = .kubernetes ∧ new.direction = direction ∧ new.istio = proposal.istio ∧
      new.kubernetes = some spec ∧
      spec.podSelector =
        (selectWorkload workload direction (proposal.kubernetes.getD {})).podSelector ∧
      spec.policyTypes =
        (selectWorkload workload direction (proposal.kubernetes.getD {})).policyTypes := by
  cases direction with
  | egress => exact ⟨_, _, rfl, rfl, rfl, rfl, rfl, rfl, rfl⟩
  | ingress => exact ⟨_, _, rfl, rfl, rfl, rfl, rfl, rfl, rfl⟩
  | unset => exact absurd rfl hd

/-- What the Istio learner writes over a proposal with an Istio specification. -/
lemma mutateIstioProposal_some {proposal : WorkloadNetworkPolicyProposalSpec}
    {i : IstioAuthorizationPolicySpec} (hi : proposal.istio = some i) (dest : WorkloadRef)
    (principal : String) (dstPort : Int) :
    ∃ new, mutateIstioProposal dest principal dstPort proposal = new ∧
      new.backend = proposal.backend ∧ new.direction = .ingress ∧
      new.kubernetes = proposal.kubernetes ∧
      ∃ i', new.istio = some i' ∧ i'.selector = i.selector := by
  refine ⟨_, rfl, ?_⟩
  simp [mutateIstioProposal, hi, workloadTargetingSpec, upsertIstioLearnedRule]

/-- What the Istio learner writes over a proposal without one. -/
lemma mutateIstioProposal_none {proposal : WorkloadNetworkPolicyProposalSpec}
    (hi : proposal.istio = none) (dest : WorkloadRef) (principal : String) (dstPort : Int) :
    ∃ new, mutateIstioProposal dest principal dstPort proposal = new ∧
      new.backend = .istio ∧ new.direction = .ingress ∧ new.kubernetes = proposal.kubernetes ∧
      ∃ i', new.istio = some i' ∧ i'.selector = dest.selector := by
  refine ⟨_, rfl, ?_⟩
  simp [mutateIstioProposal, hi, workloadTargetingSpec, upsertIstioLearnedRule]

variable {lib}

/-- A stored proposal of another backend is in the way, by the rule that the backend is immutable. -/
lemma admitsWrite_iff_of_backend_ne {u : LearnerUpdate} {s new : WorkloadNetworkPolicyProposalSpec}
    (hb : s.backend ≠ u.backend) (hnew : new.backend = u.backend) :
    admitsWrite (some s) new = true ↔ Fits u (some s) := by
  refine iff_of_false ?_ fun hfits => hb (hfits s rfl).1
  have hne : ¬ u.backend = s.backend := fun h => hb h.symm
  simp [admitsWrite, backendUnchanged, hnew, hne]

/-- **One update of the Kubernetes learner.** -/
theorem admitsWrite_kubernetes {workload : WorkloadRef} {direction : PolicyType} {flow : LearnedFlow}
    (hu : ValidUpdate (.kubernetes workload direction flow))
    {stored : Option WorkloadNetworkPolicyProposalSpec} (hstored : ∀ s, stored = some s → admits s = true) :
    ∃ new, (LearnerUpdate.kubernetes workload direction flow).write lib stored = .ok new ∧
      new.backend = .kubernetes ∧ new.direction = direction ∧
      (admitsWrite stored new = true ↔ Fits (.kubernetes workload direction flow) stored) := by
  have hdir : direction ≠ .unset := hu.directed
  have hworkload : selectorEmpty workload.selector = false := hu.selector
  obtain ⟨new, spec, hok, hb, hd, histio, hspec, hsel, htypes⟩ :=
    mutateKubernetesProposal_eq_ok lib hdir workload flow.peer flow.protocol flow.dstPort
      (stored.getD (getProposalMetadata workload direction).spec)
  refine ⟨new, hok, hb, hd, ?_⟩
  cases stored with
  | none =>
    -- a new proposal gets selector and policy type
    have hsel' : spec.podSelector = workload.selector := hsel
    have htypes' : spec.policyTypes = [direction] := htypes
    refine iff_of_true ?_ fun s hs => nomatch hs
    rw [admitsWrite, Bool.and_eq_true, admits_kubernetes hb, hd]
    exact ⟨⟨histio, hdir, spec, hspec, by rw [hsel']; exact hworkload, htypes'⟩, rfl⟩
  | some s =>
    rcases backend_of_admits (hstored s rfl) with hsb | hsb
    · obtain ⟨hsistio, -, k, hk, hksel, hktypes⟩ := (admits_kubernetes hsb).1 (hstored s rfl)
      -- the stored selector and policy type stay
      have hkeep : selectWorkload workload direction (s.kubernetes.getD {}) = k := by
        rw [hk, Option.getD_some, selectWorkload, if_neg (by simp [hktypes])]
      rw [Option.getD_some, hkeep] at hsel htypes
      rw [Option.getD_some, hsistio] at histio
      rw [admitsWrite, Bool.and_eq_true, admits_kubernetes hb, hd]
      constructor
      · rintro ⟨⟨-, -, k', hk', -, htypes'⟩, -⟩ s' hs'
        obtain rfl := Option.some.inj hs'
        obtain rfl : spec = k' := Option.some.inj (hspec.symm.trans hk')
        rw [htypes, hktypes] at htypes'
        exact ⟨hsb, (List.cons.inj htypes').1⟩
      · intro hfits
        have hsame : s.direction = direction := (hfits s rfl).2
        refine ⟨⟨histio, hdir, spec, hspec, by rw [hsel]; exact hksel, ?_⟩, ?_⟩
        · rw [htypes, hktypes, hsame]
        · simp [backendUnchanged, hb, hsb]
    · exact admitsWrite_iff_of_backend_ne (by rw [hsb]; simp [LearnerUpdate.backend]) hb

/-- **One update of the Istio learner.** -/
theorem admitsWrite_istio {dest : WorkloadRef} {principal : String} {dstPort : Int}
    (hu : ValidUpdate (.istio dest principal dstPort))
    {stored : Option WorkloadNetworkPolicyProposalSpec} (hstored : ∀ s, stored = some s → admits s = true) :
    ∃ new, (LearnerUpdate.istio dest principal dstPort).write lib stored = .ok new ∧
      new.backend = .istio ∧ new.direction = .ingress ∧
      (admitsWrite stored new = true ↔ Fits (.istio dest principal dstPort) stored) := by
  cases stored with
  | none =>
    have hempty : (getProposalMetadata dest .ingress).spec.istio = none := rfl
    obtain ⟨new, hnew, hb, hd, hkube, i, hi, hsel⟩ :=
      mutateIstioProposal_none hempty dest principal dstPort
    refine ⟨new, congrArg Except.ok hnew, hb, hd, iff_of_true ?_ fun s hs => nomatch hs⟩
    rw [admitsWrite, Bool.and_eq_true, admits_istio hb]
    exact ⟨⟨hkube, hd, i, hi, by rw [hsel]; exact hu.selector⟩, rfl⟩
  | some s =>
    rcases backend_of_admits (hstored s rfl) with hsb | hsb
    · obtain ⟨hsistio, -⟩ := (admits_kubernetes hsb).1 (hstored s rfl)
      obtain ⟨new, hnew, hb, hd, -⟩ := mutateIstioProposal_none hsistio dest principal dstPort
      refine ⟨new, congrArg Except.ok hnew, hb, hd, ?_⟩
      exact admitsWrite_iff_of_backend_ne (by rw [hsb]; simp [LearnerUpdate.backend]) hb
    · obtain ⟨hskube, hsdir, i, hsi, hsel⟩ := (admits_istio hsb).1 (hstored s rfl)
      obtain ⟨new, hnew, hb, hd, hkube, i', hi', hsel'⟩ :=
        mutateIstioProposal_some hsi dest principal dstPort
      rw [hsb] at hb
      refine ⟨new, congrArg Except.ok hnew, hb, hd, iff_of_true ?_ ?_⟩
      · rw [admitsWrite, Bool.and_eq_true, admits_istio hb]
        refine ⟨⟨hkube.trans hskube, hd, i', hi', by rw [hsel']; exact hsel⟩, ?_⟩
        simp [backendUnchanged, hb, hsb]
      · intro s' hs'
        obtain rfl := Option.some.inj hs'
        exact ⟨hsb, hsdir⟩

variable (lib)

/-- **One update of either learner.** -/
theorem admitsWrite_iff_fits {u : LearnerUpdate} (hu : ValidUpdate u)
    {stored : Option WorkloadNetworkPolicyProposalSpec} (hstored : ∀ s, stored = some s → admits s = true) :
    ∃ new, u.write lib stored = .ok new ∧ new.backend = u.backend ∧ new.direction = u.direction ∧
      (admitsWrite stored new = true ↔ Fits u stored) := by
  cases u with
  | kubernetes workload direction flow => exact admitsWrite_kubernetes hu hstored
  | istio dest principal dstPort => exact admitsWrite_istio hu hstored

/-- **A learner writes what the schema admits exactly over a proposal of its own backend and
direction**, or where there is none. -/
theorem learner_writes_admitted_iff (u : LearnerUpdate)
    (stored : Option WorkloadNetworkPolicyProposalSpec) (hu : ValidUpdate u)
    (hstored : ∀ s, stored = some s → admits s = true) :
    ∃ new, u.write lib stored = .ok new ∧
      (admitsWrite stored new = true ↔
        ∀ s, stored = some s → s.backend = u.backend ∧ s.direction = u.direction) := by
  obtain ⟨new, hnew, -, -, hiff⟩ := admitsWrite_iff_fits lib hu hstored
  exact ⟨new, hnew, hiff⟩

end Learners

/-- The workload of the runs below. -/
def webWorkload : WorkloadRef where
  ns := "shop"
  ownerKind := workloadKindDeployment
  ownerName := "web"
  selector := { matchLabels := AList.singleton "app" "web" }

/-- A flow that the Kubernetes learner sees, and one that the Istio learner sees. -/
def kubernetesEvent : LearnerUpdate :=
  .kubernetes webWorkload .ingress { peer := webWorkload, protocol := "TCP", dstPort := 80 }

def istioEvent : LearnerUpdate := .istio webWorkload "cluster.local/ns/shop/sa/default" 80

/-- A proposal that the Istio learner may have stored. -/
def storedIstioProposal : WorkloadNetworkPolicyProposalSpec where
  toWorkloadTargetingSpec := workloadTargetingSpec webWorkload .ingress
  backend := .istio
  istio := some { selector := webWorkload.selector }

theorem learner_writes_admitted_over_own : admits storedIstioProposal = true ∧
    ∃ new, istioEvent.write .documented (some storedIstioProposal) = .ok new ∧
      admitsWrite (some storedIstioProposal) new = true := by
  have hstored : admits storedIstioProposal = true := by decide +kernel
  obtain ⟨new, hnew, hiff⟩ := learner_writes_admitted_iff .documented istioEvent
    (some storedIstioProposal) ⟨by decide, by decide⟩ (by rintro _ ⟨rfl⟩; exact hstored)
  exact ⟨hstored, new, hnew, hiff.2 (by rintro _ ⟨rfl⟩; exact ⟨rfl, rfl⟩)⟩

/-- **A provider switched between two events**: the Istio learner writes a second backend into the
proposal that the Kubernetes learner has stored, and changes its backend. -/
theorem istio_event_over_kubernetes_proposal : ∃ stored new,
    kubernetesEvent.write .documented none = .ok stored ∧ admits stored = true ∧
      istioEvent.metadata.namespacedName = kubernetesEvent.metadata.namespacedName ∧
      istioEvent.write .documented (some stored) = .ok new ∧
      new.kubernetes.isSome = true ∧ new.istio.isSome = true ∧ new.backend ≠ stored.backend ∧
      admitsWrite (some stored) new = false :=
  ⟨_, _, rfl, by decide +kernel, by decide +kernel, rfl, by decide +kernel, by decide +kernel,
    by decide +kernel, by decide +kernel⟩

end NetworkEnforcer.Learning
