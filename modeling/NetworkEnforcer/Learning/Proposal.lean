import NetworkEnforcer.Lib.Strconv
import NetworkEnforcer.Api.Errors

/-!
# Proposals and their promotion

The metadata of a learned proposal (`internal/controller/workload_selectors.go`), the labels of
`api/v1alpha1/keys.go` and the policy that the proposal reconciler makes of a proposal
(`internal/controller/workloadnetworkpolicyproposal_controller.go`).
-/

namespace NetworkEnforcer.Learning

open NetworkEnforcer.Lib NetworkEnforcer.Api

def getProposalName (wk : WorkloadRef) (direction : PolicyType) : String :=
  toLower wk.ownerKind ++ "-" ++ wk.ownerName ++ "-" ++ toLower direction.text

def workloadTargetingSpec (wk : WorkloadRef) (direction : PolicyType) : WorkloadTargetingSpec where
  targetRef := { kind := wk.ownerKind, name := wk.ownerName }
  direction := direction

/-- `getProposalMetadata`; the backend is the empty string until the first rule is learned. -/
def getProposalMetadata (wk : WorkloadRef) (direction : PolicyType) : WorkloadNetworkPolicyProposal where
  ns := wk.ns
  name := getProposalName wk direction
  spec := { toWorkloadTargetingSpec := workloadTargetingSpec wk direction, backend := .other "" }

/-! ## Labels -/

def proposalPromoteLabelKey : String := "networkenforcer.kubewarden.io/promote"
def policyPromotedFromLabelKey : String := "networkenforcer.kubewarden.io/promoted-from"

def maxLabelValueLength : Nat := 63

/-- `HasPromotionLabel`: the mode the label asks for, if it is a valid one. -/
def hasPromotionLabel (proposal : WorkloadNetworkPolicyProposal) : Option WorkloadNetworkPolicyMode :=
  match proposal.labels.lookup proposalPromoteLabelKey with
  | some "monitor" => some .monitor
  | some "protect" => some .protect
  | _ => none

/-- `SetPromotedLabel`. -/
def setPromotedLabel (wnp : WorkloadNetworkPolicy) (proposalName : String) :
    Except Err WorkloadNetworkPolicy :=
  if maxLabelValueLength < proposalName.utf8ByteSize then
    .error (.other ("proposalName \"" ++ proposalName ++ "\" is too long"))
  else .ok { wnp with labels := wnp.labels.insert policyPromotedFromLabelKey proposalName }

/-- The selection of `checkExistingPolicy`: the policies of a namespace promoted from a proposal. -/
def promotedFrom (ns proposalName : String) (wnp : WorkloadNetworkPolicy) : Bool :=
  wnp.ns = ns && wnp.labels.lookup policyPromotedFromLabelKey = some proposalName

/-! ## Promotion -/

/-- The policy `Reconcile` creates from a proposal. -/
def promotedPolicy (proposal : WorkloadNetworkPolicyProposal) (mode : WorkloadNetworkPolicyMode) :
    Except Err WorkloadNetworkPolicy :=
  let policy : WorkloadNetworkPolicy :=
    { ns := proposal.ns
      name := proposal.name
      spec := { toPolicyBackendSpec := proposal.spec.toPolicyBackendSpec
                toWorkloadTargetingSpec := proposal.spec.toWorkloadTargetingSpec
                mode := mode } }
  match setPromotedLabel policy proposal.name with
  | .ok policy => .ok policy
  | .error err => .error (.wrap "failed to set promoted label" err)

/-- **Promotion copies the specification of the proposal and names the proposal in its label.** -/
theorem promotedPolicy_eq_ok {proposal : WorkloadNetworkPolicyProposal}
    {mode : WorkloadNetworkPolicyMode} {policy : WorkloadNetworkPolicy}
    (h : promotedPolicy proposal mode = .ok policy) :
    policy.key = proposal.namespacedName ∧ promotedFrom proposal.ns proposal.name policy = true ∧
      policy.spec = { toPolicyBackendSpec := proposal.spec.toPolicyBackendSpec
                      toWorkloadTargetingSpec := proposal.spec.toWorkloadTargetingSpec
                      mode := mode } := by
  unfold promotedPolicy setPromotedLabel at h
  by_cases hlen : maxLabelValueLength < proposal.name.utf8ByteSize
  · simp only [hlen, if_true] at h
    cases h
  · simp only [hlen, if_false] at h
    obtain rfl := Except.ok.inj h
    refine ⟨rfl, ?_, rfl⟩
    rw [promotedFrom, Bool.and_eq_true, decide_eq_true_iff, decide_eq_true_iff]
    exact ⟨rfl, AList.lookup_insert _⟩

/-- A name that fits into a label is enough. -/
lemma exists_promotedPolicy (proposal : WorkloadNetworkPolicyProposal)
    (hlen : proposal.name.utf8ByteSize ≤ maxLabelValueLength) (mode : WorkloadNetworkPolicyMode) :
    ∃ policy, promotedPolicy proposal mode = .ok policy := by
  unfold promotedPolicy setPromotedLabel
  simp only [Nat.not_lt.2 hlen, if_false]
  exact ⟨_, rfl⟩

end NetworkEnforcer.Learning
