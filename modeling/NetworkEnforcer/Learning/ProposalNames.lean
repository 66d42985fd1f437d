import NetworkEnforcer.Learning.Reconciler
import NetworkEnforcer.Reconcile.Direct

/-!
# Proposal names and the workloads they stand for

A proposal is named `<kind>-<ownerName>-<direction>`, and the reconciler finds the owner again from the
name alone.  The owner name is arbitrary, so that the parts can only be told apart because no kind starts
another one and neither direction ends the other.

* `parts_unique` — a name has its three parts in one way only;
* `ownerRefFromProposalName_eq_some` — what the reconciler reads from a name;
* `reconcileOwnership_spares_learned` — its owner is the workload, so that it is not deleted as an orphan
  while the workload is found;
* `proposalNames_encode_workloads` — no name is shared, and no proposal is an orphan while its workload
  exists.
-/

namespace NetworkEnforcer.Learning

open NetworkEnforcer.Lib NetworkEnforcer.Api NetworkEnforcer.Reconcile

/-- What a proposal is learned for: a workload of a supported kind, and one of the two directions. -/
structure ProposalTarget (wk : WorkloadRef) (direction : PolicyType) : Prop where
  supported : wk.isSupported = true
  named : wk.ownerName ≠ ""
  directed : direction ≠ .unset

/-! ## The parts of a name -/

/-- The end of a proposal name. -/
def directionSuffix (direction : PolicyType) : String := "-" ++ toLower direction.text

lemma getProposalName_eq (wk : WorkloadRef) (direction : PolicyType) :
    getProposalName wk direction =
      (toLower wk.ownerKind ++ "-") ++ (wk.ownerName ++ directionSuffix direction) := by
  simp [getProposalName, directionSuffix, String.append_assoc]

lemma mem_knownKinds {wk : WorkloadRef} (h : wk.isSupported = true) :
    (wk.ownerKind, toLower wk.ownerKind ++ "-") ∈ knownKinds := by
  simp only [WorkloadRef.isSupported, Bool.or_eq_true, decide_eq_true_eq] at h
  rcases h with (h | h) | h
  · simp [knownKinds, h]
  · simp [knownKinds, h]
  · simp [knownKinds, h]

lemma directionSuffix_mem {direction : PolicyType} (h : direction ≠ .unset) :
    directionSuffix direction ∈ knownSuffixes := by
  cases direction with
  | egress => decide +kernel
  | ingress => decide +kernel
  | unset => exact absurd rfl h

lemma directionSuffix_injective {d d' : PolicyType} (h : directionSuffix d = directionSuffix d') :
    d = d' := by
  have key : ∀ d ∈ [PolicyType.egress, .ingress, .unset], ∀ d' ∈ [PolicyType.egress, .ingress, .unset],
      directionSuffix d = directionSuffix d' → d = d' := by decide +kernel
  have hall : ∀ d : PolicyType, d ∈ [PolicyType.egress, .ingress, .unset] := by
    intro d
    cases d <;> simp
  exact key d (hall d) d' (hall d') h

/-- No kind starts another one. -/
lemma knownKinds_unambiguous :
    ∀ p ∈ knownKinds, ∀ p' ∈ knownKinds, p.2.toList <+: p'.2.toList → p = p' := by
  decide +kernel

/-- Neither direction ends the other. -/
lemma knownSuffixes_unambiguous :
    ∀ s ∈ knownSuffixes, ∀ s' ∈ knownSuffixes, s.toList <:+ s'.toList → s = s' := by
  decide +kernel

/-- **A name has its parts in one way only**, whatever the owner name contains. -/
theorem parts_unique {p p' : WorkloadKind × String} (hp : p ∈ knownKinds) (hp' : p' ∈ knownKinds)
    {s s' : String} (hs : s ∈ knownSuffixes) (hs' : s' ∈ knownSuffixes) {n n' : String}
    (h : p.2 ++ (n ++ s) = p'.2 ++ (n' ++ s')) : p = p' ∧ n = n' ∧ s = s' := by
  obtain rfl : p = p' := by
    rcases starts_comparable h with hstart | hstart
    · exact knownKinds_unambiguous p hp p' hp' hstart
    · exact (knownKinds_unambiguous p' hp' p hp hstart).symm
  have hrest : n ++ s = n' ++ s' := String.append_right_inj _ |>.1 h
  obtain rfl : s = s' := by
    rcases ends_comparable hrest with hend | hend
    · exact knownSuffixes_unambiguous s hs s' hs' hend
    · exact (knownSuffixes_unambiguous s' hs' s hs hend).symm
  exact ⟨rfl, String.append_left_inj _ |>.1 hrest, rfl⟩

/-! ## Reading a name -/

/-- Some kind and some direction fit, if the name is read at all. -/
lemma ownerRefFromProposalName_sound {ns name : String} {wk : WorkloadRef}
    (h : ownerRefFromProposalName ns name = some wk) :
    ∃ p ∈ knownKinds, ∃ s ∈ knownSuffixes, ∃ n, name = p.2 ++ (n ++ s) ∧
      wk = { ns := ns, ownerKind := p.1, ownerName := n } := by
  obtain ⟨p, hp, hkind⟩ := List.exists_of_findSome?_eq_some h
  obtain ⟨rest, hrest, hsuffix⟩ := Option.bind_eq_some_iff.1 hkind
  obtain ⟨s, hs, hcut⟩ := List.exists_of_findSome?_eq_some hsuffix
  obtain ⟨n, hn, hwk⟩ := Option.bind_eq_some_iff.1 hcut
  refine ⟨p, hp, s, hs, n, ?_, ?_⟩
  · rw [cutPrefix_eq_some.1 hrest, cutSuffix_eq_some.1 hn]
  · by_cases hempty : n = ""
    · rw [if_pos hempty] at hwk
      cases hwk
    · rw [if_neg hempty] at hwk
      exact (Option.some.inj hwk).symm

/-- **What the reconciler reads from a name.** -/
theorem ownerRefFromProposalName_eq_some {ns kind start n s : String}
    (hp : (kind, start) ∈ knownKinds) (hs : s ∈ knownSuffixes) (hn : n ≠ "") :
    ownerRefFromProposalName ns (start ++ (n ++ s)) =
      some { ns := ns, ownerKind := kind, ownerName := n } := by
  cases hread : ownerRefFromProposalName ns (start ++ (n ++ s)) with
  | none =>
    -- this kind and this direction would have fitted
    have hkind := List.findSome?_eq_none_iff.1 hread (kind, start) hp
    dsimp only at hkind
    rw [cutPrefix_eq_some.2 rfl, Option.bind_some] at hkind
    have hsuffix := List.findSome?_eq_none_iff.1 hkind s hs
    rw [cutSuffix_eq_some.2 rfl, Option.bind_some, if_neg hn] at hsuffix
    cases hsuffix
  | some wk =>
    obtain ⟨p', hp', s', hs', n', hname, rfl⟩ := ownerRefFromProposalName_sound hread
    obtain ⟨rfl, rfl, -⟩ := parts_unique hp hp' hs hs' hname
    rfl

theorem ownerRefFromProposalName_getProposalName {wk : WorkloadRef} {direction : PolicyType}
    (h : ProposalTarget wk direction) (ns : String) :
    ownerRefFromProposalName ns (getProposalName wk direction) =
      some { ns := ns, ownerKind := wk.ownerKind, ownerName := wk.ownerName } := by
  rw [getProposalName_eq]
  exact ownerRefFromProposalName_eq_some (mem_knownKinds h.supported)
    (directionSuffix_mem h.directed) h.named

theorem getProposalName_injective {wk wk' : WorkloadRef} {d d' : PolicyType} (h : ProposalTarget wk d)
    (h' : ProposalTarget wk' d') (hname : getProposalName wk d = getProposalName wk' d') :
    wk.ownerKind = wk'.ownerKind ∧ wk.ownerName = wk'.ownerName ∧ d = d' := by
  rw [getProposalName_eq, getProposalName_eq] at hname
  obtain ⟨hkind, hn, hsuffix⟩ := parts_unique (mem_knownKinds h.supported)
    (mem_knownKinds h'.supported) (directionSuffix_mem h.directed) (directionSuffix_mem h'.directed)
    hname
  exact ⟨congrArg Prod.fst hkind, hn, directionSuffix_injective hsuffix⟩

/-! ## Orphans -/

section Orphans

variable {World : Type}

/-- The workload exists for as long as the system is looked at: its `Get` may fail, and is not answered
with `NotFound`. -/
def WorkloadExists (S : System Request.Resp World) (wk : WorkloadRef) : Prop :=
  ∀ w err w', S.exec (.getOwner { ns := wk.ns, ownerKind := wk.ownerKind, ownerName := wk.ownerName })
    w (.error err) w' → err.isNotFound = false

/-- The request is not the deletion of an orphan. -/
def NotOrphaned (r : Request) (_ : World) : Prop := ∀ p, r ≠ .delete p .orphaned

/-- **The owner of a learned proposal is its workload**, so that the proposal is not deleted as an orphan
while the workload exists. -/
theorem reconcileOwnership_spares_learned {S : System Request.Resp World} {wk : WorkloadRef}
    {direction : PolicyType} (h : ProposalTarget wk direction) (hexists : WorkloadExists S wk)
    (ctrl : ControllerLib) {proposal : WorkloadNetworkPolicyProposal}
    (hkey : proposal.namespacedName = (getProposalMetadata wk direction).namespacedName) (w : World) :
    Safe S (fun _ => True) NotOrphaned (fun _ _ => True) (reconcileOwnership ctrl proposal) w := by
  have hns : proposal.ns = wk.ns := congrArg NamespacedName.ns hkey
  have hname : proposal.name = getProposalName wk direction := congrArg NamespacedName.name hkey
  refine reconcileOwnership_rule ctrl (I := fun _ _ => True) (fun _ _ _ _ _ => trivial)
    (fun _ _ _ => trivial) (fun _ _ _ _ _ _ => trivial) (fun _ _ _ _ _ _ => trivial) ?_ ?_ ?_
    (fun _ _ _ => trivial) (fun _ _ _ _ => trivial) trivial
  · exact fun owner w _ p => by simp
  · -- the owner that is looked for is the workload, which exists
    intro owner err w w' howner hans hgone
    rw [hns, hname, ownerRefFromProposalName_getProposalName h] at howner
    obtain rfl := Option.some.inj howner
    rw [hexists w err w' hans] at hgone
    cases hgone
  · exact fun refs w _ p => by simp

end Orphans

/-- **Proposal names encode workloads without loss**: the owner is read back from the name, kind, name
and direction are told apart by it, workloads share no proposal, and no run deletes a learned proposal as
an orphan while its workload exists. -/
theorem proposalNames_encode_workloads :
    (∀ wk direction, ProposalTarget wk direction → ∀ ns,
      ownerRefFromProposalName ns (getProposalName wk direction) =
        some { ns := ns, ownerKind := wk.ownerKind, ownerName := wk.ownerName }) ∧
    (∀ wk wk' d d', ProposalTarget wk d → ProposalTarget wk' d' →
      getProposalName wk d = getProposalName wk' d' →
        wk.ownerKind = wk'.ownerKind ∧ wk.ownerName = wk'.ownerName ∧ d = d') ∧
    (∀ wk wk' d d', ProposalTarget wk d → ProposalTarget wk' d' →
      (getProposalMetadata wk d).namespacedName = (getProposalMetadata wk' d').namespacedName →
        wk.ns = wk'.ns ∧ wk.ownerKind = wk'.ownerKind ∧ wk.ownerName = wk'.ownerName) ∧
    (∀ {World : Type} (S : System Request.Resp World) ctrl wk direction proposal,
      ProposalTarget wk direction → WorkloadExists S wk →
      proposal.namespacedName = (getProposalMetadata wk direction).namespacedName →
      ∀ w w' p k, ¬ S.Runs (reconcileOwnership ctrl proposal) (w, reconcileOwnership ctrl proposal)
        (w', .call (.delete p .orphaned) k)) := by
  refine ⟨?_, ?_, ?_, ?_⟩
  · exact fun wk direction h ns => ownerRefFromProposalName_getProposalName h ns
  · exact fun wk wk' d d' h h' hname => getProposalName_injective h h' hname
  · intro wk wk' d d' h h' hkey
    have hns : wk.ns = wk'.ns := congrArg NamespacedName.ns hkey
    obtain ⟨hkind, hname, -⟩ := getProposalName_injective h h' (congrArg NamespacedName.name hkey)
    exact ⟨hns, hkind, hname⟩
  · intro World S ctrl wk direction proposal h hexists hkey w w' p k hrun
    have hsafe := Safe.reachable
      (fun _ w _ => reconcileOwnership_spares_learned h hexists ctrl hkey w)
      (reconcileOwnership_spares_learned h hexists ctrl hkey w) hrun
    exact hsafe.request p rfl

/-- Every `Get` of a workload is answered so, and other requests in any way. -/
def ownerAnswers (answer : Except Err ObjectMeta) : System Request.Resp Unit where
  exec
    | .getOwner _, _, x, _ => x = answer
    | _, _, _, _ => True
  env _ _ := False

/-- A workload that exists becomes the owner of the proposal of its name; a missing one makes it an orphan. -/
example (spec : WorkloadNetworkPolicyProposalSpec) :
    let wk : WorkloadRef := { ns := "shop", ownerKind := workloadKindDeployment, ownerName := "web" }
    let web : ObjectMeta := { ns := "shop", name := "web", uid := "u" }
    let proposal : WorkloadNetworkPolicyProposal := { ns := "shop", name := "deployment-web-ingress", spec }
    let body := reconcileOwnership (.direct 0) proposal
    WorkloadExists (ownerAnswers (.ok web)) wk ∧
      (∃ refs k, (ownerAnswers (.ok web)).Runs body ((), body) ((), .call (.patchOwnerReferences proposal refs) k)) ∧
      ∃ k, (ownerAnswers (.error (.notFound "web"))).Runs body ((), body)
        ((), .call (.delete proposal .orphaned) k) := by
  intro wk web proposal body
  have hwk : ownerRefFromProposalName "shop" "deployment-web-ingress" = some wk := rfl
  have hstart (answer : Except Err ObjectMeta) :
      (ownerAnswers answer).Runs body ((), body) ((), reconcileOwnership (.direct 0) proposal) := .refl
  simp only [reconcileOwnership, proposal, hwk] at hstart
  have hasked (answer : Except Err ObjectMeta) : (ownerAnswers answer).exec (.getOwner wk) () answer () := rfl
  refine ⟨?_, ⟨_, _, System.Runs.ask (hstart _) (hasked _)⟩, ⟨_, System.Runs.ask (hstart _) (hasked _)⟩⟩
  intro w err w' h
  cases (h : Except.error err = Except.ok web)

end NetworkEnforcer.Learning
