import NetworkEnforcer.Status.Rounds

/-!
# Clearing permitted violations

`permits` is the test of `clearAllowedViolations`, whatever the backend; it reads nothing of a record but
its key (`permits_ofKey`).  `RecomputeStatus` clears after it has trimmed the list, so a permitted record
that is about to be cleared still takes one of the hundred places.  `recomputeStatus_entries` is the call
seen through keys and times, and the comparison with a run that never sees the permitted records is then
the question whether a filter passes through a cut.
-/

namespace NetworkEnforcer.Status

open NetworkEnforcer.Lib NetworkEnforcer.Api

/-- The flow of the record is permitted by the policy template. -/
def permits (lib : Apimachinery) (spec : WorkloadNetworkPolicySpec) (v : ViolationRecord) : Bool :=
  match spec.backend with
  | .kubernetes => spec.kubernetes.any fun template => kubernetesAllows lib template v
  | .istio => spec.istio.any fun istio => istioAllows istio v
  | .other _ => false

/-- A record with the given key. -/
def ofKey (k : ViolationRecordKey) : ViolationRecord where
  source := ⟨k.srcNamespace, k.srcOwnerKind, k.srcOwnerName, k.srcIdentity, {}⟩
  dest := ⟨k.dstNamespace, k.dstOwnerKind, k.dstOwnerName, k.dstIdentity, {}⟩
  protocol := k.protocol
  dstPort := k.dstPort
  action := k.action
  denyingPolicyNamespace := k.denyingPolicyNamespace
  denyingPolicyName := k.denyingPolicyName

lemma permits_ofKey (lib : Apimachinery) (spec : WorkloadNetworkPolicySpec) (v : ViolationRecord) :
    permits lib spec (ofKey v.key) = permits lib spec v := rfl

/-- The policy with its permitted violations removed. -/
def withoutPermitted (lib : Apimachinery) (w : WorkloadNetworkPolicy) : WorkloadNetworkPolicy :=
  { w with status := w.status.deleteViolations (permits lib w.spec) }

/-! ## The call without acknowledgements -/

/-- The one case in which the program stops: a violation and no template to compare it with. -/
def dereferencesNil (w : WorkloadNetworkPolicy) : Bool :=
  w.spec.backend = .kubernetes && w.spec.kubernetes.isNone && !w.status.violations.isEmpty

lemma withoutPermitted_eq_self {lib : Apimachinery} {w : WorkloadNetworkPolicy}
    (h : ∀ v, permits lib w.spec v = false) : withoutPermitted lib w = w := by
  simp [withoutPermitted, WorkloadNetworkPolicyStatus.deleteViolations, h]

theorem clearAllowedViolations_eq_withoutPermitted (lib : Apimachinery) (w : WorkloadNetworkPolicy) :
    w.clearAllowedViolations lib = if dereferencesNil w then none else some (withoutPermitted lib w) := by
  unfold WorkloadNetworkPolicy.clearAllowedViolations
  cases hb : w.spec.backend with
  | kubernetes =>
    unfold WorkloadNetworkPolicy.clearAllowedKubernetesViolations
    cases hk : w.spec.kubernetes with
    | some template =>
      have hp : permits lib w.spec = kubernetesAllows lib template := by
        funext v
        simp [permits, hb, hk]
      simp [dereferencesNil, hk, withoutPermitted, hp]
    | none =>
      have hp : ∀ v, permits lib w.spec v = false := fun v => by simp [permits, hb, hk]
      rw [withoutPermitted_eq_self hp]
      by_cases hv : w.status.violations = [] <;> simp [dereferencesNil, hb, hk, hv]
  | istio =>
    unfold WorkloadNetworkPolicy.clearAllowedIstioViolations
    cases hi : w.spec.istio with
    | some spec =>
      have hp : permits lib w.spec = istioAllows spec := by
        funext v
        simp [permits, hb, hi]
      simp [dereferencesNil, hb, withoutPermitted, hp]
    | none =>
      have hp : ∀ v, permits lib w.spec v = false := fun v => by simp [permits, hb, hi]
      simp [dereferencesNil, hb, withoutPermitted_eq_self hp]
  | other name =>
    have hp : ∀ v, permits lib w.spec v = false := fun v => by simp [permits, hb]
    simp [dereferencesNil, hb, withoutPermitted_eq_self hp]

/-- No annotation of the policy acknowledges a violation. -/
def NoAcknowledgement (w : WorkloadNetworkPolicy) : Prop :=
  ∀ k ∈ w.annotations, acknowledgedID k = none

lemma acknowledges_eq_empty {w : WorkloadNetworkPolicy} (h : NoAcknowledgement w) :
    acknowledges w.annotations = ∅ := by
  unfold acknowledges
  have hentries : ∀ e ∈ w.annotations.entries, acknowledgedID e.1 = none := fun e he =>
    h e.1 (AList.mem_keys.2 (List.mem_map_of_mem he))
  generalize w.annotations.entries = entries at hentries
  induction entries with
  | nil => rfl
  | cons e entries ih =>
    rw [List.forall_mem_cons] at hentries
    rw [List.foldl_cons]
    simp only [hentries.1]
    exact ih hentries.2

lemma acknowledge_eq_self {w : WorkloadNetworkPolicy} (h : NoAcknowledgement w) (now : Time) :
    w.acknowledgeViolationsFromAnnotations now = (w, []) := by
  unfold WorkloadNetworkPolicy.acknowledgeViolationsFromAnnotations
  rw [acknowledges_eq_empty h]
  rfl

/-- The active violations after a call, `none` if it does not return. -/
def activeAfter (lib : Apimachinery) (w : WorkloadNetworkPolicy) (scraped : List ViolationRecord)
    (now : Time) : Option (List ViolationRecord) :=
  (w.recomputeStatus lib scraped now).map fun r => r.1.status.violations

/-- **The active violations are the newest hundred without the permitted ones.** -/
theorem activeAfter_eq (lib : Apimachinery) {w : WorkloadNetworkPolicy} (h : NoAcknowledgement w)
    (scraped : List ViolationRecord) (now : Time) : activeAfter lib w scraped now =
      if dereferencesNil { w with status := mergeScrapedViolations w.status scraped } then none
      else some ((mergeScrapedViolations w.status scraped).violations.filter
        fun v => !permits lib w.spec v) := by
  have hn : NoAcknowledgement (withoutPermitted lib
      { w with status := mergeScrapedViolations w.status scraped }) := h
  unfold activeAfter WorkloadNetworkPolicy.recomputeStatus
  by_cases hd : dereferencesNil { w with status := mergeScrapedViolations w.status scraped } = true
  · simp only [clearAllowedViolations_eq_withoutPermitted, if_pos hd]
    rfl
  · simp only [clearAllowedViolations_eq_withoutPermitted, if_neg hd, acknowledge_eq_self hn]
    rfl

/-! ## A run that does not see the permitted records -/

section TwoRuns

variable (lib : Apimachinery) (w : WorkloadNetworkPolicy) (scraped : List ViolationRecord)

/-- The violations between the merge loop and the cut, newest first. -/
def mergedNewestFirst : List ViolationRecord :=
  newestFirst (·.timestamp) (mergeLoop w.status scraped).violations

lemma entries_mergedNewestFirst : (mergedNewestFirst w scraped).map entry =
    sortDesc Prod.snd ((scraped.map entry).foldl observe (w.status.violations.map entry)) := by
  rw [mergedNewestFirst, map_entry_newestFirst, entries_mergeLoop]

lemma map_entry_filter (l : List ViolationRecord) :
    (l.filter fun v => !permits lib w.spec v).map entry =
      (l.map entry).filter fun e => !permits lib w.spec (ofKey e.1) := by
  rw [List.filter_map]
  rfl

/-- **The call through keys and times**: observe, cut, clear. -/
theorem entries_activeAfter (h : NoAcknowledgement w)
    (hspec : w.spec.backend = .kubernetes → w.spec.kubernetes.isSome) (now : Time) :
    (activeAfter lib w scraped now).map (·.map entry) =
      some ((newest maxViolationRecords ((scraped.map entry).foldl observe (w.status.violations.map entry))).filter
        fun e => !permits lib w.spec (ofKey e.1)) := by
  have hreturns : dereferencesNil { w with status := mergeScrapedViolations w.status scraped } = false := by
    unfold dereferencesNil
    by_cases hb : w.spec.backend = .kubernetes
    · obtain ⟨template, ht⟩ := Option.isSome_iff_exists.1 (hspec hb)
      simp [ht]
    · simp [hb]
  rw [activeAfter_eq lib h, hreturns, if_neg (by decide), Option.map_some, map_entry_filter,
    entries_mergeScrapedViolations]

lemma activeAfter_withoutPermitted_iff_of_returns (h : NoAcknowledgement w) (now : Time)
    (hspec : w.spec.backend = .kubernetes → w.spec.kubernetes.isSome) :
    (activeAfter lib (withoutPermitted lib w) (scraped.filter fun v => !permits lib w.spec v) now).map
        (·.map entry) = (activeAfter lib w scraped now).map (·.map entry) ↔
      (∀ v ∈ (mergedNewestFirst w scraped).drop maxViolationRecords, permits lib w.spec v = true) ∨
      ∀ v ∈ (mergedNewestFirst w scraped).take maxViolationRecords, permits lib w.spec v = false := by
  have hold : (withoutPermitted lib w).status.violations.map entry =
      (w.status.violations.map entry).filter fun e => !permits lib w.spec (ofKey e.1) :=
    map_entry_filter lib w w.status.violations
  have hrun' : (activeAfter lib (withoutPermitted lib w) (scraped.filter fun v => !permits lib w.spec v)
      now).map (·.map entry) = some ((((mergedNewestFirst w scraped).map entry).filter
        fun e => !permits lib w.spec (ofKey e.1)).take maxViolationRecords) := by
    rw [entries_activeAfter lib (withoutPermitted lib w) _ h hspec, hold, map_entry_filter,
      ← filter_foldl_observe (fun k => !permits lib w.spec (ofKey k)), newest, ← filter_sortDesc,
      ← entries_mergedNewestFirst, Option.some.injEq, List.filter_eq_self]
    -- this run has nothing left to clear
    intro e he
    exact (List.mem_filter.1 (List.mem_of_mem_take he)).2
  rw [hrun', entries_activeAfter lib w scraped h hspec, newest, ← entries_mergedNewestFirst,
    Option.some.injEq, eq_comm, filter_take_eq_iff, ← List.map_drop, ← List.map_take,
    List.forall_mem_map, List.forall_mem_map]
  simp only [entry, permits_ofKey, Bool.not_eq_true', Bool.not_eq_false']

/-- The two runs agree when a filter passes through the cut. -/
lemma activeAfter_withoutPermitted_iff (h : NoAcknowledgement w) (now : Time) :
    (activeAfter lib (withoutPermitted lib w) (scraped.filter fun v => !permits lib w.spec v) now).map
        (·.map entry) = (activeAfter lib w scraped now).map (·.map entry) ↔
      (∀ v ∈ (mergedNewestFirst w scraped).drop maxViolationRecords, permits lib w.spec v = true) ∨
      ∀ v ∈ (mergedNewestFirst w scraped).take maxViolationRecords, permits lib w.spec v = false := by
  by_cases hspec : w.spec.backend = .kubernetes → w.spec.kubernetes.isSome
  · exact activeAfter_withoutPermitted_iff_of_returns lib w scraped h now hspec
  · -- without a template nothing is permitted, and the runs are the same one
    obtain ⟨hb, hk⟩ := Classical.not_imp.1 hspec
    have hp : ∀ v, permits lib w.spec v = false := by
      intro v
      simp [permits, hb, Option.not_isSome_iff_eq_none.1 hk]
    have hscraped : (scraped.filter fun v => !permits lib w.spec v) = scraped := by
      simp [hp]
    rw [withoutPermitted_eq_self hp, hscraped]
    exact iff_of_true rfl (Or.inr fun v _ => hp v)

/-- A record that the cut drops has a hundred others at least as new. -/
lemma length_filter_of_mem_drop {v : ViolationRecord}
    (hv : v ∈ (mergedNewestFirst w scraped).drop maxViolationRecords) :
    maxViolationRecords <
      ((mergeLoop w.status scraped).violations.filter fun u => v.timestamp ≤ u.timestamp).length := by
  have hsorted : (mergedNewestFirst w scraped).Pairwise fun a b => b.timestamp ≤ a.timestamp :=
    newestFirst_pairwise _ _
  have hperm : (mergedNewestFirst w scraped).Perm (mergeLoop w.status scraped).violations :=
    List.perm_insertionSort _ _
  rw [← (hperm.filter fun u => decide (v.timestamp ≤ u.timestamp)).length_eq]
  rw [← List.take_append_drop maxViolationRecords (mergedNewestFirst w scraped)] at hsorted ⊢
  rw [List.pairwise_append] at hsorted
  have hall : ((mergedNewestFirst w scraped).take maxViolationRecords).filter
      (fun u => v.timestamp ≤ u.timestamp) = (mergedNewestFirst w scraped).take maxViolationRecords := by
    rw [List.filter_eq_self]
    intro u hu
    exact decide_eq_true (hsorted.2.2 u hu v hv)
  have hpos : 0 < (((mergedNewestFirst w scraped).drop maxViolationRecords).filter
      fun u => v.timestamp ≤ u.timestamp).length :=
    List.length_pos_of_mem (List.mem_filter.2 ⟨hv, by simp⟩)
  have hlen : maxViolationRecords ≤ (mergedNewestFirst w scraped).length := by
    by_contra hlt
    rw [List.drop_eq_nil_of_le (by omega)] at hv
    cases hv
  rw [List.filter_append, List.length_append, hall, List.length_take]
  omega

end TwoRuns

/-- **When permitted records make no difference.**  For a policy without acknowledgements, removing the
permitted records beforehand leaves the same keys and times exactly when none of them is among the newest
hundred of the merged list, or no denied one is beyond these.  And a denied violation is dropped only
when a hundred other merged violations, permitted or not, are at least as new. -/
theorem activeAfter_ignores_permitted_iff (lib : Apimachinery) (w : WorkloadNetworkPolicy)
    (hann : NoAcknowledgement w) (scraped : List ViolationRecord) (now : Time) :
    ((activeAfter lib (withoutPermitted lib w) (scraped.filter fun v => !permits lib w.spec v) now).map
          (·.map entry) = (activeAfter lib w scraped now).map (·.map entry) ↔
        (∀ v ∈ (mergedNewestFirst w scraped).drop maxViolationRecords, permits lib w.spec v = true) ∨
        ∀ v ∈ (mergedNewestFirst w scraped).take maxViolationRecords, permits lib w.spec v = false) ∧
      ∀ active, activeAfter lib w scraped now = some active →
        ∀ v ∈ (mergeLoop w.status scraped).violations, permits lib w.spec v = false → v ∉ active →
          maxViolationRecords < ((mergeLoop w.status scraped).violations.filter
            fun u => v.timestamp ≤ u.timestamp).length := by
  refine ⟨activeAfter_withoutPermitted_iff lib w scraped hann now, ?_⟩
  intro active hactive v hv hdenied hnot
  rw [activeAfter_eq lib hann] at hactive
  split at hactive
  · cases hactive
  · obtain rfl := Option.some.inj hactive
    apply length_filter_of_mem_drop
    have hmem : v ∈ mergedNewestFirst w scraped := (List.perm_insertionSort _ _).symm.subset hv
    rw [← List.take_append_drop maxViolationRecords (mergedNewestFirst w scraped), List.mem_append] at hmem
    refine hmem.resolve_left fun htake => hnot (List.mem_filter.2 ⟨htake, ?_⟩)
    rw [hdenied]
    rfl

/-- A permitted and a denied violation, far below the limit. -/
theorem activeAfter_ignores_permitted_below_limit :
    let selector : LabelSelector := { matchLabels := AList.singleton "app" "web" }
    let rules : List IstioAuthorizationPolicyRule := [{ to_ := [⟨⟨["1-100"]⟩⟩] }]
    let w : WorkloadNetworkPolicy :=
      { spec := ⟨⟨.istio, none, some { selector := selector, rules := rules }⟩,
          ⟨⟨workloadKindDeployment, "web"⟩, .ingress⟩, .monitor⟩ }
    let scraped : List ViolationRecord := [{ timestamp := 2, dstPort := 80 }, { timestamp := 1, dstPort := 443 }]
    (activeAfter .documented (withoutPermitted .documented w)
        (scraped.filter fun v => !permits .documented w.spec v) 9).map (·.map entry) =
      (activeAfter .documented w scraped 9).map (·.map entry) := by
  intro selector rules w scraped
  have hann : NoAcknowledgement w := fun k hk => absurd hk (AList.notMem_empty k)
  refine (activeAfter_ignores_permitted_iff .documented w hann scraped 9).1.2 (Or.inl ?_)
  intro v hv
  cases hv

/-- A denied violation loses its place to a hundred newer ones that are then cleared as permitted. -/
theorem permitted_evict_denied :
    let selector : LabelSelector := { matchLabels := AList.singleton "app" "web" }
    let rules : List IstioAuthorizationPolicyRule := [{ to_ := [⟨⟨["1-100"]⟩⟩] }]
    let permitted : List ViolationRecord :=
      (List.range 100).map fun i : Nat => { timestamp := 200 - i, dstPort := i + 1, id := i }
    let denied : ViolationRecord := { timestamp := 1, dstPort := 443 }
    let w : WorkloadNetworkPolicy :=
      { spec := ⟨⟨.istio, none, some { selector := selector, rules := rules }⟩,
          ⟨⟨workloadKindDeployment, "web"⟩, .ingress⟩, .monitor⟩
        status := { violationCount := 100, violations := permitted } }
    (activeAfter .documented w [denied] 300).map (·.map entry) = some [] ∧
      (activeAfter .documented (withoutPermitted .documented w)
        ([denied].filter fun v => !permits .documented w.spec v) 300).map (·.map entry) =
          some [entry denied] := by
  intro selector rules permitted denied w
  have hann : NoAcknowledgement w := fun k hk => absurd hk (AList.notMem_empty k)
  rw [entries_activeAfter .documented w [denied] hann (by decide),
    entries_activeAfter .documented (withoutPermitted .documented w) _ hann (by decide)]
  decide +kernel

end NetworkEnforcer.Status
